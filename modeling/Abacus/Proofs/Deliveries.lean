import Abacus.Source

/-! Sources however they arrive.  What a source lexes to depends on the bytes that its deliveries
bring together, not on where they are divided or how often a read is interrupted.  If the bytes are
the encoding of a text, the source lexes as the text does, and if they are the encoding of none, or
a read fails behind them, then nothing of the source is lexed, whatever the bytes before were. -/

namespace Abacus

/-- The deliveries bring the bytes in pieces that are not empty, with any interruptions between. -/
inductive Brings : List Delivery → ByteArray → Prop where
  | nothing : Brings [] .empty
  | piece {content rest : ByteArray} {later : List Delivery} (full : content.size ≠ 0)
    (more : Brings later rest) : Brings (.bytes content :: later) (content ++ rest)
  | interruption {rest : ByteArray} {later : List Delivery} (more : Brings later rest) :
    Brings (.interrupted :: later) rest

theorem Brings.join_eq {deliveries : List Delivery} {content : ByteArray}
    (h : Brings deliveries content) : Source.join deliveries = .ok content := by
  induction h with
  | nothing => rfl
  | piece full _ ih => rw [Source.join, if_neg full, ih]; rfl
  | interruption _ ih => exact ih

/-- A failure behind the bytes ends the reading, whatever would come later. -/
theorem Brings.join_failed {deliveries : List Delivery} {content : ByteArray}
    (h : Brings deliveries content) (reason : String) (later : List Delivery) :
    Source.join (deliveries ++ .failed reason :: later) = .error reason := by
  induction h with
  | nothing => rfl
  | piece full _ ih => rw [List.cons_append, Source.join, if_neg full, ih]; rfl
  | interruption _ ih => exact ih

theorem Text.decode_eq_error {content : ByteArray}
    (h : ∀ text : String, text.toList.utf8Encode ≠ content) : decode content = .error notUtf8 := by
  refine decode_eq_error_iff.mpr ⟨rfl, fun text bytes => h text ?_⟩
  rw [String.utf8Encode_toList]
  exact bytes

namespace Source

theorem lex_eq_unreadable {source : Source} {reason : String} (h : source.text = .error reason) :
    source.lex.result = .error ⟨0, .unreadable reason⟩ ∧ source.lex.trace = [] := by
  rw [lex, h]
  exact ⟨rfl, rfl⟩

/-- Deliveries that bring the bytes of a text lex as the text does; if a read fails behind them, or
if the bytes are those of no text, the source fails on its first line and no token is traced. -/
theorem lex_of_brings {deliveries : List Delivery} {content : ByteArray}
    (brings : Brings deliveries content) :
    (∀ text : String, text.toList.utf8Encode = content →
      (Source.mk deliveries).lex = .ofText text) ∧
    (∀ (reason : String) (later : List Delivery),
      let source := Source.mk (deliveries ++ .failed reason :: later)
      source.lex.result = .error ⟨0, .unreadable reason⟩ ∧ source.lex.trace = []) ∧
    ((∀ text : String, text.toList.utf8Encode ≠ content) →
      let source := Source.mk deliveries
      source.lex.result = .error ⟨0, .unreadable Text.notUtf8⟩ ∧ source.lex.trace = []) := by
  refine ⟨fun text encoded => ?_, fun reason later => ?_, fun undecodable => ?_⟩
  · have decoded : (Source.mk deliveries).text = .ok text := by
      rw [Source.text, brings.join_eq, ← encoded, String.utf8Encode_toList]
      exact Text.decode_toUTF8 text
    rw [lex, decoded]
  · refine lex_eq_unreadable ?_
    rw [Source.text, brings.join_failed]
    rfl
  · refine lex_eq_unreadable ?_
    rw [Source.text, brings.join_eq]
    exact Text.decode_eq_error undecodable

/-- A character divided between two reads, with an interruption between them, is whole again.  If the
second read fails, or never comes, the semicolon before the character is not traced. -/
theorem lex_of_divided_character :
    (Source.mk [.bytes ⟨#[0x3B, 0xC3]⟩, .interrupted, .bytes ⟨#[0xA9]⟩]).lex = .ofText ";é" ∧
      (Source.mk [.bytes ⟨#[0x3B, 0xC3]⟩, .interrupted, .failed "gone"]).lex.result =
        .error ⟨0, .unreadable "gone"⟩ ∧
      (Source.mk [.bytes ⟨#[0x3B, 0xC3]⟩, .interrupted]).lex.trace = [] := by
  have half : Brings [.bytes ⟨#[0x3B, 0xC3]⟩, .interrupted] ⟨#[0x3B, 0xC3]⟩ :=
    .piece (by decide) (.interruption .nothing)
  have whole : Brings [.bytes ⟨#[0x3B, 0xC3]⟩, .interrupted, .bytes ⟨#[0xA9]⟩]
      ⟨#[0x3B, 0xC3, 0xA9]⟩ :=
    .piece (by decide) (.interruption (.piece (by decide) .nothing))
  have undecodable : ∀ text : String, text.toList.utf8Encode ≠ ⟨#[0x3B, 0xC3]⟩ := by
    intro text same
    have valid := text.isValidUTF8
    rw [← String.utf8Encode_toList, same] at valid
    exact absurd valid (by decide)
  exact ⟨(lex_of_brings whole).1 ";é" (by decide), ((lex_of_brings half).2.1 "gone" []).1,
    ((lex_of_brings half).2.2 undecodable).2⟩

end Source

end Abacus
