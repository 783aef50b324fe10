import Abacus.Lexing
import Abacus.Text.Utf8

/-! Sources that arrive in pieces.  A source is the sequence of what its reads deliver: bytes, an
interruption, which is passed over, or a failure, which ends the reading at once.  A read that
delivers no bytes is the end of the source.  The bytes are joined before they are decoded, so a
character may be divided between two pieces. -/

namespace Abacus

/-- What one read of a source delivers. -/
inductive Delivery where
  | bytes (content : ByteArray)
  /-- The read has to be repeated. -/
  | interrupted
  /-- The read failed for the given reason. -/
  | failed (reason : String)

/-- The deliveries of a source, from the first to the last before its end. -/
structure Source where
  deliveries : List Delivery

namespace Source

/-- The source that delivers a text at once. -/
def ofText (text : String) : Source := ⟨[.bytes text.toUTF8]⟩

/-- The source that delivers its bytes at once. -/
def ofBytes (content : ByteArray) : Source := ⟨[.bytes content]⟩

/-- The bytes of the deliveries up to the first that has none, or the reason of the first failure
before it. -/
def join : List Delivery → Except String ByteArray
  | [] => .ok .empty
  | .bytes content :: later =>
    if content.size = 0 then .ok .empty else (join later).map (content ++ ·)
  | .interrupted :: later => join later
  | .failed reason :: _ => .error reason

/-- The text of the source, or the reason why it has none.  A failure to read comes before a failure
to decode. -/
def text (s : Source) : Except String String := join s.deliveries >>= Text.decode

/-- The lexing of the source.  A source without a text has no token. -/
def lex (s : Source) : Lexing :=
  match s.text with
  | .ok text => .ofText text
  | .error reason => .unreadable reason

@[simp] theorem join_singleton (content : ByteArray) : join [.bytes content] = .ok content := by
  by_cases nothing : content.size = 0
  · rw [join, if_pos nothing, ByteArray.size_eq_zero_iff.mp nothing]
  · simp [join, nothing, Except.map]

@[simp] theorem text_ofText (text : String) : (ofText text).text = .ok text := by
  change (join [.bytes text.toUTF8] >>= Text.decode) = _
  rw [join_singleton]
  exact Text.decode_toUTF8 text

@[simp] theorem lex_ofText (text : String) : (ofText text).lex = .ofText text := by
  simp [lex]

end Source

end Abacus
