/-! Text read from bytes.  Bytes that are not the UTF-8 encoding of a text are refused. -/

namespace Abacus.Text

/-- The reason given for bytes that are not UTF-8. -/
def notUtf8 : String := "stream did not contain valid UTF-8"

/-- The text that the bytes encode, or the reason why there is none. -/
def decode (bytes : ByteArray) : Except String String :=
  match String.fromUTF8? bytes with
  | some text => .ok text
  | none => .error notUtf8

/-- Decoding undoes encoding. -/
@[simp] theorem decode_toUTF8 (text : String) : decode text.toUTF8 = .ok text := by
  have valid : text.toUTF8.IsValidUTF8 := text.isValidUTF8
  simp only [decode, String.fromUTF8?, valid, dite_true]
  rfl

/-- The bytes that decode to a text are its encoding, and no others. -/
theorem decode_eq_ok_iff {bytes : ByteArray} {text : String} :
    decode bytes = .ok text ↔ bytes = text.toUTF8 := by
  constructor
  · intro h
    unfold decode String.fromUTF8? at h
    split at h
    · rename_i decoded found
      split at found
      · cases h
        cases found
        rfl
      · cases found
    · cases h
  · rintro rfl
    exact decode_toUTF8 text

/-- The bytes that do not decode are those of no text. -/
theorem decode_eq_error_iff {bytes : ByteArray} {reason : String} :
    decode bytes = .error reason ↔ reason = notUtf8 ∧ ∀ text : String, text.toUTF8 ≠ bytes := by
  constructor
  · intro h
    refine ⟨?_, ?_⟩
    · unfold decode at h
      split at h <;> cases h
      rfl
    · rintro text rfl
      rw [decode_toUTF8] at h
      cases h
  · rintro ⟨rfl, garbled⟩
    cases decoded : decode bytes with
    | ok text => exact absurd (decode_eq_ok_iff.mp decoded).symm (garbled text)
    | error reason =>
      unfold decode at decoded
      split at decoded <;> cases decoded
      rfl

end Abacus.Text
