import Abacus.LexError
import Abacus.Pairing
import Abacus.Unicode.Alphabetic

/-! The first lexeme of a text.  A text that starts with neither a blank nor a comment is cut
behind its first lexeme, which is as long as it can be.  A text that starts with no lexeme is cut
behind the characters at fault.  Either way the spelling and the rest make up the text, and the
spelling is not empty. -/

namespace Abacus

/-- A text cut in two: the spelling of a lexeme, or of what is wrong, and the rest. -/
structure Cut where
  found : Except LexError Lexeme
  spelling : List Char
  rest : List Char

/-- The character opens and closes strings. -/
def isQuote (c : Char) : Bool := c = '\x27' || c = '\x22'

/-- The kind of a lexeme that is the single character `c` whatever follows. -/
def mark? : Char → Option Kind
  | '\n' => some .instructionEnd
  | ';' => some .instructionEnd
  | '(' => some .blockStart
  | ')' => some .blockEnd
  | _ => none

namespace Cut

/-- A string, behind its opening quote `q`: it ends at the next `q`. -/
def string (q : Char) (cs : List Char) : Cut :=
  let body := cs.takeWhile (· != q)
  match cs.dropWhile (· != q) with
  | [] => ⟨.error .unterminatedString, q :: body, []⟩
  | close :: rest => ⟨.ok ⟨.string, String.ofList body⟩, q :: (body ++ [close]), rest⟩

/-- An operator, behind its first character `c`: it takes a second character if `p` pairs the two.
An operator cannot be the last character of a text. -/
def operator (p : Pairing) (c : Char) : List Char → Cut
  | [] => ⟨.error (.unexpectedEnd c), [c], []⟩
  | d :: rest =>
    match p.kind? d with
    | some kind => ⟨.ok ⟨kind, String.ofList [c, d]⟩, [c, d], rest⟩
    | none => ⟨.ok ⟨p.alone, String.ofList [c]⟩, [c], d :: rest⟩

/-- The longest run of characters that satisfy `p`, behind its first character `c`. -/
def run (kind : Kind) (p : Char → Bool) (c : Char) (cs : List Char) : Cut :=
  let word := c :: cs.takeWhile p
  ⟨.ok ⟨kind, String.ofList word⟩, word, cs.dropWhile p⟩

/-- The cut of the text `c :: cs` behind its first lexeme. -/
def first (c : Char) (cs : List Char) : Cut :=
  if isQuote c then string c cs
  else
    match pairing? c with
    | some p => operator p c cs
    | none =>
      match mark? c with
      | some kind => ⟨.ok ⟨kind, String.ofList [c]⟩, [c], cs⟩
      | none =>
        if c.isDigit then run .number Char.isDigit c cs
        else if Unicode.isAlphabetic c then run .reference Unicode.isAlphabetic c cs
        else ⟨.error (.invalidCharacter c), [c], cs⟩

/-! ### Nothing is lost -/

theorem string_append (q : Char) (cs : List Char) :
    (string q cs).spelling ++ (string q cs).rest = q :: cs := by
  have whole := List.takeWhile_append_dropWhile (p := (· != q)) (l := cs)
  unfold string
  split <;> rename_i h <;> rw [h] at whole <;> simp_all

theorem operator_append (p : Pairing) (c : Char) (cs : List Char) :
    (operator p c cs).spelling ++ (operator p c cs).rest = c :: cs := by
  cases cs with
  | nil => rfl
  | cons d rest => simp only [operator]; split <;> rfl

theorem run_append (kind : Kind) (p : Char → Bool) (c : Char) (cs : List Char) :
    (run kind p c cs).spelling ++ (run kind p c cs).rest = c :: cs := by
  simp [run, List.takeWhile_append_dropWhile]

/-- The spelling and the rest make up the text. -/
theorem first_append (c : Char) (cs : List Char) :
    (first c cs).spelling ++ (first c cs).rest = c :: cs := by
  unfold first
  repeat' split
  · exact string_append c cs
  · exact operator_append _ c cs
  · rfl
  · exact run_append _ _ c cs
  · exact run_append _ _ c cs
  · rfl

/-! ### Progress -/

theorem string_spelling_ne_nil (q : Char) (cs : List Char) : (string q cs).spelling ≠ [] := by
  unfold string
  split <;> simp

theorem operator_spelling_ne_nil (p : Pairing) (c : Char) (cs : List Char) :
    (operator p c cs).spelling ≠ [] := by
  cases cs with
  | nil => simp [operator]
  | cons d rest => simp only [operator]; split <;> simp

/-- The spelling holds at least one character. -/
theorem first_spelling_ne_nil (c : Char) (cs : List Char) : (first c cs).spelling ≠ [] := by
  unfold first
  repeat' split
  · exact string_spelling_ne_nil c cs
  · exact operator_spelling_ne_nil _ c cs
  all_goals simp [run]

/-- The rest is shorter than the text. -/
theorem length_first_rest_lt (c : Char) (cs : List Char) :
    (first c cs).rest.length < (c :: cs).length := by
  have positive := List.length_pos_iff.mpr (first_spelling_ne_nil c cs)
  rw [← first_append c cs, List.length_append]
  omega

end Cut

end Abacus
