import Abacus.Cut

/-! A place in a text from which tokens are read.  A cursor holds the characters still to be read
and the number of newlines before them, and nothing else: what it finds next depends on no earlier
reading.  Reading goes on behind a failure and stays at the end of the text once it is there. -/

namespace Abacus

/-- The rest of a text, and the number of newlines before it. -/
structure Cursor where
  rest : List Char
  lines : Nat := 0
  deriving Repr, DecidableEq

/-- The character separates lexemes and means nothing else. -/
def isBlank (c : Char) : Bool := c = ' ' || c = '\t' || c = '\r'

namespace Cursor

/-- The cursor at the start of a text. -/
def ofText (text : String) : Cursor := ⟨text.toList, 0⟩

/-- Passes over blanks and comments, from inside a comment if `inComment` holds.  A comment runs
from a number sign to the next newline, which belongs to it, or to the end of the text. -/
def skipFrom : (inComment : Bool) → List Char → Nat → Cursor
  | _, [], lines => ⟨[], lines⟩
  | true, c :: cs, lines =>
    if c = '\n' then skipFrom false cs (lines + 1) else skipFrom true cs lines
  | false, c :: cs, lines =>
    if isBlank c then skipFrom false cs lines
    else if c = '#' then skipFrom true cs lines
    else ⟨c :: cs, lines⟩

/-- The cursor behind the blanks and comments that it stands before. -/
def skipTrivia (s : Cursor) : Cursor := skipFrom false s.rest s.lines

/-- Reads one token.  The outcome is a token, nothing at the end of the text, or the cause of a
failure; with it comes the cursor behind the characters read. -/
def next (s : Cursor) : Except LexError (Option Token) × Cursor :=
  let here := s.skipTrivia
  match here.rest with
  | [] => (.ok none, here)
  | c :: cs =>
    let cut := Cut.first c cs
    (cut.found.map fun lexeme => some ⟨lexeme, here.lines + 1⟩,
      ⟨cut.rest, here.lines + cut.spelling.count '\n'⟩)

/-- Reads `n` times in a row, whatever the outcomes. -/
def readMany : Nat → Cursor → List (Except LexError (Option Token)) × Cursor
  | 0, s => ([], s)
  | n + 1, s =>
    let (outcome, behind) := s.next
    let (outcomes, last) := readMany n behind
    (outcome :: outcomes, last)

/-! ### Progress -/

theorem length_skipFrom_le (inComment : Bool) (cs : List Char) (lines : Nat) :
    (skipFrom inComment cs lines).rest.length ≤ cs.length := by
  fun_induction skipFrom inComment cs lines <;> simp_all <;> omega

theorem length_skipTrivia_le (s : Cursor) : s.skipTrivia.rest.length ≤ s.rest.length :=
  length_skipFrom_le false s.rest s.lines

/-- A reading that finds a token shortens what is left. -/
theorem length_next_lt {s behind : Cursor} {t : Token} (h : s.next = (.ok (some t), behind)) :
    behind.rest.length < s.rest.length := by
  have skipped := s.length_skipTrivia_le
  unfold next at h
  simp only at h
  split at h
  · cases h
  · rename_i c cs here
    have shorter := Cut.length_first_rest_lt c cs
    obtain ⟨-, rfl⟩ := Prod.mk.inj h
    rw [here] at skipped
    exact Nat.lt_of_lt_of_le shorter skipped

end Cursor

end Abacus
