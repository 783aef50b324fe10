import Abacus.Cursor

/-! The tokens of a whole text.  A lexing is the list of the tokens read, and how the reading
ended: at the end of the text, with the number of newlines in it, or at a failure.  The tokens in
front of a failure are kept, because a trace shows them. -/

namespace Abacus

/-- The tokens read from a text, and how the reading ended. -/
structure Lexing where
  tokens : List Token
  /-- The number of newlines passed, or the failure that stopped the reading. -/
  ending : Except LexFailure Nat

/-- All the tokens of a text, and the number of its newlines. -/
structure Lexed where
  tokens : List Token
  lines : Nat
  deriving Repr, DecidableEq

/-- The lexing with the token `t` in front. -/
def Lexing.cons (t : Token) (l : Lexing) : Lexing := { l with tokens := t :: l.tokens }

/-- The lexing of the rest of a text. -/
def Cursor.lex (s : Cursor) : Lexing :=
  match _h : s.next with
  | (.ok (some t), behind) => .cons t behind.lex
  | (.ok none, last) => ⟨[], .ok last.lines⟩
  | (.error e, last) => ⟨[], .error ⟨last.lines, e⟩⟩
termination_by s.rest.length
decreasing_by exact Cursor.length_next_lt _h

namespace Lexing

/-- The lexing of a text. -/
def ofText (text : String) : Lexing := (Cursor.ofText text).lex

/-- The lexing of a source that could not be read: no token, and a failure on the first line. -/
def unreadable (reason : String) : Lexing := ⟨[], .error ⟨0, .unreadable reason⟩⟩

/-- One line for each token read, also for those in front of a failure. -/
def trace (l : Lexing) : List String := l.tokens.map Token.trace

/-- All the tokens, if the reading came to the end of the text. -/
def result (l : Lexing) : Except LexFailure Lexed := l.ending.map fun lines => ⟨l.tokens, lines⟩

theorem eq_of_result {l : Lexing} {lexed : Lexed} (h : l.result = .ok lexed) :
    l = ⟨lexed.tokens, .ok lexed.lines⟩ := by
  obtain ⟨tokens, ending⟩ := l
  cases ending with
  | error failure => cases h
  | ok lines => cases h; rfl

theorem result_eq_error_iff {l : Lexing} {failure : LexFailure} :
    l.result = .error failure ↔ l.ending = .error failure := by
  obtain ⟨tokens, ending⟩ := l
  cases ending <;> simp [result, Except.map]

end Lexing

/-! ### The steps of a lexing -/

theorem Cursor.lex_token {s behind : Cursor} {t : Token} (h : s.next = (.ok (some t), behind)) :
    s.lex = .cons t behind.lex := by
  rw [Cursor.lex]
  split <;> simp_all

theorem Cursor.lex_end {s last : Cursor} (h : s.next = (.ok none, last)) :
    s.lex = ⟨[], .ok last.lines⟩ := by
  rw [Cursor.lex]
  split <;> simp_all

theorem Cursor.lex_failure {s last : Cursor} {e : LexError} (h : s.next = (.error e, last)) :
    s.lex = ⟨[], .error ⟨last.lines, e⟩⟩ := by
  rw [Cursor.lex]
  split <;> simp_all

end Abacus
