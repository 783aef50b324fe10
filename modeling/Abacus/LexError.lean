import Abacus.Numeral
import Abacus.Text.Escape

/-! The ways in which a text fails to be a sequence of tokens, and how each is reported. -/

namespace Abacus

/-- The cause of a failure to read tokens. -/
inductive LexError where
  /-- A string has no closing quote. -/
  | unterminatedString
  /-- The character starts no lexeme. -/
  | invalidCharacter (c : Char)
  /-- The text ends right behind the first character of an operator. -/
  | unexpectedEnd (after : Char)
  /-- The source could not be read as text, for the given reason. -/
  | unreadable (reason : String)
  deriving Repr, DecidableEq

/-- The report of a cause. -/
def LexError.message : LexError → String
  | .unterminatedString => "unterminated string literal"
  | .invalidCharacter c => "invalid character `" ++ Text.escape c ++ "`"
  | .unexpectedEnd c => "unexpected end of input after `" ++ String.singleton c ++ "`"
  | .unreadable reason => "failed to read source: " ++ reason

/-- A cause, and the number of newlines passed when it arose. -/
structure LexFailure where
  lines : Nat
  error : LexError
  deriving Repr, DecidableEq

/-- The line on which reading stopped, counted from one. -/
def LexFailure.line (f : LexFailure) : Nat := f.lines + 1

/-- The report of a failure: the line, then the cause. -/
def LexFailure.message (f : LexFailure) : String :=
  "line " ++ Numeral.render f.line ++ ": " ++ f.error.message

end Abacus
