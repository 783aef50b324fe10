import Abacus.EvalError
import Abacus.LexError

/-! The errors of an interpreter, which join those of its parts. -/

namespace Abacus

/-- Why a source gave no value. -/
inductive Error where
  | lex (failure : LexFailure)
  | runtime (error : EvalError)
  /-- Something outside the source could not be used, for the given reason. -/
  | io (reason : String)
  deriving Repr, DecidableEq

namespace Error

/-- The report of an error. -/
def message : Error → String
  | .lex failure => "Error on " ++ failure.message
  | .runtime error => "Runtime error: " ++ error.message
  | .io reason => "I/O error: " ++ reason

/-- The reports of what lies behind an error, from the nearest to the farthest. -/
def causes : Error → List String
  | .lex failure =>
    [failure.message, failure.error.message] ++
      match failure.error with
      | .unreadable reason => [reason]
      | _ => []
  | .runtime error => [error.message]
  | .io _ => []

end Error

end Abacus
