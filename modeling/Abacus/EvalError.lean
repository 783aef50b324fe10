import Abacus.Operator
import Abacus.Value

/-! The ways in which the evaluation of tokens fails, and how each is reported. -/

namespace Abacus

/-- The cause of a failure to evaluate.  Every cause but the first holds the line of the token that
it arose at. -/
inductive EvalError where
  /-- A token was missing, or was not one that could stand in its place. -/
  | ranOutOfCode
  /-- The name belongs to no built-in function. -/
  | unrecognizedReference (name : String) (line : Nat)
  /-- The operation needed an integer and found a value of another type. -/
  | typeMismatch (operation : String) (found : Value.Kind) (line : Nat)
  /-- The phrase stands inside too many others. -/
  | nestingTooDeep (line : Nat)
  | divisionByZero (line : Nat)
  /-- The text is no numeral of a 64-bit integer. -/
  | badLiteral (text : String) (line : Nat)
  /-- The result of the operation is no 64-bit integer. -/
  | overflow (operation : Operator) (line : Nat)
  deriving Repr, DecidableEq

/-- The place of a cause in a report. -/
def onLine (line : Nat) : String := " (line " ++ Numeral.render line ++ ")"

/-- The report of a cause. -/
def EvalError.message : EvalError → String
  | .ranOutOfCode => "ran out of code"
  | .unrecognizedReference name line => "reference `" ++ name ++ "` not recognized" ++ onLine line
  | .typeMismatch operation found line =>
    "`" ++ operation ++ "` expected " ++ Value.Kind.integer.label ++ " but found " ++ found.label
      ++ onLine line
  | .nestingTooDeep line => "nesting too deep" ++ onLine line
  | .divisionByZero line => "division by zero" ++ onLine line
  | .badLiteral text line => "bad number literal `" ++ text ++ "`" ++ onLine line
  | .overflow operation line => "integer overflow in `" ++ operation.symbol ++ "`" ++ onLine line

/-- The integer that the value is, where an operation needs one. -/
def Value.expectInteger (v : Value) (operation : String) (line : Nat) : Except EvalError Int64 :=
  match v.toInteger? with
  | some n => .ok n
  | none => .error (.typeMismatch operation v.kind line)

theorem Value.expectInteger_eq_ok {v : Value} {operation : String} {line : Nat} {n : Int64}
    (h : v.expectInteger operation line = .ok n) : v = .integer n := by
  cases v with
  | integer m => cases h; rfl
  | text content => cases h
  | empty => cases h

end Abacus
