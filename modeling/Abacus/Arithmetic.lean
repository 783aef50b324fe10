import Abacus.EvalError
import Abacus.Narrowing

/-! Arithmetic on 64-bit integers that never wraps around.  Sums, differences, products, quotients
and remainders are computed over the integers and narrowed at the end; a power is computed in
double precision and cut toward zero.  A result that no word can hold is an overflow. -/

namespace Abacus.Operator

/-- The word with the value `n`, or an overflow of the operator. -/
def fit (op : Operator) (line : Nat) (n : Int) : Except EvalError Int64 :=
  match narrow? n with
  | some w => .ok w
  | none => .error (.overflow op line)

/-- The bound of the words among the doubles, `2^63`. -/
def doubleBound : Float := 9223372036854775808.0

/-- The power of two words in double precision, cut toward zero, if a word can hold it. -/
def doublePower? (l r : Int64) : Option Int64 :=
  let power := Float.pow l.toFloat r.toFloat
  if -doubleBound ≤ power ∧ power < doubleBound then some power.toInt64 else none

/-- The result of the operator on two words; `line` is the place that a failure reports.  Quotients
are cut toward zero, so a remainder has the sign of the first operand.  A remainder whose quotient
overflows is itself an overflow. -/
def apply (op : Operator) (l r : Int64) (line : Nat) : Except EvalError Int64 :=
  match op with
  | .add => op.fit line (l.toInt + r.toInt)
  | .subtract => op.fit line (l.toInt - r.toInt)
  | .multiply => op.fit line (l.toInt * r.toInt)
  | .divide =>
    if r.toInt = 0 then .error (.divisionByZero line) else op.fit line (l.toInt.tdiv r.toInt)
  | .remainder =>
    if r.toInt = 0 then .error (.divisionByZero line)
    else do
      let _ ← op.fit line (l.toInt.tdiv r.toInt)
      op.fit line (l.toInt.tmod r.toInt)
  | .power =>
    match doublePower? l r with
    | some n => .ok n
    | none => .error (.overflow op line)

end Abacus.Operator
