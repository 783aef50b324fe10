/-! The operators on integers and their spellings. -/

namespace Abacus

/-- An operation on two integers. -/
inductive Operator where
  | add
  | subtract
  | multiply
  | divide
  | remainder
  | power
  deriving Repr, DecidableEq

namespace Operator

/-- The spelling of the operator. -/
def symbol : Operator → String
  | .add => "+"
  | .subtract => "-"
  | .multiply => "*"
  | .divide => "/"
  | .remainder => "%"
  | .power => "**"

/-- The operator with the given spelling, if there is one. -/
def ofSymbol? : String → Option Operator
  | "+" => some .add
  | "-" => some .subtract
  | "*" => some .multiply
  | "/" => some .divide
  | "%" => some .remainder
  | "**" => some .power
  | _ => none

/-- The operator of a spelling is the one that is spelled so. -/
theorem ofSymbol?_eq_some_iff {s : String} {op : Operator} :
    ofSymbol? s = some op ↔ s = op.symbol := by
  constructor
  · intro h
    unfold ofSymbol? at h
    split at h <;> cases h <;> rfl
  · rintro rfl
    cases op <;> rfl

@[simp] theorem ofSymbol?_symbol (op : Operator) : ofSymbol? op.symbol = some op :=
  ofSymbol?_eq_some_iff.mpr rfl

end Operator

end Abacus
