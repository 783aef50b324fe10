/-! Sets of characters given as tables of code point ranges.  A table is a plain list, and a
character belongs to the set if and only if one of the ranges holds its code point. -/

namespace Abacus.Unicode

/-- The code points from `first` to `last`, both included. -/
structure Range where
  first : Nat
  last : Nat
  deriving Repr, DecidableEq

/-- The code point `n` lies in the range. -/
def Range.contains (r : Range) (n : Nat) : Bool := r.first ≤ n && n ≤ r.last

/-- Some range of `table` holds the code point of `c`. -/
def inTable (table : List Range) (c : Char) : Bool := table.any (·.contains c.toNat)

end Abacus.Unicode
