/-! The integers that a 64-bit word can hold.  `narrow?` takes an integer to the word with that
value, and gives nothing when there is no such word, so a result that passed through it never
wrapped around. -/

namespace Abacus

/-- The word whose value is `n`, if `-2^63 ≤ n < 2^63`. -/
def narrow? (n : Int) : Option Int64 :=
  if -9223372036854775808 ≤ n ∧ n < 9223372036854775808 then some (Int64.ofInt n) else none

theorem narrow?_eq_some {n : Int} (low : -9223372036854775808 ≤ n)
    (high : n < 9223372036854775808) : narrow? n = some (Int64.ofInt n) := by
  simp only [narrow?, low, high, and_self, if_true]

/-- Narrowing fails exactly outside the range of words. -/
theorem narrow?_eq_none_iff {n : Int} :
    narrow? n = none ↔ n < -9223372036854775808 ∨ 9223372036854775808 ≤ n := by
  unfold narrow?
  split <;> simp <;> omega

/-- Narrowing gives the word that has the integer as its value, and no other. -/
theorem narrow?_eq_some_iff {n : Int} {w : Int64} : narrow? n = some w ↔ w.toInt = n := by
  constructor
  · intro h
    unfold narrow? at h
    split at h
    · rename_i range
      cases h
      exact Int64.toInt_ofInt_of_le range.1 range.2
    · cases h
  · rintro rfl
    rw [narrow?_eq_some w.le_toInt w.toInt_lt, Int64.ofInt_toInt]

@[simp] theorem narrow?_toInt (w : Int64) : narrow? w.toInt = some w :=
  narrow?_eq_some_iff.mpr rfl

end Abacus
