import Abacus.Arithmetic
import Mathlib.Algebra.Group.Int.Defs

/-! Operators on 64-bit words against the same operators on all integers.  A sum, difference,
product, quotient or remainder of words is the exact one wherever a word can hold it; the only
remainder refused besides those by zero is the one whose quotient is too large.  Quotients are cut
toward zero, and a remainder that is not zero has the sign of the dividend. -/

namespace Abacus

/-- The integer has a 64-bit word. -/
def IsWord (n : Int) : Prop := -2 ^ 63 ≤ n ∧ n < 2 ^ 63

instance (n : Int) : Decidable (IsWord n) := inferInstanceAs (Decidable (_ ∧ _))

theorem isWord_toInt (w : Int64) : IsWord w.toInt := ⟨w.le_toInt, w.toInt_lt⟩

theorem toInt_ofInt_of_isWord {n : Int} (h : IsWord n) : (Int64.ofInt n).toInt = n :=
  Int64.toInt_ofInt_of_le h.1 h.2

theorem isWord_iff_exists {n : Int} : IsWord n ↔ ∃ w : Int64, w.toInt = n := by
  constructor
  · intro h
    exact ⟨Int64.ofInt n, toInt_ofInt_of_isWord h⟩
  · rintro ⟨w, rfl⟩
    exact isWord_toInt w

/-- A quotient of words is a word, but for the least word by minus one. -/
theorem isWord_tdiv_iff (l r : Int64) (nonzero : r.toInt ≠ 0) :
    IsWord (l.toInt.tdiv r.toInt) ↔ ¬(l.toInt = -2 ^ 63 ∧ r.toInt = -1) := by
  have low := l.le_toInt
  have high := l.toInt_lt
  unfold IsWord
  by_cases minus : r.toInt = -1
  · rw [minus, Int.tdiv_neg, Int.tdiv_one]
    omega
  by_cases one : r.toInt = 1
  · rw [one, Int.tdiv_one]
    omega
  · -- The divisor is at least two in size, so that the quotient is at most half as large.
    have size : (l.toInt.tdiv r.toInt).natAbs = l.toInt.natAbs / r.toInt.natAbs :=
      Int.natAbs_tdiv l.toInt r.toInt
    have half : l.toInt.natAbs / r.toInt.natAbs ≤ l.toInt.natAbs / 2 :=
      Nat.div_le_div_left (by omega) (by decide)
    omega

theorem isWord_tmod (l r : Int64) (nonzero : r.toInt ≠ 0) : IsWord (l.toInt.tmod r.toInt) := by
  have low := r.le_toInt
  have high := r.toInt_lt
  have size := Int.natAbs_tmod l.toInt r.toInt
  have less : l.toInt.natAbs % r.toInt.natAbs < r.toInt.natAbs := Nat.mod_lt _ (by omega)
  unfold IsWord
  omega

/-- `q` is the quotient of `l` by `r`, cut toward zero, and `m` the remainder. -/
structure IsDivision (l r q m : Int) : Prop where
  whole : l = q * r + m
  small : m.natAbs < r.natAbs
  sign : m = 0 ∨ m.sign = l.sign

theorem isDivision_tdiv_tmod (l : Int) {r : Int} (nonzero : r ≠ 0) :
    IsDivision l r (l.tdiv r) (l.tmod r) where
  whole := (Int.tdiv_mul_add_tmod l r).symm
  small := by
    rw [Int.natAbs_tmod]
    exact Nat.mod_lt _ (Int.natAbs_pos.mpr nonzero)
  sign := by
    by_cases divides : r ∣ l
    · exact .inl (Int.tmod_eq_zero_of_dvd divides)
    · exact .inr ((Int.sign_tmod l r).trans (if_neg divides))

namespace Operator

theorem fit_eq (op : Operator) (line : Nat) (n : Int) :
    op.fit line n = if IsWord n then .ok (Int64.ofInt n) else .error (.overflow op line) := by
  unfold fit
  by_cases word : IsWord n
  · rw [narrow?_eq_some word.1 word.2, if_pos word]
  · have none : narrow? n = none := by
      unfold IsWord at word
      rw [narrow?_eq_none_iff]
      omega
    rw [none, if_neg word]

/-- The operator divides by its second operand. -/
def Divides (op : Operator) : Prop := op = .divide ∨ op = .remainder

instance (op : Operator) : Decidable op.Divides := inferInstanceAs (Decidable (_ ∨ _))

/-- The operator over all integers.  Quotients are cut toward zero, and an exponent below zero
counts as zero. -/
def exact (op : Operator) (l r : Int) : Int :=
  match op with
  | .add => l + r
  | .subtract => l - r
  | .multiply => l * r
  | .divide => l.tdiv r
  | .remainder => l.tmod r
  | .power => l ^ r.toNat

/-- The operands have a result, and a word can hold it.  The remainder of the least word by minus
one counts as too large, as its quotient is. -/
def Fits (op : Operator) (l r : Int) : Prop :=
  ¬(op.Divides ∧ r = 0) ∧ IsWord (op.exact l r) ∧ ¬(op = .remainder ∧ l = -2 ^ 63 ∧ r = -1)

instance (op : Operator) (l r : Int) : Decidable (op.Fits l r) :=
  inferInstanceAs (Decidable (_ ∧ _ ∧ _))

/-- An operator that divides has a result but for two sorts of operands. -/
theorem fits_iff_of_divides {op : Operator} (divides : op.Divides) (l r : Int64) :
    op.Fits l.toInt r.toInt ↔ r.toInt ≠ 0 ∧ ¬(l.toInt = -2 ^ 63 ∧ r.toInt = -1) := by
  by_cases zero : r.toInt = 0
  · exact iff_of_false (fun fits => fits.1 ⟨divides, zero⟩) fun some => some.1 zero
  rcases divides with rfl | rfl
  · simp [Fits, exact, zero, isWord_tdiv_iff l r zero]
  · simp [Fits, exact, zero, isWord_tmod l r zero]

theorem apply_eq_fit {op : Operator} (power : op ≠ .power) (remainder : op ≠ .remainder)
    {l r : Int64} (nonzero : ¬(op.Divides ∧ r.toInt = 0)) (line : Nat) :
    op.apply l r line = op.fit line (op.exact l.toInt r.toInt) := by
  cases op with
  | add | subtract | multiply => rfl
  | divide =>
    rw [apply, if_neg fun zero => nonzero ⟨.inl rfl, zero⟩]
    rfl
  | remainder => exact absurd rfl remainder
  | power => exact absurd rfl power

/-- A remainder is found through the quotient, which must fit as well. -/
theorem apply_remainder {l r : Int64} (nonzero : r.toInt ≠ 0) (line : Nat) :
    Operator.remainder.apply l r line =
      if ¬(l.toInt = -2 ^ 63 ∧ r.toInt = -1) then .ok (Int64.ofInt (l.toInt.tmod r.toInt))
      else .error (.overflow .remainder line) := by
  rw [apply, if_neg nonzero, fit_eq, fit_eq, if_pos (isWord_tmod l r nonzero)]
  simp only [isWord_tdiv_iff l r nonzero]
  split <;> rfl

/-- Powers apart, an operator applied to words gives the exact result where it fits, and otherwise
reports a division by zero or else an overflow of the operator. -/
theorem apply_eq {op : Operator} (power : op ≠ .power) (l r : Int64) (line : Nat) :
    op.apply l r line =
      if op.Fits l.toInt r.toInt then .ok (Int64.ofInt (op.exact l.toInt r.toInt))
      else if op.Divides ∧ r.toInt = 0 then .error (.divisionByZero line)
      else .error (.overflow op line) := by
  by_cases zero : op.Divides ∧ r.toInt = 0
  · rw [if_neg fun fits => fits.1 zero, if_pos zero]
    rcases zero with ⟨rfl | rfl, zero⟩ <;> rw [apply, if_pos zero]
  rw [if_neg zero]
  by_cases remainder : op = .remainder
  · subst remainder
    have nonzero : r.toInt ≠ 0 := fun none => zero ⟨.inr rfl, none⟩
    have fits : Operator.remainder.Fits l.toInt r.toInt ↔ ¬(l.toInt = -2 ^ 63 ∧ r.toInt = -1) := by
      rw [fits_iff_of_divides (.inr rfl), and_iff_right nonzero]
    rw [apply_remainder nonzero]
    simp only [fits]
    rfl
  · rw [apply_eq_fit power remainder zero, fit_eq]
    have fits : op.Fits l.toInt r.toInt ↔ IsWord (op.exact l.toInt r.toInt) := by
      simp [Fits, zero, remainder]
    simp only [fits]

/-- An operator fails at its own line: for a zero that it would divide by, or with an overflow of
its own. -/
theorem apply_error {op : Operator} {l r : Int64} {line : Nat} {e : EvalError}
    (h : op.apply l r line = .error e) :
    e = .divisionByZero line ∧ op.Divides ∨ e = .overflow op line := by
  by_cases power : op = .power
  · subst power
    unfold apply at h
    simp only at h
    split at h
    · cases h
    · cases h
      exact .inr rfl
  · rw [apply_eq power] at h
    split at h
    · cases h
    · split at h
      · rename_i zero
        cases h
        exact .inl ⟨rfl, zero.1⟩
      · cases h
        exact .inr rfl

/-- The exact result of the operator is `n`: it gives the word of `n` if there is one, and otherwise
overflows. -/
structure ComesExactlyTo (op : Operator) (l r : Int64) (line : Nat) (n : Int) : Prop where
  value : ∀ v, op.apply l r line = .ok v ↔ IsWord n ∧ v.toInt = n
  overflow : op.apply l r line = .error (.overflow op line) ↔ ¬IsWord n

theorem ComesExactlyTo.of_fit {op : Operator} {l r : Int64} {line : Nat} {n : Int}
    (h : op.apply l r line = op.fit line n) : op.ComesExactlyTo l r line n := by
  rw [fit_eq] at h
  by_cases word : IsWord n
  · rw [if_pos word] at h
    refine ⟨fun v => ?_, iff_of_false (by rw [h]; nofun) (not_not_intro word)⟩
    rw [h, Except.ok.injEq]
    constructor
    · rintro rfl
      exact ⟨word, toInt_ofInt_of_isWord word⟩
    · rintro ⟨-, exact⟩
      rw [← exact, Int64.ofInt_toInt]
  · rw [if_neg word] at h
    refine ⟨fun v => iff_of_false (by rw [h]; nofun) fun ⟨holds, _⟩ => word holds, ?_⟩
    exact iff_of_true h word

theorem apply_of_divides {op : Operator} (divides : op.Divides) (l r : Int64) (line : Nat) :
    op.apply l r line =
      if r.toInt = 0 then .error (.divisionByZero line)
      else if l.toInt = -2 ^ 63 ∧ r.toInt = -1 then .error (.overflow op line)
      else .ok (Int64.ofInt (op.exact l.toInt r.toInt)) := by
  have power : op ≠ .power := by
    rintro rfl
    exact absurd divides (by decide)
  have fits := fits_iff_of_divides divides l r
  rw [apply_eq power]
  by_cases zero : r.toInt = 0
  · rw [if_neg fun fit => (fits.mp fit).1 zero, if_pos ⟨divides, zero⟩, if_pos zero]
  rw [if_neg zero]
  by_cases least : l.toInt = -2 ^ 63 ∧ r.toInt = -1
  · rw [if_neg fun fit => (fits.mp fit).2 least, if_neg fun both => zero both.2, if_pos least]
  · rw [if_pos (fits.mpr ⟨zero, least⟩), if_neg least]

end Operator

/-- Operators on words are exact.  A sum, difference or product of words is the exact one if a word
can hold it, and otherwise an overflow of the operator, at its line.  Quotients and remainders alike
fail for a divisor of zero, and alike overflow for the least word by minus one.  In every other case
both are words, and the quotient times the divisor leaves the remainder, which is smaller than the
divisor and, if it is not zero, has the sign of the dividend. -/
theorem operators_compute_exactly (l r : Int64) (line : Nat) :
    Operator.add.ComesExactlyTo l r line (l.toInt + r.toInt) ∧
    Operator.subtract.ComesExactlyTo l r line (l.toInt - r.toInt) ∧
    Operator.multiply.ComesExactlyTo l r line (l.toInt * r.toInt) ∧
    (∀ op : Operator, op.Divides →
      (op.apply l r line = .error (.divisionByZero line) ↔ r.toInt = 0) ∧
      (op.apply l r line = .error (.overflow op line) ↔ l.toInt = -2 ^ 63 ∧ r.toInt = -1)) ∧
    (r.toInt ≠ 0 → ¬(l.toInt = -2 ^ 63 ∧ r.toInt = -1) → ∃ q m,
      Operator.divide.apply l r line = .ok q ∧ Operator.remainder.apply l r line = .ok m ∧
      IsDivision l.toInt r.toInt q.toInt m.toInt) := by
  refine ⟨.of_fit rfl, .of_fit rfl, .of_fit rfl, fun op divides => ?_, fun nonzero fine => ?_⟩
  · rw [Operator.apply_of_divides divides]
    by_cases zero : r.toInt = 0
    · rw [if_pos zero]
      exact ⟨iff_of_true rfl zero, iff_of_false nofun (by omega)⟩
    rw [if_neg zero]
    by_cases least : l.toInt = -2 ^ 63 ∧ r.toInt = -1
    · rw [if_pos least]
      exact ⟨iff_of_false nofun zero, iff_of_true rfl least⟩
    · rw [if_neg least]
      exact ⟨iff_of_false nofun zero, iff_of_false nofun least⟩
  · have quotient := Operator.apply_of_divides (.inl rfl : Operator.divide.Divides) l r line
    have remainder := Operator.apply_of_divides (.inr rfl : Operator.remainder.Divides) l r line
    rw [if_neg nonzero, if_neg fine] at quotient remainder
    refine ⟨_, _, quotient, remainder, ?_⟩
    rw [toInt_ofInt_of_isWord, toInt_ofInt_of_isWord]
    · exact isDivision_tdiv_tmod l.toInt nonzero
    · exact isWord_tmod l r nonzero
    · exact (isWord_tdiv_iff l r nonzero).mpr fine

/-- Minus seven by two leaves minus one.  The least word by minus one overflows as a remainder too,
and as a product. -/
theorem operators_compute_exactly_at_least_word :
    (∃ q m, Operator.divide.apply (-7) 2 4 = .ok q ∧ Operator.remainder.apply (-7) 2 4 = .ok m ∧
      IsDivision (-7) 2 q.toInt m.toInt) ∧
    Operator.remainder.apply Int64.minValue (-1) 4 = .error (.overflow .remainder 4) ∧
    Operator.multiply.apply Int64.minValue (-1) 4 = .error (.overflow .multiply 4) := by
  obtain ⟨-, -, -, -, divided⟩ := operators_compute_exactly (-7) 2 4
  obtain ⟨-, -, product, refused, -⟩ := operators_compute_exactly Int64.minValue (-1) 4
  refine ⟨divided (by decide) (by decide), ?_, product.overflow.mpr (by decide)⟩
  exact (refused .remainder (.inr rfl)).2.mpr (by decide)

end Abacus
