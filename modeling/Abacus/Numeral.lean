/-! Decimal numerals.  A numeral is an optional sign and a run of one or more ASCII digits, of any
length and with any number of leading zeros.  `read?` gives the integer that a numeral denotes, and
`render` writes an integer as the shortest of its numerals, with a sign only below zero. -/

namespace Abacus.Numeral

/-! ### Reading -/

/-- The value of the digit `c`. -/
def digitValue (c : Char) : Nat := c.toNat - '0'.toNat

/-- The value of a run of digits, the most significant first. -/
def value (digits : List Char) : Nat := digits.foldl (fun n c => 10 * n + digitValue c) 0

/-- The number that a run of digits denotes.  The empty run denotes nothing. -/
def natural? (digits : List Char) : Option Nat :=
  if !digits.isEmpty && digits.all Char.isDigit then some (value digits) else none

/-- The integer that a numeral denotes, if the characters are a numeral. -/
def read? : List Char → Option Int
  | '+' :: digits => (natural? digits).map Int.ofNat
  | '-' :: digits => (natural? digits).map fun n => -(n : Int)
  | digits => (natural? digits).map Int.ofNat

/-! ### Writing -/

/-- The digits of `n`, the most significant first. -/
def digits (n : Nat) : List Char :=
  if n < 10 then [n.digitChar] else digits (n / 10) ++ [(n % 10).digitChar]
termination_by n

/-- The numeral of an integer, without a plus sign and without leading zeros. -/
def render : Int → String
  | .ofNat n => String.ofList (digits n)
  | .negSucc n => String.ofList ('-' :: digits (n + 1))

/-! ### Reading undoes writing -/

theorem value_append_singleton (ds : List Char) (c : Char) :
    value (ds ++ [c]) = 10 * value ds + digitValue c := by
  simp [value]

theorem isDigit_digitChar {n : Nat} (h : n < 10) : n.digitChar.isDigit = true := by
  match n, h with
  | 0, _ | 1, _ | 2, _ | 3, _ | 4, _ | 5, _ | 6, _ | 7, _ | 8, _ | 9, _ => rfl

theorem digitValue_digitChar {n : Nat} (h : n < 10) : digitValue n.digitChar = n := by
  match n, h with
  | 0, _ | 1, _ | 2, _ | 3, _ | 4, _ | 5, _ | 6, _ | 7, _ | 8, _ | 9, _ => rfl

theorem digits_ne_nil (n : Nat) : digits n ≠ [] := by
  rw [digits]
  split <;> simp

theorem isDigit_of_mem_digits {n : Nat} : ∀ c ∈ digits n, c.isDigit = true := by
  fun_induction digits n with
  | case1 n small => simpa using isDigit_digitChar small
  | case2 n large ih =>
    intro c hc
    rcases List.mem_append.mp hc with hc | hc
    · exact ih c hc
    · rw [List.mem_singleton.mp hc]
      exact isDigit_digitChar (Nat.mod_lt n (by omega))

theorem value_digits (n : Nat) : value (digits n) = n := by
  fun_induction digits n with
  | case1 n small => simpa [value] using digitValue_digitChar small
  | case2 n large ih =>
    rw [value_append_singleton, ih, digitValue_digitChar (Nat.mod_lt n (by omega))]
    omega

theorem natural?_digits (n : Nat) : natural? (digits n) = some n := by
  have nonempty : (digits n).isEmpty = false := by
    simpa using digits_ne_nil n
  have all : (digits n).all Char.isDigit = true := List.all_eq_true.mpr isDigit_of_mem_digits
  simp [natural?, nonempty, all, value_digits]

/-- A numeral without a sign is read as its run of digits. -/
theorem read?_of_isDigit {c : Char} {cs : List Char} (h : c.isDigit = true) :
    read? (c :: cs) = (natural? (c :: cs)).map Int.ofNat := by
  unfold read?
  split <;> simp_all +decide

/-- The numeral of an integer denotes the integer. -/
theorem read?_render (n : Int) : read? (render n).toList = some n := by
  cases n with
  | ofNat n =>
    obtain ⟨c, cs, head⟩ := List.exists_cons_of_ne_nil (digits_ne_nil n)
    have digit : c.isDigit = true := isDigit_of_mem_digits c (head ▸ List.mem_cons_self)
    rw [render, String.toList_ofList, head, read?_of_isDigit digit, ← head, natural?_digits]
    rfl
  | negSucc n =>
    simp [render, read?, natural?_digits]
    omega

end Abacus.Numeral
