import Abacus.Proofs.TreeReading
import Abacus.Proofs.WordArithmetic
import Mathlib.Data.List.Induction
import Mathlib.Data.Nat.Digits.Defs

/-! Number tokens against decimal notation.  `Denotes` says which integer a text stands for: an
optional sign, and digits that count by their places.  A number token evaluates to the 64-bit
integer that its text denotes, whatever stands around it, and is a bad literal if there is none.
Since a displayed integer denotes itself, its display is read back as the same integer. -/

namespace Abacus

namespace Numeral

/-- What decimal digits add up to, each at its place. -/
def decimal (digits : List Char) : Nat := Nat.ofDigits 10 (digits.reverse.map digitValue)

/-- One or more ASCII digits. -/
def IsDigits (cs : List Char) : Prop := cs ≠ [] ∧ ∀ c ∈ cs, c.isDigit = true

instance (cs : List Char) : Decidable (IsDigits cs) :=
  decidable_of_iff (cs ≠ [] ∧ cs.all Char.isDigit = true) (by rw [List.all_eq_true]; rfl)

/-- The characters are digits, with at most one sign in front, and stand for the integer. -/
inductive Denotes : List Char → Int → Prop
  | unsigned {digits : List Char} (h : IsDigits digits) : Denotes digits (decimal digits)
  | plus {digits : List Char} (h : IsDigits digits) : Denotes ('+' :: digits) (decimal digits)
  | minus {digits : List Char} (h : IsDigits digits) : Denotes ('-' :: digits) (-decimal digits)

theorem decimal_append_singleton (digits : List Char) (c : Char) :
    decimal (digits ++ [c]) = 10 * decimal digits + digitValue c := by
  simp only [decimal, List.reverse_append, List.reverse_singleton, List.singleton_append,
    List.map_cons, Nat.ofDigits_cons]
  omega

theorem value_eq_decimal (digits : List Char) : value digits = decimal digits := by
  induction digits using List.reverseRecOn with
  | nil => rfl
  | append_singleton digits c ih =>
    rw [value_append_singleton, decimal_append_singleton, ih]

theorem natural?_eq_some_iff {cs : List Char} {n : Nat} :
    natural? cs = some n ↔ IsDigits cs ∧ decimal cs = n := by
  unfold natural? IsDigits
  rw [value_eq_decimal]
  split <;> simp_all

theorem read?_minus (digits : List Char) :
    read? ('-' :: digits) = (natural? digits).map fun n : Nat => -(n : Int) := by
  rw [read?]
  cases natural? digits <;> rfl

theorem read?_eq_some_iff {cs : List Char} {n : Int} : read? cs = some n ↔ Denotes cs n := by
  constructor
  · intro h
    unfold read? at h
    split at h
    · obtain ⟨m, read, rfl⟩ := Option.map_eq_some_iff.mp h
      obtain ⟨digits, rfl⟩ := natural?_eq_some_iff.mp read
      exact .plus digits
    · obtain ⟨m, read, rfl⟩ := Option.map_eq_some_iff.mp ((read?_minus _).symm.trans h)
      obtain ⟨digits, rfl⟩ := natural?_eq_some_iff.mp read
      exact .minus digits
    · obtain ⟨m, read, rfl⟩ := Option.map_eq_some_iff.mp h
      obtain ⟨digits, rfl⟩ := natural?_eq_some_iff.mp read
      exact .unsigned digits
  · intro h
    cases h with
    | plus digits => rw [read?, natural?_eq_some_iff.mpr ⟨digits, rfl⟩]; rfl
    | minus digits => rw [read?_minus, natural?_eq_some_iff.mpr ⟨digits, rfl⟩]; rfl
    | unsigned digits =>
      obtain ⟨c, cs, rfl⟩ := List.exists_cons_of_ne_nil digits.1
      rw [read?_of_isDigit (digits.2 c List.mem_cons_self),
        natural?_eq_some_iff.mpr ⟨digits, rfl⟩]
      rfl

theorem Denotes.unique {cs : List Char} {m n : Int} (h : Denotes cs m) (h' : Denotes cs n) :
    m = n :=
  Option.some.inj ((read?_eq_some_iff.mpr h).symm.trans (read?_eq_some_iff.mpr h'))

end Numeral

theorem literal_eq_ok_iff {text : String} {line : Nat} {v : Int64} :
    literal text line = .ok v ↔ Numeral.Denotes text.toList v.toInt := by
  rw [← Numeral.read?_eq_some_iff]
  unfold literal
  cases read : Numeral.read? text.toList with
  | none => simp
  | some n =>
    cases word : narrow? n with
    | none =>
      have far : n ≠ v.toInt := by
        rintro rfl
        simp at word
      simp [word, far]
    | some w =>
      have same : w.toInt = n := narrow?_eq_some_iff.mp word
      subst same
      simp [Int64.toInt_inj]

theorem literal_eq_error {text : String} {line : Nat}
    (h : ∀ v : Int64, ¬Numeral.Denotes text.toList v.toInt) :
    literal text line = .error (.badLiteral text line) := by
  cases value : literal text line with
  | ok v => exact absurd (literal_eq_ok_iff.mp value) (h v)
  | error e =>
    unfold literal at value
    split at value <;> simp_all

/-- A number token is evaluated by its text and line alone. -/
theorem evaluateInside_number {depth : Nat} (shallow : depth < maxNesting)
    (before rest : List Token) (text : String) (line : Nat) :
    evaluateInside (before ++ ⟨⟨.number, text⟩, line⟩ :: rest) before.length depth =
      ⟨[], (literal text line).map fun v => (.integer v, before.length + 1)⟩ := by
  obtain ⟨left, room⟩ : ∃ left, maxNesting - depth = left + 1 :=
    ⟨maxNesting - depth - 1, by omega⟩
  have behind : (before ++ ⟨⟨.number, text⟩, line⟩ :: rest : List Token).length - rest.length =
      before.length + 1 := by
    rw [List.length_append, List.length_cons]
    omega
  rw [evaluateInside, List.drop_left, room]
  change ((Reader.within left).phrase (⟨⟨.number, text⟩, line⟩ :: rest) >>= _) = _
  rw [Reader.phrase_number rfl]
  simp only [bind_assoc, pure_bind, behind]
  cases literal text line <;> rfl

/-- Wherever a number token stands, it evaluates to an integer exactly if its text denotes one of 64
bits, and then to that integer; otherwise it is a bad literal of its text and line.  The display of
an integer, the least one included, evaluates to the integer again. -/
theorem number_evaluates_exactly {depth : Nat} (shallow : depth < maxNesting)
    (before rest : List Token) (text : String) (line : Nat) :
    (∀ v : Int64, evaluateInside (before ++ ⟨⟨.number, text⟩, line⟩ :: rest) before.length depth =
        ⟨[], .ok (.integer v, before.length + 1)⟩ ↔
      ∃ n, Numeral.Denotes text.toList n ∧ IsWord n ∧ v.toInt = n) ∧
    (evaluateInside (before ++ ⟨⟨.number, text⟩, line⟩ :: rest) before.length depth =
        ⟨[], .error (.badLiteral text line)⟩ ↔
      ¬∃ n, Numeral.Denotes text.toList n ∧ IsWord n) ∧
    ∀ v : Int64, evaluateInside
        (before ++ ⟨⟨.number, (Value.integer v).display⟩, line⟩ :: rest) before.length depth =
      ⟨[], .ok (.integer v, before.length + 1)⟩ := by
  have number (text : String) (v : Int64) :
      evaluateInside (before ++ ⟨⟨.number, text⟩, line⟩ :: rest) before.length depth =
        ⟨[], .ok (.integer v, before.length + 1)⟩ ↔ literal text line = .ok v := by
    rw [evaluateInside_number shallow]
    cases literal text line <;> simp [Except.map]
  refine ⟨fun v => ?_, ?_, fun v => ?_⟩
  · rw [number, literal_eq_ok_iff]
    constructor
    · intro denotes
      exact ⟨v.toInt, denotes, isWord_toInt v, rfl⟩
    · rintro ⟨_, denotes, -, rfl⟩
      exact denotes
  · rw [evaluateInside_number shallow]
    constructor
    · rintro failed ⟨n, denotes, word⟩
      obtain ⟨v, rfl⟩ := isWord_iff_exists.mp word
      rw [literal_eq_ok_iff.mpr denotes] at failed
      cases failed
    · intro none
      rw [literal_eq_error fun v denotes => none ⟨_, denotes, isWord_toInt v⟩]
      rfl
  · rw [number, literal_eq_ok_iff]
    exact Numeral.read?_eq_some_iff.mp (Numeral.read?_render v.toInt)

/-- Inside 255 other phrases `-009` is minus nine and `--9` is a bad literal, and the least integer
is read back from its display. -/
theorem number_evaluates_at_limits :
    evaluateInside [⟨⟨.number, "-009"⟩, 4⟩] 0 255 = ⟨[], .ok (.integer (-9), 1)⟩ ∧
    evaluateInside [⟨⟨.number, "--9"⟩, 4⟩] 0 255 = ⟨[], .error (.badLiteral "--9" 4)⟩ ∧
    evaluateInside [⟨⟨.number, (Value.integer Int64.minValue).display⟩, 4⟩] 0 255 =
      ⟨[], .ok (.integer Int64.minValue, 1)⟩ := by
  have shallow : 255 < maxNesting := by decide
  refine ⟨?_, ?_, ?_⟩
  · refine ((number_evaluates_exactly shallow [] [] "-009" 4).1 (-9)).mpr ?_
    exact ⟨-9, @Numeral.Denotes.minus ['0', '0', '9'] (by decide), by decide, rfl⟩
  · refine (number_evaluates_exactly shallow [] [] "--9" 4).2.1.mpr ?_
    rintro ⟨n, denotes, -⟩
    cases Numeral.read?_eq_some_iff.mpr denotes
  · exact (number_evaluates_exactly shallow [] [] "" 4).2.2 Int64.minValue

end Abacus
