import Abacus.Proofs.Chains
import Abacus.Proofs.Literals

/-! Totals over all integers.  `Expression.exact` evaluates an expression without any bound, and
`Expression.calculations` lists what that evaluation does, in order: each numeral that it reads and
each operator that it applies, with the operands.  The evaluation in 64 bits goes through the same
calculations and stops at the first that does not fit, so what it completes is exact. -/

namespace Abacus

/-- What is done with one token in the course of an evaluation over all integers. -/
inductive Calculation where
  | literal (t : Token)
  | operation (t : Token) (op : Operator) (l r : Int)
  deriving Repr, DecidableEq

namespace Calculation

/-- The calculation can be done with 64-bit words. -/
def Fits : Calculation → Prop
  | .literal t => IsWord (Numeral.decimal t.text.toList)
  | .operation _ op l r => op.Fits l r

instance : (c : Calculation) → Decidable c.Fits
  | .literal t => inferInstanceAs (Decidable (IsWord (Numeral.decimal t.text.toList)))
  | .operation _ op l r => inferInstanceAs (Decidable (op.Fits l r))

/-- The error of a calculation that does not fit, at its token. -/
def error : Calculation → EvalError
  | .literal t => .badLiteral t.text t.line
  | .operation t op _ r =>
    if op.Divides ∧ r = 0 then .divisionByZero t.line else .overflow op t.line

end Calculation

/-- The first of the calculations that does not fit. -/
def firstMisfit? (calculations : List Calculation) : Option Calculation :=
  calculations.find? fun c => ¬c.Fits

mutual

/-- The total of an expression over all integers, from left to right and without precedence. -/
def Expression.exact : Expression → Int
  | .number t _ => Numeral.decimal t.text.toList
  | .operation _ op _ left right => op.exact left.exact right.exact
  | .block _ _ first operands => operands.exact first.exact

def Operands.exact : Operands → Int → Int
  | .close _ _, n => n
  | .more _ op _ operand operands, n => operands.exact (op.exact n operand.exact)

end

mutual

/-- The calculations of an expression over all integers, in the order of evaluation. -/
def Expression.calculations : Expression → List Calculation
  | .number t _ => [.literal t]
  | .operation t op _ left right =>
    left.calculations ++ (right.calculations ++ [.operation t op left.exact right.exact])
  | .block _ _ first operands => first.calculations ++ operands.calculations first.exact

def Operands.calculations : Operands → Int → List Calculation
  | .close _ _, _ => []
  | .more t op _ operand operands, n =>
    operand.calculations ++ (.operation t op n operand.exact ::
      operands.calculations (op.exact n operand.exact))

end

mutual

/-- The numerals are digits without a sign, and no operator is a power. -/
def Expression.isPlain : Expression → Bool
  | .number t _ => Numeral.IsDigits t.text.toList
  | .operation _ op _ left right => op ≠ .power && left.isPlain && right.isPlain
  | .block _ _ first operands => first.isPlain && operands.isPlain

def Operands.isPlain : Operands → Bool
  | .close _ _ => true
  | .more _ op _ operand operands => op ≠ .power && operand.isPlain && operands.isPlain

end

/-! ### Evaluation through calculations -/

/-- How calculations with the result `n` end in 64 bits: with the word of `n` if all of them fit,
and else with the error of the first that does not. -/
inductive ComesTo (calculations : List Calculation) (n : Int) : Except EvalError Int64 → Prop
  | total {w : Int64} (fit : firstMisfit? calculations = none) (exact : w.toInt = n) :
      ComesTo calculations n (.ok w)
  | misfit {c : Calculation} (first : firstMisfit? calculations = some c) :
      ComesTo calculations n (.error c.error)

theorem ComesTo.bind {first later : List Calculation} {m n : Int} {x : Except EvalError Int64}
    {f : Int64 → Except EvalError Int64} (h : ComesTo first m x)
    (next : ∀ w : Int64, w.toInt = m → ComesTo later n (f w)) :
    ComesTo (first ++ later) n (x >>= f) := by
  have joined : firstMisfit? (first ++ later) = (firstMisfit? first).or (firstMisfit? later) :=
    List.find?_append
  cases h with
  | misfit stop => exact .misfit (by rw [joined, stop]; rfl)
  | @total w fit exact =>
    rw [fit, Option.none_or] at joined
    have second := next w exact
    show ComesTo (first ++ later) n (f w)
    generalize f w = y at second ⊢
    cases second with
    | total fit exact => exact .total (joined.trans fit) exact
    | misfit stop => exact .misfit (joined.trans stop)

theorem firstMisfit?_singleton (c : Calculation) :
    firstMisfit? [c] = if c.Fits then none else some c := by
  by_cases fits : c.Fits <;> simp [firstMisfit?, fits]

theorem comesTo_literal (t : Token) (digits : Numeral.IsDigits t.text.toList) :
    ComesTo [.literal t] (Numeral.decimal t.text.toList) (literal t.text t.line) := by
  by_cases word : IsWord (Numeral.decimal t.text.toList)
  · obtain ⟨w, exact⟩ := isWord_iff_exists.mp word
    have denotes : Numeral.Denotes t.text.toList w.toInt := exact ▸ .unsigned digits
    rw [literal_eq_ok_iff.mpr denotes]
    exact .total ((firstMisfit?_singleton _).trans (if_pos word)) exact
  · rw [literal_eq_error fun w denotes => word (denotes.unique (.unsigned digits) ▸ isWord_toInt w)]
    exact .misfit (c := .literal t) ((firstMisfit?_singleton _).trans (if_neg word))

theorem comesTo_apply (t : Token) {op : Operator} (power : op ≠ .power) (l r : Int64) :
    ComesTo [.operation t op l.toInt r.toInt] (op.exact l.toInt r.toInt)
      (op.apply l r t.line) := by
  rw [Operator.apply_eq power]
  by_cases fits : op.Fits l.toInt r.toInt
  · rw [if_pos fits]
    exact .total ((firstMisfit?_singleton _).trans (if_pos fits)) (toInt_ofInt_of_isWord fits.2.1)
  · rw [if_neg fits, ← apply_ite Except.error]
    show ComesTo _ _ (.error (Calculation.operation t op l.toInt r.toInt).error)
    exact .misfit ((firstMisfit?_singleton _).trans (if_neg fits))

mutual

theorem Expression.comesTo_total (e : Expression) (plain : e.isPlain = true) :
    ComesTo e.calculations e.exact e.total := by
  cases e with
  | number t kind => exact comesTo_literal t (of_decide_eq_true plain)
  | operation t op known left right =>
    simp only [Expression.isPlain, Bool.and_eq_true, decide_eq_true_eq] at plain
    obtain ⟨⟨power, first⟩, second⟩ := plain
    rw [Expression.calculations, Expression.exact, Expression.total]
    refine (left.comesTo_total first).bind fun l exact => ?_
    refine (right.comesTo_total second).bind fun r exact' => ?_
    rw [← exact, ← exact']
    exact comesTo_apply t power l r
  | block t kind first operands =>
    simp only [Expression.isPlain, Bool.and_eq_true] at plain
    rw [Expression.calculations, Expression.exact, Expression.total]
    refine (first.comesTo_total plain.1).bind fun n exact => ?_
    rw [← exact]
    exact operands.comesTo_total plain.2 n

theorem Operands.comesTo_total (operands : Operands) (plain : operands.isPlain = true) (n : Int64) :
    ComesTo (operands.calculations n.toInt) (operands.exact n.toInt) (operands.total n) := by
  cases operands with
  | close t kind => exact .total rfl rfl
  | more t op known operand operands =>
    simp only [Operands.isPlain, Bool.and_eq_true, decide_eq_true_eq] at plain
    obtain ⟨⟨power, first⟩, later⟩ := plain
    rw [Operands.calculations, Operands.exact, Operands.total]
    refine (operand.comesTo_total first).bind fun m exact => ?_
    rw [← exact]
    refine (comesTo_apply t power n m).bind fun sum exact => ?_
    rw [← exact]
    exact operands.comesTo_total later sum

end

theorem firstMisfit?_eq_none_iff {calculations : List Calculation} :
    firstMisfit? calculations = none ↔ ∀ c ∈ calculations, c.Fits := by
  simp [firstMisfit?]

/-- Wherever an expression stands, its evaluation logs nothing and has its total for result. -/
theorem evaluateAt_expression {e : Expression} (low : e.height ≤ maxNesting)
    (before rest : List Token) :
    evaluateAt (before ++ e.tokens ++ rest) before.length =
      ⟨[], e.total.map fun n => (.integer n, before.length + e.tokens.length)⟩ := by
  rw [← evaluateInside_zero, ← e.tokens_toTree, evaluateInside_eq_value, Nat.sub_zero,
    e.value_toTree low]
  cases e.total <;> rfl

/-- The evaluation of an expression of numerals and operators other than the power, not too high,
gives an integer exactly if every calculation of the same evaluation over all integers fits: no
division or remainder is by zero, every numeral and every result is a word, and no remainder is that
of the least word by minus one.  The integer is then the exact total.  Otherwise the evaluation
fails with the error of the first calculation that does not fit. -/
theorem totals_never_wrap {e : Expression} (plain : e.isPlain = true) (low : e.height ≤ maxNesting)
    (before rest : List Token) :
    ((∃ v, evaluateAt (before ++ e.tokens ++ rest) before.length =
        ⟨[], .ok (.integer v, before.length + e.tokens.length)⟩) ↔
      ∀ c ∈ e.calculations, c.Fits) ∧
    (∀ v, evaluateAt (before ++ e.tokens ++ rest) before.length =
        ⟨[], .ok (.integer v, before.length + e.tokens.length)⟩ → v.toInt = e.exact) ∧
    ∀ c, firstMisfit? e.calculations = some c →
      evaluateAt (before ++ e.tokens ++ rest) before.length = ⟨[], .error c.error⟩ := by
  have course := e.comesTo_total plain
  rw [evaluateAt_expression low, ← firstMisfit?_eq_none_iff]
  generalize e.total = result at course ⊢
  cases course with
  | total fit exact =>
    refine ⟨⟨fun _ => fit, fun _ => ⟨_, rfl⟩⟩, ?_, ?_⟩
    · rintro v ⟨⟩
      exact exact
    · intro c misfit
      cases fit.symm.trans misfit
  | misfit first =>
    refine ⟨⟨?_, fun fit => ?_⟩, ?_, ?_⟩
    · rintro ⟨v, ⟨⟩⟩
    · cases fit.symm.trans first
    · rintro v ⟨⟩
    · intro c misfit
      cases first.symm.trans misfit
      rfl

/-- The block `(0 - 9223372036854775807 - 1)`, whose total is the least word. -/
def leastTotal : Expression :=
  .block ⟨⟨.blockStart, "("⟩, 2⟩ rfl (.number ⟨⟨.number, "0"⟩, 2⟩ rfl)
    (.more ⟨⟨.arithmetic, "-"⟩, 2⟩ .subtract ⟨rfl, rfl⟩
      (.number ⟨⟨.number, "9223372036854775807"⟩, 2⟩ rfl)
      (.more ⟨⟨.arithmetic, "-"⟩, 2⟩ .subtract ⟨rfl, rfl⟩ (.number ⟨⟨.number, "1"⟩, 2⟩ rfl)
        (.close ⟨⟨.blockEnd, ")"⟩, 3⟩ rfl)))

/-- The remainder of that total by `(0 - 1)`. -/
def leastRemainder : Expression :=
  .operation ⟨⟨.arithmetic, "%"⟩, 1⟩ .remainder ⟨rfl, rfl⟩ leastTotal
    (.block ⟨⟨.blockStart, "("⟩, 3⟩ rfl (.number ⟨⟨.number, "0"⟩, 3⟩ rfl)
      (.more ⟨⟨.arithmetic, "-"⟩, 3⟩ .subtract ⟨rfl, rfl⟩ (.number ⟨⟨.number, "1"⟩, 3⟩ rfl)
        (.close ⟨⟨.blockEnd, ")"⟩, 3⟩ rfl)))

theorem leastTotal_and_remainder :
    (∃ v : Int64, evaluateAt leastTotal.tokens 0 = ⟨[], .ok (.integer v, 7)⟩ ∧
      v.toInt = -2 ^ 63) ∧
    evaluateAt leastRemainder.tokens 0 = ⟨[], .error (.overflow .remainder 1)⟩ := by
  have misfit : firstMisfit? leastRemainder.calculations =
      some (.operation ⟨⟨.arithmetic, "%"⟩, 1⟩ .remainder (-2 ^ 63) (-1)) := by
    decide +kernel
  obtain ⟨returns, exact, -⟩ := totals_never_wrap (e := leastTotal) (by decide) (by decide) [] []
  obtain ⟨-, -, fails⟩ := totals_never_wrap (e := leastRemainder) (by decide) (by decide) [] []
  rw [List.append_nil] at returns exact fails
  obtain ⟨v, value⟩ := returns.mpr (by decide +kernel)
  exact ⟨⟨v, value, (exact v value).trans (by decide +kernel)⟩, fails _ misfit⟩

end Abacus
