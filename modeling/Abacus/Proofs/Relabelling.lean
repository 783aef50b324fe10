import Abacus.Proofs.TreeReading
import Abacus.Script

/-! Tokens with other lines.  Evaluation looks at the role of a token, and at its line only to
report a failure.  So if the tokens are changed in a way that keeps their roles and moves their
lines, the evaluation writes the same log and has the same value, or the same error with its line
moved. -/

namespace Abacus

/-- The cause with its line moved by `f`. -/
def EvalError.mapLine (f : Nat → Nat) : EvalError → EvalError
  | .ranOutOfCode => .ranOutOfCode
  | .unrecognizedReference name line => .unrecognizedReference name (f line)
  | .typeMismatch operation found line => .typeMismatch operation found (f line)
  | .nestingTooDeep line => .nestingTooDeep (f line)
  | .divisionByZero line => .divisionByZero (f line)
  | .badLiteral text line => .badLiteral text (f line)
  | .overflow operation line => .overflow operation (f line)

/-- A change of tokens that keeps their roles and moves their lines. -/
structure Relabelling where
  token : Token → Token
  line : Nat → Nat
  role_token : ∀ t, (token t).role = t.role
  line_token : ∀ t, (token t).line = line t.line

/-! ### Operations on values -/

theorem literal_mapLine (f : Nat → Nat) (numeral : String) (line : Nat) :
    literal numeral (f line) = (literal numeral line).mapError (.mapLine f) := by
  unfold literal
  cases (Numeral.read? numeral.toList).bind narrow? <;> rfl

theorem expectInteger_mapLine (f : Nat → Nat) (v : Value) (operation : String) (line : Nat) :
    v.expectInteger operation (f line) =
      (v.expectInteger operation line).mapError (.mapLine f) := by
  cases v <;> rfl

theorem fit_mapLine (f : Nat → Nat) (op : Operator) (line : Nat) (n : Int) :
    op.fit (f line) n = (op.fit line n).mapError (.mapLine f) := by
  unfold Operator.fit
  cases narrow? n <;> rfl

theorem apply_mapLine (f : Nat → Nat) (op : Operator) (l r : Int64) (line : Nat) :
    op.apply l r (f line) = (op.apply l r line).mapError (.mapLine f) := by
  cases op with
  | add | subtract | multiply => exact fit_mapLine f _ line _
  | divide =>
    simp only [Operator.apply, fit_mapLine]
    by_cases zero : r.toInt = 0
    · simp only [zero, if_true]
      rfl
    · simp only [zero, if_false]
  | remainder =>
    simp only [Operator.apply, fit_mapLine]
    by_cases zero : r.toInt = 0
    · simp only [zero, if_true]
      rfl
    · simp only [zero, if_false]
      cases Operator.remainder.fit line (l.toInt.tdiv r.toInt) <;> rfl
  | power =>
    simp only [Operator.apply]
    cases Operator.doublePower? l r <;> rfl

/-! ### Computations on tokens -/

namespace Relabelling

variable (g : Relabelling)

/-- The computation with the tokens that it leaves, or its error, relabelled. -/
def after {α : Type} (x : Logged EvalError (α × List Token)) : Logged EvalError (α × List Token) :=
  x.bimap (fun (a, rest) => (a, rest.map g.token)) (.mapLine g.line)

theorem after_bind {α β : Type} {x : Logged EvalError (α × List Token)}
    {f h : α × List Token → Logged EvalError (β × List Token)}
    (next : ∀ a rest, x.result = .ok (a, rest) → h (a, rest.map g.token) = g.after (f (a, rest))) :
    g.after x >>= h = g.after (x >>= f) :=
  Logged.bimap_bind fun (a, rest) found => next a rest found

theorem after_lift {α β : Type} {x y : Except EvalError α}
    {f h : α → Logged EvalError (β × List Token)} (moved : y = x.mapError (.mapLine g.line))
    (next : ∀ a, x = .ok a → h a = g.after (f a)) :
    (liftM y >>= h) = g.after (liftM x >>= f) := by
  subst moved
  cases x with
  | error e => rfl
  | ok a => exact next a rfl

/-- The reader reads relabelled tokens as it reads the tokens. -/
def Respected (r : Reader) : Prop := ∀ tokens, r.read (tokens.map g.token) = g.after (r.read tokens)

section Readers

variable {g} {r : Reader} (respected : g.Respected r)
include respected

theorem integer_map (operation : String) (line : Nat) (tokens : List Token) :
    r.integer operation (g.line line) (tokens.map g.token) =
      g.after (r.integer operation line tokens) := by
  unfold Reader.integer
  rw [respected tokens]
  refine g.after_bind fun v rest _ => ?_
  exact g.after_lift (expectInteger_mapLine g.line v operation line) fun n _ => rfl

theorem fold_map (tokens : List Token) (total : Int64) :
    r.fold total (tokens.map g.token) = g.after (r.fold total tokens) := by
  induction tokens, total using Reader.block_induction (r := r) with
  | nil total =>
    rw [List.map_nil, Reader.fold_nil]
    rfl
  | closing t behind total role =>
    have role' : (g.token t).role = .closing := (g.role_token t).trans role
    rw [List.map_cons, Reader.fold_closing role, Reader.fold_closing role']
    rfl
  | operator t behind total op role ih =>
    have role' : (g.token t).role = .operator op := (g.role_token t).trans role
    rw [List.map_cons, Reader.fold_operator role, Reader.fold_operator role', g.line_token,
      integer_map respected]
    refine g.after_bind fun n rest read => ?_
    exact g.after_lift (apply_mapLine g.line op total n t.line) fun sum _ => ih n rest sum read
  | other t behind total closes operates =>
    have closes' : (g.token t).role ≠ .closing := by rwa [g.role_token]
    have operates' : ∀ op, (g.token t).role ≠ .operator op := by
      intro op
      rw [g.role_token]
      exact operates op
    rw [List.map_cons, Reader.fold_other closes operates, Reader.fold_other closes' operates']
    rfl

/-- One level of phrases around a reader that respects a relabelling respects it too. -/
theorem phrase_map (tokens : List Token) :
    r.phrase (tokens.map g.token) = g.after (r.phrase tokens) := by
  cases tokens with
  | nil => rfl
  | cons t behind =>
    rw [List.map_cons]
    cases role : t.role with
    | call name =>
      rw [Reader.phrase_call role, Reader.phrase_call ((g.role_token t).trans role), g.line_token]
      cases Builtin.find? name with
      | none => rfl
      | some function =>
        change (r.read (behind.map g.token) >>= _) = _
        rw [respected behind]
        refine g.after_bind fun argument rest _ => ?_
        cases function
        cases argument <;> rfl
    | operator op =>
      rw [Reader.phrase_operator role, Reader.phrase_operator ((g.role_token t).trans role),
        g.line_token, integer_map respected]
      refine g.after_bind fun l middle _ => ?_
      change (r.integer op.symbol (g.line t.line) (middle.map g.token) >>= _) = _
      rw [integer_map respected]
      refine g.after_bind fun m rest _ => ?_
      exact g.after_lift (apply_mapLine g.line op l m t.line) fun n _ => rfl
    | opening =>
      rw [Reader.phrase_opening role, Reader.phrase_opening ((g.role_token t).trans role),
        g.line_token, integer_map respected]
      refine g.after_bind fun n middle _ => ?_
      change (r.fold n (middle.map g.token) >>= _) = _
      rw [fold_map respected]
      exact g.after_bind fun total rest _ => rfl
    | text content =>
      rw [Reader.phrase_text role, Reader.phrase_text ((g.role_token t).trans role)]
      rfl
    | number numeral =>
      rw [Reader.phrase_number role, Reader.phrase_number ((g.role_token t).trans role),
        g.line_token]
      exact g.after_lift (literal_mapLine g.line numeral t.line) fun n _ => rfl
    | closing =>
      rw [Reader.phrase_idle (.inl role), Reader.phrase_idle (.inl ((g.role_token t).trans role))]
      rfl
    | idle =>
      rw [Reader.phrase_idle (.inr role), Reader.phrase_idle (.inr ((g.role_token t).trans role))]
      rfl

end Readers

theorem respected_within (depth : Nat) : g.Respected (Reader.within depth) := by
  induction depth with
  | zero =>
    intro tokens
    cases tokens with
    | nil => rfl
    | cons t behind =>
      change Logged.fail (EvalError.nestingTooDeep (g.token t).line) = _
      rw [g.line_token]
      rfl
  | succ depth ih => exact phrase_map ih

/-- A script of relabelled tokens is the script of the tokens, with the line of its error moved. -/
theorem run_map (tokens : List Token) :
    run (tokens.map g.token) = (run tokens).mapError (.mapLine g.line) := by
  induction tokens using run.induct with
  | case1 =>
    rw [List.map_nil, run_nil]
    rfl
  | case2 t behind ih =>
    have first : evaluate (g.token t :: behind.map g.token) = g.after (evaluate (t :: behind)) :=
      g.respected_within maxNesting (t :: behind)
    rw [List.map_cons, run_cons, run_cons, first, ← Logged.bimap_id_left]
    refine Logged.bimap_bind fun found read => ?_
    obtain ⟨v, rest⟩ := found
    have later : run (rest.map g.token) = (run rest).bimap id (.mapLine g.line) :=
      (ih v rest read).trans (Logged.bimap_id_left _ _).symm
    change (run (rest.map g.token) >>= _) = _
    rw [later]
    exact Logged.bimap_bind fun w _ => rfl

end Relabelling

end Abacus
