import Abacus.Events
import Abacus.Nesting

/-! The events of an evaluation without a limit, replayed with a check at each start.  Replayed with
no check they give the evaluation without a limit, and with a check that fails inside too many
phrases they give the evaluation with that limit.  One induction along the evaluation serves for
both. -/

namespace Abacus

/-! ### Replaying events -/

/-- What is done where a phrase starts in front of tokens, inside the phrases that other tokens
open. -/
abbrev Check : Type := (around tokens : List Token) → Logged EvalError Unit

namespace Check

variable (check : Check) {α β γ : Type} {behind : List Token}

/-- Writes the line of an event, or carries out the check at a start. -/
def step : Event → Logged EvalError Unit
  | .start around tokens => check around tokens
  | .line text => .write [text]

/-- The events one after the other, up to the first check that fails. -/
def replay (events : List Event) : Logged EvalError Unit := events.forM check.step

theorem replay_nil : check.replay [] = pure () := rfl

theorem replay_cons (e : Event) (events : List Event) :
    check.replay (e :: events) = check.step e >>= fun _ => check.replay events := by
  simp only [replay, List.forM_eq_forM, List.forM_cons]

theorem replay_append (first second : List Event) :
    check.replay (first ++ second) = check.replay first >>= fun _ => check.replay second := by
  simp only [replay, List.forM_eq_forM, List.forM_append]

theorem replay_lines (texts : List String) :
    check.replay (texts.map .line) = .write texts := by
  induction texts with
  | nil => rfl
  | cons text texts ih =>
    rw [List.map_cons, replay_cons, ih]
    rfl

/-- A traced computation with its events replayed. -/
def see (x : Traced α) : Logged EvalError α :=
  check.replay x.events >>= fun _ => .ofExcept x.result

theorem see_bind (x : Traced α) (f : α → Traced β) :
    check.see (x >>= f) = check.see x >>= fun a => check.see (f a) := by
  obtain ⟨events, result⟩ := x
  cases result with
  | error e =>
    simp only [see, bind_assoc]
    rfl
  | ok a =>
    change check.replay (events ++ (f a).events) >>= _ = _
    simp only [see, replay_append, bind_assoc]
    rfl

theorem see_lift (x : Logged EvalError α) : check.see (liftM x) = x := by
  change check.replay (x.log.map .line) >>= _ = _
  rw [replay_lines]
  exact Logged.ext (List.append_nil _) rfl

theorem see_emit (e : Event) : check.see (.emit e) = check.step e := by
  change check.replay [e] >>= pure = _
  rw [replay_cons, replay_nil]
  simp

theorem see_pure (a : α) : check.see (pure a) = pure a := check.see_lift (pure a)

theorem see_fail (e : EvalError) : check.see (.fail e : Traced α) = .fail e :=
  check.see_lift (.fail e)

/-! ### One induction for all checks -/

/-- What a computation leaves, without the proof that it is shorter. -/
def forget : α × Shorter behind → α × List Token := fun (a, rest) => (a, rest.val)

theorem see_then {x : Traced (α × Shorter behind)} {y : Logged EvalError (α × List Token)}
    (seen : (check.see x).map forget = y) {f : α × Shorter behind → Traced β} {k : β → γ}
    {g : α × List Token → Logged EvalError γ}
    (next : ∀ a rest, (check.see (f (a, rest))).map k = g (a, rest.val)) :
    (check.see (x >>= f)).map k = y >>= g := by
  subst seen
  rw [check.see_bind]
  exact (Logged.map_bind_of fun (a, rest) _ => (next a rest).symm).symm

theorem see_lift_then (x : Logged EvalError α) {f : α → Traced β} {k : β → γ}
    {g : α → Logged EvalError γ} (next : ∀ a, (check.see (f a)).map k = g a) :
    (check.see (liftM x >>= f)).map k = x >>= g := by
  rw [check.see_bind, Logged.map_bind, check.see_lift]
  simp only [next]

theorem see_pure_map (k : α → β) (a : α) : (check.see (pure a)).map k = pure (k a) := by
  rw [check.see_pure]
  rfl

theorem see_fail_map (k : α → β) (e : EvalError) : (check.see (.fail e)).map k = .fail e := by
  rw [check.see_fail]
  rfl

/-- The readers, one for each number of phrases around, carry out the check and then read a phrase
with the reader for one more around. -/
def Agrees (r : Nat → Reader) : Prop :=
  ∀ around tokens, (r around.length).read tokens =
    check around tokens >>= fun _ => (r (around.length + 1)).phrase tokens

variable {check} {r : Nat → Reader}

mutual

/-- The evaluation replayed with a check is what the readers that carry out the check read. -/
theorem see_watch (agrees : check.Agrees r) (around tokens : List Token) :
    (check.see (watch around tokens)).map forget = (r around.length).read tokens := by
  -- The start is where both sides carry out the check.  What follows it is one case per role, and
  -- the phrases inside are shorter lists with the first token among those around.
  rw [agrees around tokens, watch.eq_def, check.see_bind, Logged.map_bind, check.see_emit]
  refine congrArg (check around tokens >>= ·) (funext fun _ => ?_)
  match tokens with
  | [] => exact check.see_fail_map ..
  | t :: behind =>
    have inside := see_watch agrees (t :: around) behind
    cases role : t.role with
    | call name =>
      rw [Reader.phrase_call role]
      simp only [role]
      cases Builtin.find? name with
      | none => exact check.see_fail_map ..
      | some function =>
        refine check.see_then inside fun argument rest => ?_
        refine check.see_lift_then _ fun v => ?_
        exact check.see_pure_map ..
    | operator op =>
      rw [Reader.phrase_operator role]
      simp only [role, Reader.integer, bind_assoc, pure_bind]
      refine check.see_then inside fun v middle => ?_
      refine check.see_lift_then _ fun left => ?_
      have shorter := middle.property
      refine check.see_then (see_watch agrees (t :: around) middle.val) fun w rest => ?_
      refine check.see_lift_then _ fun right => ?_
      refine check.see_lift_then _ fun n => ?_
      exact check.see_pure_map ..
    | opening =>
      rw [Reader.phrase_opening role]
      simp only [role, Reader.integer, bind_assoc, pure_bind]
      refine check.see_then inside fun v middle => ?_
      refine check.see_lift_then _ fun first => ?_
      have shorter := middle.property
      refine check.see_then (see_watchFold agrees (t :: around) first middle.val) fun n rest => ?_
      exact check.see_pure_map ..
    | text content =>
      rw [Reader.phrase_text role]
      simp only [role]
      exact check.see_pure_map ..
    | number numeral =>
      rw [Reader.phrase_number role]
      simp only [role]
      refine check.see_lift_then _ fun n => ?_
      exact check.see_pure_map ..
    | closing =>
      rw [Reader.phrase_idle (.inl role)]
      simp only [role]
      exact check.see_pure_map ..
    | idle =>
      rw [Reader.phrase_idle (.inr role)]
      simp only [role]
      exact check.see_pure_map ..
termination_by tokens.length
decreasing_by
  all_goals
    simp only [List.length_cons]
    omega

theorem see_watchFold (agrees : check.Agrees r) (around : List Token) (total : Int64)
    (tokens : List Token) :
    (check.see (watchFold around total tokens)).map forget =
      (r around.length).fold total tokens := by
  match tokens with
  | [] =>
    rw [watchFold, Reader.fold_nil]
    exact check.see_fail_map ..
  | t :: behind =>
    by_cases closing : t.role = .closing
    · rw [watchFold, closing, Reader.fold_closing closing]
      exact check.see_pure_map ..
    · by_cases operator : ∃ op, t.role = .operator op
      · obtain ⟨op, role⟩ := operator
        rw [watchFold, role, Reader.fold_operator role]
        simp only [Reader.integer, bind_assoc, pure_bind]
        refine check.see_then (see_watch agrees around behind) fun v middle => ?_
        refine check.see_lift_then _ fun n => ?_
        refine check.see_lift_then _ fun total => ?_
        have shorter := middle.property
        rw [← bind_pure ((r around.length).fold total middle.val)]
        refine check.see_then (see_watchFold agrees around total middle.val) fun total rest => ?_
        exact check.see_pure_map ..
      · have other : ∀ op, t.role ≠ .operator op := by simpa using operator
        rw [Reader.fold_other closing other, watchFold]
        split
        · contradiction
        · rename_i op role
          exact absurd role (other op)
        · exact check.see_fail_map ..
termination_by tokens.length
decreasing_by
  all_goals
    simp only [List.length_cons]
    omega

end

/-! ### No check, and a limit -/

/-- Nothing is checked. -/
def free : Check := fun _ _ => pure ()

/-- Inside `n` other phrases, a phrase fails at its first token. -/
def limit (n : Nat) : Check
  | _, [] => pure ()
  | around, t :: _ => if around.length = n then .fail (.nestingTooDeep t.line) else pure ()

theorem free_agrees : free.Agrees fun _ => Reader.unlimited := fun _ tokens => by
  rw [Reader.unlimited_read tokens]
  rfl

/-- The readers of a limit carry out its check.  Beyond the limit nothing is left to check, because
no phrase is read there that was not refused before. -/
theorem limit_agrees (n : Nat) :
    (limit n).Agrees fun k => if k ≤ n then Reader.within (n - k) else Reader.unlimited := by
  intro around tokens
  rcases Nat.lt_trichotomy around.length n with inside | level | outside
  · have passes : limit n around tokens = pure () := by
      cases tokens with
      | nil => rfl
      | cons t behind => exact if_neg (Nat.ne_of_lt inside)
    have more : n - around.length = n - (around.length + 1) + 1 := by omega
    simp only [passes, pure_bind, if_pos (Nat.le_of_lt inside), if_pos (Nat.succ_le_of_lt inside),
      more]
    rfl
  · simp only [level, if_pos (Nat.le_refl n), Nat.sub_self]
    cases tokens with
    | nil => rfl
    | cons t behind =>
      have stops : limit n around (t :: behind) = .fail (.nestingTooDeep t.line) := if_pos level
      rw [stops]
      rfl
  · have passes : limit n around tokens = pure () := by
      cases tokens with
      | nil => rfl
      | cons t behind => exact if_neg (Nat.ne_of_gt outside)
    simp only [passes, pure_bind, if_neg (Nat.not_le_of_lt outside),
      if_neg (Nat.not_le_of_lt (Nat.lt_succ_of_lt outside))]
    exact Reader.unlimited_read tokens

end Check

end Abacus
