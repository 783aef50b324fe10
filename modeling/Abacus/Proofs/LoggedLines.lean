import Abacus.Proofs.Sessions
import Abacus.Proofs.TypedGrammar

/-! The lines that one phrase logs.  A call gives the empty value, and every phrase around a call
other than a further call refuses the empty value, so whatever logged a line is the last to do so.
A phrase therefore logs at most one line, and if it then fails, it fails for the empty value that
the line left behind. -/

namespace Abacus

/-- The computation logs nothing, or one line and then refuses an empty value. -/
inductive Quiet {α : Type} : Logged EvalError α → Prop where
  | silent (result : Except EvalError α) : Quiet ⟨[], result⟩
  | refused (line operation : String) (place : Nat) :
    Quiet ⟨[line], .error (.typeMismatch operation .empty place)⟩

theorem Quiet.bind {α β : Type} {x : Logged EvalError α} {f : α → Logged EvalError β}
    (h : Quiet x) (next : ∀ a, x.result = .ok a → Quiet (f a)) : Quiet (x >>= f) := by
  cases h with
  | silent result =>
    cases result with
    | error e => exact .silent (.error e)
    | ok a => exact next a rfl
  | refused line operation place => exact .refused line operation place

theorem Quiet.lift_bind {α β : Type} {x : Except EvalError α} {f : α → Logged EvalError β}
    (next : ∀ a, Quiet (f a)) : Quiet (liftM x >>= f) :=
  Quiet.bind (.silent x) fun a _ => next a

/-- The evaluation of a phrase is quiet, or has logged a line and is empty. -/
inductive Terse : Evaluation → Prop where
  | quiet {x : Evaluation} (h : Quiet x) : Terse x
  | logged (line : String) (rest : List Token) : Terse ⟨[line], .ok (.empty, rest)⟩

namespace Terse

theorem call {x : Evaluation} (h : Terse x) (function : Builtin) :
    Terse (do
      let (argument, rest) ← x
      let v ← function.call argument
      return (v, rest)) := by
  cases function
  cases h with
  | quiet h =>
    cases h with
    | silent result =>
      cases result with
      | error e => exact .quiet (.silent (.error e))
      | ok found =>
        obtain ⟨argument, rest⟩ := found
        simp only [Builtin.call_log, Logged.mk_ok_bind]
        cases argument.render? with
        | none => exact .quiet (.silent _)
        | some line => exact .logged line rest
    | refused line operation place => exact .quiet (.refused line operation place)
  | logged line rest =>
    -- The empty value is not rendered, so the call around adds nothing.
    exact .logged line rest

end Terse

namespace Reader

variable {r : Reader} (terse : ∀ tokens, Terse (r.read tokens))
include terse

theorem integer_quiet (operation : String) (line : Nat) (tokens : List Token) :
    Quiet (r.integer operation line tokens) := by
  have read := terse tokens
  unfold integer
  generalize r.read tokens = x at read ⊢
  cases read with
  | quiet h => exact h.bind fun _ _ => .lift_bind fun _ => .silent _
  | logged text rest => exact .refused text operation line

theorem fold_quiet (tokens : List Token) (total : Int64) : Quiet (r.fold total tokens) := by
  induction tokens, total using block_induction (r := r) with
  | nil total =>
    rw [fold_nil]
    exact .silent _
  | closing t behind total role =>
    rw [fold_closing role]
    exact .silent _
  | operator t behind total op role ih =>
    rw [fold_operator role]
    refine (integer_quiet terse op.symbol t.line behind).bind fun (n, rest) read => ?_
    exact .lift_bind fun sum => ih n rest sum read
  | other t behind total closes operates =>
    rw [fold_other closes operates]
    exact .silent _

/-- One level of phrases around terse phrases is terse. -/
theorem phrase_terse (tokens : List Token) : Terse (r.phrase tokens) := by
  cases tokens with
  | nil => exact .quiet (.silent _)
  | cons t behind =>
    cases role : t.role with
    | call name =>
      rw [phrase_call role]
      cases Builtin.find? name with
      | none => exact .quiet (.silent _)
      | some function => exact (terse behind).call function
    | operator op =>
      rw [phrase_operator role]
      refine .quiet ((integer_quiet terse op.symbol t.line behind).bind fun (_, middle) _ => ?_)
      refine (integer_quiet terse op.symbol t.line middle).bind fun _ _ => ?_
      exact .lift_bind fun _ => .silent _
    | opening =>
      rw [phrase_opening role]
      refine .quiet ((integer_quiet terse "(" t.line behind).bind fun (first, middle) _ => ?_)
      exact (fold_quiet terse middle first).bind fun _ _ => .silent _
    | text content =>
      rw [phrase_text role]
      exact .quiet (.silent _)
    | number numeral =>
      rw [phrase_number role]
      exact .quiet (.lift_bind fun _ => .silent _)
    | closing =>
      rw [phrase_idle (.inl role)]
      exact .quiet (.silent _)
    | idle =>
      rw [phrase_idle (.inr role)]
      exact .quiet (.silent _)

omit terse

theorem within_terse (depth : Nat) (tokens : List Token) : Terse ((within depth).read tokens) := by
  induction depth generalizing tokens with
  | zero => cases tokens <;> exact .quiet (.silent _)
  | succ depth ih => exact phrase_terse ih tokens

end Reader

/-- The evaluation of a phrase logs nothing, or one line and then is empty or refuses an empty
value. -/
theorem evaluateInside_log (tokens : List Token) (index depth : Nat) :
    (evaluateInside tokens index depth).log = [] ∨
      ∃ line, (evaluateInside tokens index depth).log = [line] ∧
        ((∃ next, (evaluateInside tokens index depth).result = .ok (.empty, next)) ∨
          ∃ operation place, (evaluateInside tokens index depth).result =
            .error (.typeMismatch operation .empty place)) := by
  unfold evaluateInside
  have read := Reader.within_terse (maxNesting - depth) (tokens.drop index)
  generalize (Reader.within (maxNesting - depth)).read (tokens.drop index) = x at read ⊢
  cases read with
  | quiet h =>
    cases h with
    | silent result => cases result <;> exact .inl rfl
    | refused line operation place => exact .inr ⟨line, rfl, .inr ⟨operation, place, rfl⟩⟩
  | logged line rest => exact .inr ⟨line, rfl, .inl ⟨_, rfl⟩⟩

/-- However many calls a phrase holds and however it ends, its evaluation logs at most one line.  If
it fails after it has logged a line, it fails for an empty value that an operation refused.  So a
phrase that fails for any other reason leaves a sink as it was. -/
theorem evaluateInside_logs_once (tokens : List Token) (index depth : Nat) :
    (evaluateInside tokens index depth).log.length ≤ 1 ∧
    ∀ e, (evaluateInside tokens index depth).result = .error e →
      ((evaluateInside tokens index depth).log ≠ [] →
        ∃ operation line, e = .typeMismatch operation .empty line) ∧
      ((∀ operation line, e ≠ .typeMismatch operation .empty line) →
        ∀ sink : Sink, sink.add (evaluateInside tokens index depth).log = sink) := by
  rcases evaluateInside_log tokens index depth with silent | ⟨line, log, ending⟩
  · refine ⟨by simp [silent], fun e _ => ⟨fun logged => absurd silent logged, fun _ sink => ?_⟩⟩
    rw [silent, sink.add_nil]
  · refine ⟨by simp [log], fun e failed => ?_⟩
    rcases ending with ⟨next, value⟩ | ⟨operation, place, refused⟩
    · cases value.symm.trans failed
    · cases refused.symm.trans failed
      exact ⟨fun _ => ⟨operation, place, rfl⟩, fun other => absurd rfl (other operation place)⟩

/-- `+ log log "a" 1` logs the text once and fails, because a call has no integer to give, and
`+ 1 log` fails for want of tokens and leaves a sink as it was. -/
theorem evaluateInside_of_called_operand :
    evaluateInside [⟨⟨.arithmetic, "+"⟩, 1⟩, ⟨⟨.reference, "log"⟩, 1⟩, ⟨⟨.reference, "log"⟩, 1⟩,
      ⟨⟨.string, "a"⟩, 2⟩, ⟨⟨.number, "1"⟩, 2⟩] 0 0 =
        ⟨["a"], .error (.typeMismatch "+" .empty 1)⟩ ∧
    (∃ operation line,
      EvalError.typeMismatch "+" .empty 1 = .typeMismatch operation .empty line) ∧
    ∀ sink : Sink, sink.add (evaluateInside [⟨⟨.arithmetic, "+"⟩, 1⟩, ⟨⟨.number, "1"⟩, 1⟩,
      ⟨⟨.reference, "log"⟩, 1⟩] 0 0).log = sink := by
  have called : evaluateInside [⟨⟨.arithmetic, "+"⟩, 1⟩, ⟨⟨.reference, "log"⟩, 1⟩,
      ⟨⟨.reference, "log"⟩, 1⟩, ⟨⟨.string, "a"⟩, 2⟩, ⟨⟨.number, "1"⟩, 2⟩] 0 0 =
        ⟨["a"], .error (.typeMismatch "+" .empty 1)⟩ := by
    rfl
  refine ⟨called, ?_, ?_⟩
  · refine ((evaluateInside_logs_once _ 0 0).2 _ (congrArg Logged.result called)).1 ?_
    rw [called]
    simp
  · exact ((evaluateInside_logs_once _ 0 0).2 .ranOutOfCode rfl).2 (by simp)

end Abacus
