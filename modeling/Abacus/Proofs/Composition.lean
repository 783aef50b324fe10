import Abacus.Proofs.TypedGrammar
import Abacus.Nesting
import Abacus.Script

/-! Scripts put together.  A reading goes on as it would without the tokens that come later unless
it runs out of tokens, and it cannot run out of tokens that end with an idle one: whatever is open
there meets an empty value first, and refuses it.  So the script of two lists of tokens is the
script of the first and then of the second, if the first has a value or ends an instruction. -/

namespace Abacus

/-! ### Lists that end with an idle token -/

/-- The last of the tokens is idle. -/
def Sealed (tokens : List Token) : Prop := ∃ t ∈ tokens.getLast?, t.role = .idle

theorem not_sealed_nil : ¬Sealed [] := by
  simp [Sealed]

theorem Sealed.of_append (front : List Token) {rest : List Token} (h : Sealed (front ++ rest))
    (ne : rest ≠ []) : Sealed rest := by
  obtain ⟨t, last, idle⟩ := h
  rw [List.getLast?_append, Option.or_of_isSome (List.getLast?_isSome.mpr ne)] at last
  exact ⟨t, last, idle⟩

theorem Sealed.tail {t : Token} {behind : List Token} (h : Sealed (t :: behind))
    (busy : t.role ≠ .idle) : Sealed behind := by
  refine Sealed.of_append [t] h fun empty => ?_
  subst empty
  obtain ⟨u, last, idle⟩ := h
  cases Option.mem_def.mp last
  exact busy idle

theorem Lexeme.IsIntegral.role_ne_idle {l : Lexeme} (h : l.IsIntegral) : l.role ≠ .idle := by
  rcases h with kind | ⟨kind, op, symbol⟩ | kind | kind
  · rw [role_eq_number_iff.mpr ⟨kind, rfl⟩]
    simp
  · rw [role_eq_operator_iff.mpr ⟨kind, symbol⟩]
    simp
  · rw [role_eq_opening_iff.mpr kind]
    simp
  · rw [role_eq_closing_iff.mpr kind]
    simp

/-- An integer is never read up to the end of a list that ends with an idle token. -/
theorem Sealed.of_read_integer {depth : Nat} {tokens rest : List Token} {n : Int64}
    (h : Sealed tokens) (read : ((Reader.within depth).read tokens).result = .ok (.integer n, rest)) :
    Sealed rest := by
  -- Every token of an expression is integral, so none of them is the idle one at the end.
  obtain ⟨e, rfl⟩ := exists_expression_of_read read
  refine h.of_append e.tokens fun empty => ?_
  subst empty
  obtain ⟨t, last, idle⟩ := h
  rw [List.append_nil] at last
  have member : t ∈ e.tokens := List.mem_of_getLast? last
  exact (e.isIntegral_of_mem member).role_ne_idle idle

/-! ### Computations that later tokens do not change -/

/-- The computation with more tokens behind those that it leaves. -/
def Logged.leaving {α : Type} (later : List Token) (x : Logged EvalError (α × List Token)) :
    Logged EvalError (α × List Token) :=
  x.map fun (a, rest) => (a, rest ++ later)

theorem Logged.bind_of_leaving {α β : Type} (later : List Token)
    (x : Logged EvalError (α × List Token)) (f : α × List Token → Logged EvalError β) :
    x.leaving later >>= f = x >>= fun (a, rest) => f (a, rest ++ later) := by
  rw [leaving, ← bind_pure_eq_map, bind_assoc]
  simp only [pure_bind]

theorem Logged.leaving_bind {α β : Type} {later : List Token}
    {x : Logged EvalError (α × List Token)} {f : α × List Token → Logged EvalError (β × List Token)}
    {g : α × List Token → Logged EvalError (β × List Token)}
    (h : ∀ a rest, x.result = .ok (a, rest) → g (a, rest ++ later) = (f (a, rest)).leaving later) :
    x.leaving later >>= g = (x >>= f).leaving later :=
  map_bind_of fun (a, rest) found => h a rest found

theorem Logged.leaving_lift {α β : Type} {later : List Token} {x : Except EvalError α}
    {f g : α → Logged EvalError (β × List Token)}
    (h : ∀ a, x = .ok a → g a = (f a).leaving later) :
    (liftM x >>= g) = (liftM x >>= f).leaving later := by
  cases x with
  | error e => rfl
  | ok a => exact h a rfl

/-- The computation on the tokens did not fail for want of more tokens: it failed for another
reason or not at all, or the tokens end with an idle one. -/
def Settled {α : Type} (tokens : List Token) (x : Logged EvalError α) : Prop :=
  Sealed tokens ∨ x.result ≠ .error .ranOutOfCode

namespace Settled

variable {α β : Type} {tokens rest : List Token} {x : Logged EvalError α}
  {f : α → Logged EvalError β}

theorem of_bind (h : Settled tokens (x >>= f)) : Settled tokens x := by
  rcases h with sealed | fine
  · exact .inl sealed
  · refine .inr fun failed => fine ?_
    rw [Logged.bind_error failed]

theorem next {a : α} (h : Settled tokens (x >>= f)) (found : x.result = .ok a)
    (keeps : Sealed tokens → Sealed rest) : Settled rest (f a) := by
  rcases h with sealed | fine
  · exact .inl (keeps sealed)
  · refine .inr fun failed => fine ?_
    rw [Logged.bind_ok found]
    exact failed

theorem not_nil_ranOutOfCode : ¬Settled [] (.fail .ranOutOfCode : Logged EvalError α) := by
  rintro (sealed | fine)
  · exact not_sealed_nil sealed
  · exact fine rfl

end Settled

/-! ### Readings in front of later tokens -/

namespace Reader

/-- Later tokens change nothing that a reading does, except what it leaves. -/
def IsLocal (r : Reader) : Prop :=
  ∀ tokens later, Settled tokens (r.read tokens) →
    r.read (tokens ++ later) = (r.read tokens).leaving later

/-- An integer is never read up to an idle token at the end. -/
def Seals (r : Reader) : Prop :=
  ∀ {tokens rest n}, (r.read tokens).result = .ok (.integer n, rest) → Sealed tokens → Sealed rest

section Local

variable {r : Reader} (isLocal : r.IsLocal) (seals : r.Seals) {tokens : List Token}
  (later : List Token)
include isLocal

theorem integer_append {operation : String} {line : Nat}
    (h : Settled tokens (r.integer operation line tokens)) :
    r.integer operation line (tokens ++ later) =
      (r.integer operation line tokens).leaving later := by
  unfold integer at h ⊢
  rw [isLocal tokens later h.of_bind]
  exact Logged.leaving_bind fun v rest _ => Logged.leaving_lift fun n _ => rfl

include seals

theorem fold_append {total : Int64} (h : Settled tokens (r.fold total tokens)) :
    r.fold total (tokens ++ later) = (r.fold total tokens).leaving later := by
  induction tokens, total using block_induction (r := r) with
  | nil total =>
    rw [fold_nil] at h
    exact absurd h Settled.not_nil_ranOutOfCode
  | closing t behind total role =>
    rw [List.cons_append, fold_closing role, fold_closing role]
    rfl
  | operator t behind total op role ih =>
    -- What stands behind the operator, and behind its operand, ends with the same token.
    have keeps : Sealed (t :: behind) → Sealed behind := fun sealed => sealed.tail (by simp [role])
    rw [fold_operator role] at h
    have first := h.of_bind.imp keeps id
    rw [List.cons_append, fold_operator role, fold_operator role,
      integer_append isLocal later first]
    refine Logged.leaving_bind fun n rest read => Logged.leaving_lift fun sum applied => ?_
    have second := h.next read fun sealed => seals (integer_eq_ok read) (keeps sealed)
    exact ih n rest sum read (second.next (a := sum) applied id)
  | other t behind total closes operates =>
    rw [List.cons_append, fold_other closes operates, fold_other closes operates]
    rfl

/-- Locality passes from the reader of inner phrases to the phrase around them. -/
theorem phrase_append (h : Settled tokens (r.phrase tokens)) :
    r.phrase (tokens ++ later) = (r.phrase tokens).leaving later := by
  cases tokens with
  | nil => exact absurd h Settled.not_nil_ranOutOfCode
  | cons t behind =>
    have keeps : t.role ≠ .idle → Sealed (t :: behind) → Sealed behind :=
      fun busy sealed => sealed.tail busy
    rw [List.cons_append]
    cases role : t.role with
    | call name =>
      rw [phrase_call role] at h
      rw [phrase_call role, phrase_call role]
      cases found : Builtin.find? name with
      | none => rfl
      | some function =>
        rw [found] at h
        have first := h.of_bind.imp (keeps (by simp [role])) id
        change (r.read (behind ++ later) >>= _) = _
        rw [isLocal behind later first]
        refine Logged.leaving_bind fun v rest _ => ?_
        change (function.call v >>= _) = (function.call v >>= _).leaving later
        cases function
        rw [Builtin.call_log]
        rfl
    | operator op =>
      rw [phrase_operator role] at h
      have first := h.of_bind.imp (keeps (by simp [role])) id
      rw [phrase_operator role, phrase_operator role, integer_append isLocal later first]
      refine Logged.leaving_bind fun l middle read => ?_
      have second := h.next read fun sealed =>
        seals (integer_eq_ok read) (keeps (by simp [role]) sealed)
      change (r.integer op.symbol t.line (middle ++ later) >>= _) = _
      rw [integer_append isLocal later second.of_bind]
      exact Logged.leaving_bind fun m rest _ => Logged.leaving_lift fun n _ => rfl
    | opening =>
      rw [phrase_opening role] at h
      have first := h.of_bind.imp (keeps (by simp [role])) id
      rw [phrase_opening role, phrase_opening role, integer_append isLocal later first]
      refine Logged.leaving_bind fun n middle read => ?_
      have second := h.next read fun sealed =>
        seals (integer_eq_ok read) (keeps (by simp [role]) sealed)
      change (r.fold n (middle ++ later) >>= _) = _
      rw [fold_append isLocal seals later second.of_bind]
      exact Logged.leaving_bind fun total rest _ => rfl
    | text content =>
      rw [phrase_text role, phrase_text role]
      rfl
    | number numeral =>
      rw [phrase_number role, phrase_number role]
      exact Logged.leaving_lift fun n _ => rfl
    | closing =>
      rw [phrase_idle (.inl role), phrase_idle (.inl role)]
      rfl
    | idle =>
      rw [phrase_idle (.inr role), phrase_idle (.inr role)]
      rfl

end Local

theorem isLocal_within (depth : Nat) : (within depth).IsLocal := by
  induction depth with
  | zero =>
    intro tokens later h
    cases tokens with
    | nil => exact absurd h Settled.not_nil_ranOutOfCode
    | cons t behind => rfl
  | succ depth ih =>
    intro tokens later h
    exact phrase_append ih (fun read sealed => sealed.of_read_integer read) later h

end Reader

/-! ### Scripts -/

/-- What a settled script leaves to its later phrases is settled too. -/
theorem Settled.run_rest {tokens rest : List Token} {v : Value} (h : Settled tokens (run tokens))
    (read : (evaluate tokens).result = .ok (v, rest)) : Settled rest (run rest) := by
  obtain ⟨tree, rfl⟩ := Reader.exists_tree_of_read maxNesting read
  by_cases empty : rest = []
  · subst empty
    exact .inr (by simp [Logged.pure_def])
  · obtain ⟨behind, front⟩ := tree.tokens_eq_cons
    rw [front, List.cons_append] at h read
    rw [run_cons] at h
    exact (h.next read fun sealed => sealed.of_append (tree.head :: behind) empty).of_bind

/-- A script whose first part is settled runs that part and then the rest. -/
theorem run_append_of_settled (first second : List Token) (h : Settled first (run first)) :
    run (first ++ second) = (do
      let v ← run first
      let w ← run second
      return w.or v) := by
  match first with
  | [] => simp
  | t :: behind =>
    have whole : Settled (t :: behind) (evaluate (t :: behind)) := by
      rw [run_cons] at h
      exact h.of_bind
    have front : evaluate (t :: (behind ++ second)) = (evaluate (t :: behind)).leaving second :=
      Reader.isLocal_within maxNesting (t :: behind) second whole
    rw [List.cons_append, run_cons, run_cons, front, Logged.bind_of_leaving, bind_assoc]
    refine Logged.bind_congr_ok fun (v, rest) read => ?_
    have shorter := length_evaluate_lt read
    have later := run_append_of_settled rest second (h.run_rest read)
    simp only [later, bind_assoc, pure_bind, Value.or_assoc]
termination_by first.length
decreasing_by exact shorter

/-- The tokens end an instruction. -/
def EndsInstruction (tokens : List Token) : Prop :=
  ∃ t ∈ tokens.getLast?, t.kind = .instructionEnd

theorem EndsInstruction.sealed {tokens : List Token} (h : EndsInstruction tokens) :
    Sealed tokens := by
  obtain ⟨t, last, kind⟩ := h
  exact ⟨t, last, Lexeme.role_eq_idle_iff.mpr (.inl (by simp [kind]))⟩

/-- A phrase whose reading is settled is the same whatever follows. -/
theorem evaluateInside_append_of_settled {tokens : List Token} {index depth : Nat}
    (inside : index ≤ tokens.length)
    (h : Settled (tokens.drop index)
      ((Reader.within (maxNesting - depth)).read (tokens.drop index))) (later : List Token) :
    evaluateInside (tokens ++ later) index depth = evaluateInside tokens index depth := by
  have front := Reader.isLocal_within (maxNesting - depth) (tokens.drop index) later h
  rw [evaluateInside, evaluateInside, List.drop_append_of_le_length inside, front,
    Logged.bind_of_leaving]
  simp only [List.length_append, Nat.add_sub_add_right]

/-- A phrase that starts in front of the end of an instruction is the same whatever follows. -/
theorem evaluateInside_append {tokens : List Token} (h : EndsInstruction tokens)
    (later : List Token) {index : Nat} (inside : index < tokens.length) (depth : Nat) :
    evaluateInside (tokens ++ later) index depth = evaluateInside tokens index depth := by
  have nonempty : tokens.drop index ≠ [] := by
    simpa using inside
  have sealed : Sealed (tokens.drop index) := by
    refine Sealed.of_append (tokens.take index) ?_ nonempty
    rw [List.take_append_drop]
    exact h.sealed
  exact evaluateInside_append_of_settled (Nat.le_of_lt inside) (.inl sealed) later

/-- Two scripts put together, where the first has a value or ends an instruction, are the first and
then the second: an error of the first is the error of both, and otherwise the second goes on, its
log behind the first's, and its value counts unless it is empty.  No phrase that starts in front of
the end of an instruction looks at what comes behind it. -/
theorem run_append_eq_run_run {first second : List Token}
    (h : (∃ v, (run first).result = .ok v) ∨ EndsInstruction first) :
    (∀ log e, run first = ⟨log, .error e⟩ → run (first ++ second) = ⟨log, .error e⟩) ∧
    (∀ log v, run first = ⟨log, .ok v⟩ → run (first ++ second) =
      ⟨log ++ (run second).log,
        (run second).result.map fun w => if w.isEmpty then v else w⟩) ∧
    (EndsInstruction first → ∀ index depth, index < first.length →
      evaluateInside (first ++ second) index depth = evaluateInside first index depth) := by
  have settled : Settled first (run first) := by
    rcases h with ⟨v, value⟩ | ended
    · exact .inr (by simp [value])
    · exact .inl ended.sealed
  refine ⟨fun log e failed => ?_, fun log v value => ?_, fun ended index depth inside => ?_⟩
  · rw [run_append_of_settled first second settled, failed]
    rfl
  · rw [run_append_of_settled first second settled, value, Logged.mk_ok_bind]
    rw [Logged.bind_pure_eq_map]
    rfl
  · exact evaluateInside_append ended second inside depth

/-- An operator whose second operand is missing at the end of an instruction fails there, and the
number on the next line is not taken for it. -/
theorem run_open_operation :
    EndsInstruction [⟨⟨.reference, "log"⟩, 1⟩, ⟨⟨.string, "a"⟩, 1⟩, ⟨⟨.arithmetic, "+"⟩, 1⟩,
      ⟨⟨.number, "1"⟩, 1⟩, ⟨⟨.instructionEnd, "\n"⟩, 1⟩] ∧
    run ([⟨⟨.reference, "log"⟩, 1⟩, ⟨⟨.string, "a"⟩, 1⟩, ⟨⟨.arithmetic, "+"⟩, 1⟩,
      ⟨⟨.number, "1"⟩, 1⟩, ⟨⟨.instructionEnd, "\n"⟩, 1⟩] ++ [⟨⟨.number, "2"⟩, 2⟩]) =
        ⟨["a"], .error (.typeMismatch "+" .empty 1)⟩ := by
  have ended : EndsInstruction [⟨⟨.reference, "log"⟩, 1⟩, ⟨⟨.string, "a"⟩, 1⟩,
      ⟨⟨.arithmetic, "+"⟩, 1⟩, ⟨⟨.number, "1"⟩, 1⟩, ⟨⟨.instructionEnd, "\n"⟩, 1⟩] := ⟨_, rfl, rfl⟩
  have later : run [⟨⟨.arithmetic, "+"⟩, 1⟩, ⟨⟨.number, "1"⟩, 1⟩, ⟨⟨.instructionEnd, "\n"⟩, 1⟩] =
      ⟨[], .error (.typeMismatch "+" .empty 1)⟩ := by
    rw [run_cons]
    rfl
  refine ⟨ended, (run_append_eq_run_run (.inr ended)).1 ["a"] _ ?_⟩
  rw [run_cons, show evaluate _ = ⟨["a"], .ok (.empty, [_, _, _])⟩ from rfl]
  simp only [Logged.mk_ok_bind, later]
  rfl

end Abacus
