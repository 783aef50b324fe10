import Abacus.Proofs.TypedGrammar
import Abacus.Walk

/-! Walks end, and stay among the tokens.  A walk along positions does what the reader of the tokens
from there on does: a position stands for the tokens behind it, and each step of the walk is a step
of the reader.  The reader always comes to an end and leaves fewer tokens than it found, so the walk
ends behind the position that it started from and no further than the end of the tokens. -/

namespace Abacus

/-- A phrase ends behind its start and not past the end of the tokens. -/
theorem evaluateInside_bounds {tokens : List Token} {index depth next : Nat} {v : Value}
    (h : (evaluateInside tokens index depth).result = .ok (v, next)) :
    index < next ∧ next ≤ tokens.length := by
  obtain ⟨⟨w, rest⟩, read, h⟩ := Logged.result_bind_eq_ok_iff.mp h
  cases h
  have shorter := (Reader.within (maxNesting - depth)).shorter read
  rw [List.length_drop] at shorter
  omega

theorem Reader.suffix_of_read {depth : Nat} {tokens rest : List Token} {v : Value}
    (h : ((within depth).read tokens).result = .ok (v, rest)) : rest <:+ tokens := by
  obtain ⟨tree, rfl⟩ := exists_tree_of_read depth h
  exact List.suffix_append ..

theorem Reader.integer_of_read {r : Reader} {operation : String} {line : Nat}
    {tokens rest : List Token} {v : Value} {n : Int64}
    (read : (r.read tokens).result = .ok (v, rest))
    (checked : v.expectInteger operation line = .ok n) :
    (r.integer operation line tokens).result = .ok (n, rest) := by
  unfold integer
  refine Logged.result_bind_eq_ok_iff.mpr ⟨(v, rest), read, ?_⟩
  exact Logged.result_bind_eq_ok_iff.mpr ⟨n, checked, rfl⟩

namespace Tape

variable {tape : Tape} {index : UInt64} {t : Token} {tokens behind : List Token}

/-! ### Positions and the tokens behind them -/

/-- `tokens` are the tokens from `index` on. -/
def At (tape : Tape) (index : UInt64) (tokens : List Token) : Prop :=
  tape.tokens.drop index.toNat = tokens

/-- The position of the tokens `rest` at the end of the tape. -/
def place (tape : Tape) (rest : List Token) : UInt64 :=
  .ofNat (tape.tokens.length - rest.length)

theorem toNat_place (tape : Tape) (rest : List Token) :
    (tape.place rest).toNat = tape.tokens.length - rest.length := by
  have := tape.fits
  exact UInt64.toNat_ofNat_of_lt' (by omega)

theorem At.suffix (h : tape.At index tokens) : tokens <:+ tape.tokens :=
  h ▸ List.drop_suffix ..

theorem at_place (h : tokens <:+ tape.tokens) : tape.At (tape.place tokens) tokens := by
  obtain ⟨front, whole⟩ := h
  have count := congrArg List.length whole
  rw [List.length_append] at count
  have width : tape.tokens.length - tokens.length = front.length := by omega
  rw [At, toNat_place, width, ← whole, List.drop_left]

theorem At.length (h : tape.At index (t :: behind)) :
    tape.tokens.length = index.toNat + behind.length + 1 := by
  have count := congrArg List.length h
  rw [List.length_drop, List.length_cons] at count
  omega

theorem At.getElem? (h : tape.At index (t :: behind)) : tape.tokens[index.toNat]? = some t := by
  have first := congrArg (·[0]?) h
  simpa using first

theorem At.tokenAt (h : tape.At index (t :: behind)) : tape.tokenAt index = pure t := by
  rw [Tape.tokenAt, h.getElem?]

theorem At.get (h : tape.At index (t :: behind)) : tape.get index = pure t := by
  rw [Tape.get, h.getElem?]

/-- The word behind the position of a token is the position of the tokens behind it. -/
theorem At.advance (h : tape.At index (t :: behind)) :
    tape.advance index = pure (tape.place behind) := by
  have length := h.length
  have fits : tape.tokens.length < 2 ^ 64 := tape.fits
  have next : index + 1 = tape.place behind := by
    apply UInt64.toNat.inj
    rw [toNat_place, UInt64.toNat_add, UInt64.toNat_one, Nat.mod_eq_of_lt (by omega)]
    omega
  rw [Tape.advance, if_pos (by omega), next]

theorem At.tail (h : tape.At index (t :: behind)) : tape.At (tape.place behind) behind :=
  at_place ((List.suffix_cons ..).trans h.suffix)

/-- What a reading leaves stands at its place. -/
theorem At.left {depth : Nat} {rest : List Token} {v : Value} (h : tape.At index tokens)
    (read : ((Reader.within depth).read tokens).result = .ok (v, rest)) :
    tape.At (tape.place rest) rest :=
  at_place ((Reader.suffix_of_read read).trans h.suffix)

theorem At.tokenAt_nil (h : tape.At index []) : tape.tokenAt index = .fail .ranOutOfCode := by
  have none : tape.tokens[index.toNat]? = none := by
    rw [List.getElem?_eq_none_iff]
    exact List.drop_eq_nil_iff.mp h
  rw [Tape.tokenAt, none]

/-! ### Walks that follow a reader -/

section Following

variable {α β : Type}

/-- The walk that does what a computation does and gives the position of the tokens that it
leaves. -/
def follow (tape : Tape) (x : Logged EvalError (α × List Token)) : Walk (α × UInt64) :=
  .ofLogged (x.map fun (a, rest) => (a, tape.place rest))

theorem follow_pure (a : α) (rest : List Token) :
    tape.follow (pure (a, rest)) = pure (a, tape.place rest) :=
  Walk.ofLogged_pure (a, tape.place rest)

theorem follow_fail (e : EvalError) :
    tape.follow (.fail e : Logged EvalError (α × List Token)) = .fail e :=
  Walk.ofLogged_fail e

theorem follow_lift {x : Logged EvalError α} {f : α → Logged EvalError (β × List Token)}
    {g : α → Walk (β × UInt64)} (next : ∀ a, x.result = .ok a → g a = tape.follow (f a)) :
    (Walk.ofLogged x >>= g) = tape.follow (x >>= f) := by
  obtain ⟨log, result⟩ := x
  cases result with
  | error e => rfl
  | ok a =>
    funext sink
    change g a (sink ++ log) = some (_, sink ++ (log ++ (f a).log))
    rw [next a rfl, ← List.append_assoc]
    rfl

theorem follow_bind {x : Logged EvalError (α × List Token)}
    {f : α × List Token → Logged EvalError (β × List Token)} {g : α × UInt64 → Walk (β × UInt64)}
    (next : ∀ a rest, x.result = .ok (a, rest) →
      g (a, tape.place rest) = tape.follow (f (a, rest))) :
    tape.follow x >>= g = tape.follow (x >>= f) := by
  obtain ⟨log, result⟩ := x
  cases result with
  | error e => rfl
  | ok found =>
    obtain ⟨a, rest⟩ := found
    exact follow_lift (x := ⟨log, .ok (a, rest)⟩) (g := fun _ => g (a, tape.place rest))
      (by rintro _ ⟨⟩; exact next a rest rfl)

end Following

/-- From every position, inside `depth` phrases, the walk does what the reader does. -/
def Follows (tape : Tape) (depth : Nat) (r : Reader) : Prop :=
  ∀ index tokens, tape.At index tokens → tape.walk index depth = tape.follow (r.read tokens)

section Step

variable {depth level : Nat} (inside : tape.Follows (depth + 1) (Reader.within level))
include inside

theorem walkFold_eq {total : Int64} (here : tape.At index tokens) :
    tape.walkFold total index depth = tape.follow (do
      let (n, rest) ← (Reader.within level).fold total tokens
      return (.integer n, rest)) := by
  induction tokens, total using Reader.block_induction (r := Reader.within level)
    generalizing index with
  | nil total =>
    rw [walkFold, here.tokenAt_nil, Reader.fold_nil]
    exact (follow_fail _).symm
  | closing t behind total role =>
    rw [walkFold, here.tokenAt, Reader.fold_closing role]
    simp only [pure_bind, role, here.advance]
    exact (follow_pure ..).symm
  | operator t behind total op role ih =>
    rw [walkFold, here.tokenAt, Reader.fold_operator role]
    simp only [pure_bind, role, here.advance, inside _ _ here.tail, Reader.integer, bind_assoc]
    refine follow_bind fun v rest read => follow_lift fun n checked => follow_lift fun sum _ => ?_
    exact ih n rest sum (Reader.integer_of_read read checked) (here.tail.left read)
  | other t behind total closes operates =>
    rw [walkFold, here.tokenAt, Reader.fold_other closes operates]
    simp only [pure_bind]
    cases role : t.role with
    | closing => exact absurd role closes
    | operator op => exact absurd role (operates op)
    | call | opening | text | number | idle => exact (follow_fail _).symm

/-- One level of phrases follows the reader if the phrases inside do. -/
theorem Follows.around (low : depth < maxNesting) :
    tape.Follows depth (Reader.within (level + 1)) := by
  intro index tokens here
  change _ = tape.follow ((Reader.within level).phrase tokens)
  cases tokens with
  | nil =>
    rw [walk, here.tokenAt_nil]
    exact (follow_fail _).symm
  | cons t behind =>
    rw [walk, here.tokenAt, pure_bind, if_neg (Nat.not_le_of_lt low)]
    cases role : t.role with
    | call name =>
      obtain ⟨-, rfl⟩ := Lexeme.role_eq_call_iff.mp role
      rw [Reader.phrase_call role]
      simp only [walkCall, here.get, pure_bind]
      cases Builtin.find? t.text with
      | none => exact (follow_fail _).symm
      | some function =>
        simp only [here.advance, pure_bind, inside _ _ here.tail]
        refine follow_bind fun argument rest _ => ?_
        exact follow_lift fun v _ => (follow_pure v rest).symm
    | operator op =>
      rw [Reader.phrase_operator role]
      simp only [walkOperation, here.get, here.advance, pure_bind, inside _ _ here.tail,
        Reader.integer, bind_assoc]
      refine follow_bind fun v middle read => follow_lift fun left _ => ?_
      simp only [inside _ _ (here.tail.left read)]
      refine follow_bind fun w rest _ => follow_lift fun right _ => follow_lift fun n _ => ?_
      exact (follow_pure _ rest).symm
    | opening =>
      rw [Reader.phrase_opening role]
      simp only [walkBlock, here.get, here.advance, pure_bind, inside _ _ here.tail,
        Reader.integer, bind_assoc]
      refine follow_bind fun v rest read => follow_lift fun first _ => ?_
      exact walkFold_eq inside (here.tail.left read)
    | text content =>
      rw [Reader.phrase_text role]
      simp only [here.advance, pure_bind]
      exact (follow_pure ..).symm
    | number numeral =>
      rw [Reader.phrase_number role]
      simp only [here.advance, pure_bind]
      exact follow_lift fun n _ => (follow_pure ..).symm
    | closing =>
      rw [Reader.phrase_idle (.inl role)]
      simp only [here.advance, pure_bind]
      exact (follow_pure ..).symm
    | idle =>
      rw [Reader.phrase_idle (.inr role)]
      simp only [here.advance, pure_bind]
      exact (follow_pure ..).symm

end Step

theorem Follows.tooDeep {depth : Nat} (high : maxNesting ≤ depth) :
    tape.Follows depth (Reader.within 0) := by
  intro index tokens here
  cases tokens with
  | nil =>
    rw [walk, here.tokenAt_nil]
    exact (follow_fail _).symm
  | cons t behind =>
    rw [walk, here.tokenAt, pure_bind, if_pos high]
    exact (follow_fail _).symm

/-- The walk inside `depth` phrases follows the reader with as many levels as are left. -/
theorem follows_within (tape : Tape) (depth : Nat) :
    tape.Follows depth (Reader.within (maxNesting - depth)) := by
  induction level : maxNesting - depth generalizing depth with
  | zero => exact Follows.tooDeep (by omega)
  | succ level ih => exact Follows.around (ih (depth + 1) (by omega)) (by omega)

theorem walk_eq_evaluateInside (tape : Tape) (index : UInt64) (depth : Nat) :
    tape.walk index depth = .ofLogged
      ((evaluateInside tape.tokens index.toNat depth).map fun (v, next) => (v, .ofNat next)) := by
  rw [tape.follows_within depth index _ rfl, evaluateInside, Logged.map_bind]
  exact congrArg Walk.ofLogged (Logged.bind_pure_eq_map _ _).symm

/-! ### Scripts -/

/-- From the position of any tokens on, the loop of a script ends where the tokens end. -/
theorem walkScript_eq {last : Value} (here : tape.At index tokens)
    (inside : index.toNat ≤ tape.tokens.length) :
    tape.walkScript last index = tape.follow ((run tokens).map fun v => (v.or last, [])) := by
  induction tokens using run.induct generalizing index last with
  | case1 =>
    have reached : tape.tokens.length ≤ index.toNat := List.drop_eq_nil_iff.mp here
    have last : index = tape.place [] := by
      apply UInt64.toNat.inj
      rw [toNat_place, List.length_nil]
      omega
    rw [walkScript, if_neg (by omega), run_nil, last]
    exact (follow_pure _ []).symm
  | case2 t behind ih =>
    have length := here.length
    have first : tape.walk index 0 = tape.follow (evaluate (t :: behind)) :=
      tape.follows_within 0 index _ here
    rw [walkScript, if_pos (by omega), first, run_cons, Logged.map_bind]
    refine follow_bind fun v rest read => ?_
    have bound : (tape.place rest).toNat ≤ tape.tokens.length := by
      rw [toNat_place]
      omega
    simp only [ih v rest read (here.left read) bound, Logged.bind_pure_eq_map, Logged.map_map,
      Value.or_assoc]

theorem walkScript_eq_run (tape : Tape) :
    tape.walkScript .empty 0 =
      .ofLogged ((run tape.tokens).map fun v => (v, .ofNat tape.tokens.length)) := by
  rw [walkScript_eq rfl (Nat.zero_le _), follow, Logged.map_map]
  simp only [Value.or_empty]
  rfl

/-- However the tokens are put together, from every position that a word can hold and at every
depth, a walk ends without a fault: it looks at tokens only where they are and steps no further than
the end of the tokens.  So do the rest of a block and a whole script.  A phrase that has a value
ends behind its start and not past the end of the tokens, and a script that has a value ends where
the tokens end.  The values, the lines and the causes of failure are those of `evaluateInside` and
`run`, and `evaluateInside` keeps the bounds on lists of any length. -/
theorem walk_ends_inside (tape : Tape) (index : UInt64) (depth : Nat) :
    (tape.walk index depth).Ends ∧ (∀ total, (tape.walkFold total index depth).Ends) ∧
    (tape.walkScript .empty 0).Ends ∧
    (∀ v next sink lines, tape.walk index depth sink = some (.ok (v, next), lines) →
      index < next ∧ next.toNat ≤ tape.tokens.length) ∧
    (∀ v last sink lines, tape.walkScript .empty 0 sink = some (.ok (v, last), lines) →
      last.toNat = tape.tokens.length) ∧
    tape.walk index depth = .ofLogged
      ((evaluateInside tape.tokens index.toNat depth).map fun (v, next) => (v, .ofNat next)) ∧
    tape.walkScript .empty 0 =
      .ofLogged ((run tape.tokens).map fun v => (v, .ofNat tape.tokens.length)) ∧
    ∀ tokens start v next, (evaluateInside tokens start depth).result = .ok (v, next) →
      start < next ∧ next ≤ tokens.length := by
  have phrase := tape.walk_eq_evaluateInside index depth
  have script := tape.walkScript_eq_run
  refine ⟨?_, fun total => ?_, ?_, fun v next sink lines found => ?_,
    fun v last sink lines found => ?_, phrase, script, fun _ _ _ _ => evaluateInside_bounds⟩
  · rw [phrase]
    exact Walk.ofLogged_ends _
  · rw [walkFold_eq (tape.follows_within (depth + 1)) rfl]
    exact Walk.ofLogged_ends _
  · rw [script]
    exact Walk.ofLogged_ends _
  · rw [phrase] at found
    obtain ⟨⟨w, stop⟩, value, same⟩ :=
      Logged.result_map_eq_ok_iff.mp (Walk.result_of_ofLogged found)
    cases same
    obtain ⟨behind, inside⟩ := evaluateInside_bounds value
    have word : (UInt64.ofNat stop).toNat = stop := by
      have := tape.fits
      exact UInt64.toNat_ofNat_of_lt' (by omega)
    rw [UInt64.lt_iff_toNat_lt, word]
    exact ⟨behind, inside⟩
  · rw [script] at found
    obtain ⟨w, -, same⟩ := Logged.result_map_eq_ok_iff.mp (Walk.result_of_ofLogged found)
    cases same
    exact UInt64.toNat_ofNat_of_lt' tape.fits

/-- A tape with a token that is no operator of the language: `+ 2 3 ~`. -/
def sampleTape : Tape where
  tokens := [⟨⟨.arithmetic, "+"⟩, 1⟩, ⟨⟨.number, "2"⟩, 1⟩, ⟨⟨.number, "3"⟩, 1⟩,
    ⟨⟨.arithmetic, "~"⟩, 1⟩]
  fits := by decide

/-- The operation ends in front of the odd token and the script behind it, and a walk from the last
of all positions ends. -/
theorem sampleTape_walk_ends :
    sampleTape.walk 0 0 [] = some (.ok (.integer 5, 3), []) ∧
    ((0 : UInt64) < 3 ∧ (3 : UInt64).toNat ≤ sampleTape.tokens.length) ∧
    sampleTape.walkScript .empty 0 [] = some (.ok (.integer 5, 4), []) ∧
    (4 : UInt64).toNat = sampleTape.tokens.length ∧
    (sampleTape.walk 18446744073709551615 300).Ends := by
  obtain ⟨-, -, -, inside, ending, phrase, script, -⟩ := walk_ends_inside sampleTape 0 0
  have value : sampleTape.walk 0 0 [] = some (.ok (.integer 5, 3), []) := by
    rw [phrase]
    rfl
  have later : run [⟨⟨.arithmetic, "~"⟩, 1⟩] = ⟨[], .ok .empty⟩ := by
    rw [run_cons, show evaluate _ = ⟨[], .ok (.empty, [])⟩ from rfl]
    simp only [Logged.mk_ok_bind, run_nil]
    rfl
  have total : run sampleTape.tokens = ⟨[], .ok (.integer 5)⟩ := by
    rw [sampleTape, run_cons, show evaluate _ = ⟨[], .ok (.integer 5, [_])⟩ from rfl]
    simp only [Logged.mk_ok_bind, later]
    rfl
  have whole : sampleTape.walkScript .empty 0 [] = some (.ok (.integer 5, 4), []) := by
    rw [script, total]
    rfl
  exact ⟨value, inside _ _ _ _ value, whole, ending _ _ _ _ whole,
    (walk_ends_inside sampleTape 18446744073709551615 300).1⟩

end Tape

end Abacus
