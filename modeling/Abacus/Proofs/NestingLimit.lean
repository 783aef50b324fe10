import Abacus.Proofs.Replay
import Abacus.Proofs.TypedGrammar

/-! The limit on nesting as a cutoff.  The evaluation with the limit is the one without it, cut at
the first phrase that starts inside too many others.  Where no phrase does, the two are the same,
and how many phrases stand inside one another in a tree is its height. -/

namespace Abacus

/-! ### Lists that reach the limit -/

theorem literal_ne_nestingTooDeep {numeral : String} {line deep : Nat} :
    literal numeral line ≠ .error (.nestingTooDeep deep) := by
  unfold literal
  split <;> simp

theorem Value.expectInteger_ne_nestingTooDeep {v : Value} {operation : String} {line deep : Nat} :
    v.expectInteger operation line ≠ .error (.nestingTooDeep deep) := by
  cases v <;> simp [expectInteger, toInteger?]

theorem Operator.fit_ne_nestingTooDeep {op : Operator} {line deep : Nat} {n : Int} :
    op.fit line n ≠ .error (.nestingTooDeep deep) := by
  unfold fit
  split <;> simp

theorem Operator.apply_ne_nestingTooDeep {op : Operator} {l r : Int64} {line deep : Nat} :
    op.apply l r line ≠ .error (.nestingTooDeep deep) := by
  unfold apply
  cases op with
  | add | subtract | multiply => exact fit_ne_nestingTooDeep
  | divide =>
    simp only
    split
    · simp
    · exact fit_ne_nestingTooDeep
  | remainder =>
    simp only
    split
    · simp
    · intro h
      cases quotient : fit .remainder line (l.toInt.tdiv r.toInt) with
      | error e =>
        rw [quotient] at h
        exact fit_ne_nestingTooDeep (quotient.trans h)
      | ok q =>
        rw [quotient] at h
        exact fit_ne_nestingTooDeep h
  | power =>
    simp only
    split <;> simp

namespace Reader

theorem integer_tooDeep {r : Reader} {operation : String} {line deep : Nat} {tokens : List Token}
    (h : (r.integer operation line tokens).result = .error (.nestingTooDeep deep)) :
    (r.read tokens).result = .error (.nestingTooDeep deep) := by
  unfold integer at h
  rcases Logged.result_bind_eq_error_iff.mp h with h | ⟨⟨v, rest⟩, -, h⟩
  · exact h
  · rcases Logged.result_bind_eq_error_iff.mp h with h | ⟨n, -, h⟩
    · exact absurd h Value.expectInteger_ne_nestingTooDeep
    · cases h

/-- The reader finds a phrase too deep only in lists longer than `depth`. -/
def Deepest (r : Reader) (depth : Nat) : Prop :=
  ∀ {tokens deep}, (r.read tokens).result = .error (.nestingTooDeep deep) → depth < tokens.length

theorem Deepest.fold {r : Reader} {depth : Nat} (h : r.Deepest depth) (tokens : List Token)
    (total : Int64) {deep : Nat}
    (found : (r.fold total tokens).result = .error (.nestingTooDeep deep)) :
    depth < tokens.length := by
  induction tokens, total using block_induction (r := r) with
  | nil total =>
    rw [fold_nil] at found
    cases found
  | closing t behind total role =>
    rw [fold_closing role] at found
    cases found
  | operator t behind total op role ih =>
    rw [fold_operator role] at found
    rw [List.length_cons]
    rcases Logged.result_bind_eq_error_iff.mp found with found | ⟨⟨n, rest⟩, read, found⟩
    · exact Nat.lt_succ_of_lt (h (integer_tooDeep found))
    · rcases Logged.result_bind_eq_error_iff.mp found with found | ⟨sum, -, found⟩
      · exact absurd found Operator.apply_ne_nestingTooDeep
      · have := length_integer_lt read
        have := ih n rest sum read found
        omega
  | other t behind total closes operates =>
    rw [fold_other closes operates] at found
    cases found

theorem Deepest.around {r : Reader} {depth : Nat} (h : r.Deepest depth) :
    r.around.Deepest (depth + 1) := by
  intro tokens deep found
  change (r.phrase tokens).result = _ at found
  cases tokens with
  | nil => cases found
  | cons t behind =>
    rw [List.length_cons, Nat.succ_lt_succ_iff]
    cases role : t.role with
    | call name =>
      rw [phrase_call role] at found
      split at found
      · cases found
      · rename_i function _
        rcases Logged.result_bind_eq_error_iff.mp found with found | ⟨⟨v, rest⟩, -, found⟩
        · exact h found
        · cases function
          cases found
    | operator op =>
      rw [phrase_operator role] at found
      rcases Logged.result_bind_eq_error_iff.mp found with found | ⟨⟨l, middle⟩, read, found⟩
      · exact h (integer_tooDeep found)
      · rcases Logged.result_bind_eq_error_iff.mp found with found | ⟨⟨n, rest⟩, -, found⟩
        · exact Nat.lt_trans (h (integer_tooDeep found)) (length_integer_lt read)
        · rcases Logged.result_bind_eq_error_iff.mp found with found | ⟨m, -, found⟩
          · exact absurd found Operator.apply_ne_nestingTooDeep
          · cases found
    | opening =>
      rw [phrase_opening role] at found
      rcases Logged.result_bind_eq_error_iff.mp found with found | ⟨⟨first, middle⟩, read, found⟩
      · exact h (integer_tooDeep found)
      · rcases Logged.result_bind_eq_error_iff.mp found with found | ⟨⟨n, rest⟩, -, found⟩
        · exact Nat.lt_trans (h.fold middle first found) (length_integer_lt read)
        · cases found
    | text content =>
      rw [phrase_text role] at found
      cases found
    | number numeral =>
      rw [phrase_number role] at found
      rcases Logged.result_bind_eq_error_iff.mp found with found | ⟨n, -, found⟩
      · exact absurd found literal_ne_nestingTooDeep
      · cases found
    | closing =>
      rw [phrase_idle (.inl role)] at found
      cases found
    | idle =>
      rw [phrase_idle (.inr role)] at found
      cases found

theorem within_deepest (depth : Nat) : (within depth).Deepest depth := by
  induction depth with
  | zero =>
    intro tokens deep found
    cases tokens with
    | nil => cases found
    | cons t behind => exact Nat.succ_pos _
  | succ depth ih => exact ih.around

/-- Without a limit no phrase is too deep. -/
theorem unlimited_ne_nestingTooDeep {tokens : List Token} {deep : Nat} :
    (unlimited.read tokens).result ≠ .error (.nestingTooDeep deep) :=
  fun found => Nat.lt_irrefl _ (within_deepest tokens.length found)

end Reader

/-! ### The height of a tree -/

mutual

/-- The most phrases of the tree that stand inside one another, the outermost included. -/
def Tree.height : Tree → Nat
  | .number _ _ _ | .text _ _ _ | .idle _ _ => 1
  | .call _ _ _ argument => argument.height + 1
  | .operation _ _ _ left right => max left.height right.height + 1
  | .block _ _ first tail => max first.height tail.height + 1

def Tail.height : Tail → Nat
  | .close _ _ => 0
  | .more _ _ _ operand tail => max operand.height tail.height

end

mutual

/-- A limit that a tree does not reach makes no difference. -/
theorem Tree.value_congr (tree : Tree) {d e : Nat} (low : tree.height ≤ d)
    (low' : tree.height ≤ e) : tree.value d = tree.value e := by
  cases d with
  | zero => cases tree <;> simp [Tree.height] at low
  | succ d =>
    cases e with
    | zero => cases tree <;> simp [Tree.height] at low'
    | succ e =>
      cases tree with
      | number t numeral h | text t content h | idle t h => rfl
      | call t name h argument =>
        simp only [Tree.height] at low low'
        have inside : argument.value d = argument.value e :=
          argument.value_congr (by omega) (by omega)
        rw [Tree.value, Tree.value, inside]
      | operation t op h left right =>
        simp only [Tree.height] at low low'
        have first : left.value d = left.value e := left.value_congr (by omega) (by omega)
        have second : right.value d = right.value e := right.value_congr (by omega) (by omega)
        rw [Tree.value, Tree.value, first, second]
      | block t h first tail =>
        simp only [Tree.height] at low low'
        have inside : first.value d = first.value e := first.value_congr (by omega) (by omega)
        have behind : tail.value d = tail.value e := tail.value_congr (by omega) (by omega)
        rw [Tree.value, Tree.value, inside, behind]

theorem Tail.value_congr (tail : Tail) {d e : Nat} (low : tail.height ≤ d)
    (low' : tail.height ≤ e) : tail.value d = tail.value e := by
  funext total
  cases tail with
  | close t h => rw [Tail.value, Tail.value]
  | more t op h operand tail =>
    simp only [Tail.height] at low low'
    have inside : operand.value d = operand.value e := operand.value_congr (by omega) (by omega)
    have behind : tail.value d = tail.value e := tail.value_congr (by omega) (by omega)
    rw [Tail.value, Tail.value, inside, behind]

end

mutual

/-- A tree with a value is at most as high as the limit. -/
theorem Tree.height_le_of_value (tree : Tree) {depth : Nat} {v : Value}
    (h : (tree.value depth).result = .ok v) : tree.height ≤ depth := by
  cases depth with
  | zero => cases tree <;> cases h
  | succ depth =>
    cases tree with
    | number t numeral role | text t content role | idle t role =>
      exact Nat.succ_le_succ (Nat.zero_le depth)
    | call t name role argument =>
      rw [Tree.value] at h
      cases found : Builtin.find? name with
      | none => rw [found] at h; cases h
      | some function =>
        rw [found] at h
        obtain ⟨w, inside, -⟩ := Logged.result_bind_eq_ok_iff.mp h
        exact Nat.succ_le_succ (argument.height_le_of_value inside)
    | operation t op role left right =>
      rw [Tree.value] at h
      obtain ⟨u, first, h⟩ := Logged.result_bind_eq_ok_iff.mp h
      obtain ⟨l, -, h⟩ := Logged.result_bind_eq_ok_iff.mp h
      obtain ⟨w, second, -⟩ := Logged.result_bind_eq_ok_iff.mp h
      exact Nat.succ_le_succ
        (Nat.max_le.mpr ⟨left.height_le_of_value first, right.height_le_of_value second⟩)
    | block t role first tail =>
      rw [Tree.value] at h
      obtain ⟨u, inside, h⟩ := Logged.result_bind_eq_ok_iff.mp h
      obtain ⟨n, -, h⟩ := Logged.result_bind_eq_ok_iff.mp h
      obtain ⟨m, behind, -⟩ := Logged.result_bind_eq_ok_iff.mp h
      exact Nat.succ_le_succ
        (Nat.max_le.mpr ⟨first.height_le_of_value inside, tail.height_le_of_value behind⟩)

theorem Tail.height_le_of_value (tail : Tail) {depth : Nat} {total n : Int64}
    (h : (tail.value depth total).result = .ok n) : tail.height ≤ depth := by
  cases tail with
  | close t role => exact Nat.zero_le depth
  | more t op role operand tail =>
    rw [Tail.value] at h
    obtain ⟨u, inside, h⟩ := Logged.result_bind_eq_ok_iff.mp h
    obtain ⟨m, -, h⟩ := Logged.result_bind_eq_ok_iff.mp h
    obtain ⟨sum, -, behind⟩ := Logged.result_bind_eq_ok_iff.mp h
    exact Nat.max_le.mpr ⟨operand.height_le_of_value inside, tail.height_le_of_value behind⟩

end

theorem Tree.value_call {t : Token} {name : String} {role : t.role = .call name} {argument : Tree}
    {depth : Nat} {function : Builtin} (found : Builtin.find? name = some function) :
    (Tree.call t name role argument).value (depth + 1) =
      argument.value depth >>= function.call := by
  rw [Tree.value, found]

/-- Reading the tokens of a tree without a limit evaluates the tree to its full height. -/
theorem Reader.unlimited_tokens (tree : Tree) (rest : List Token) {depth : Nat}
    (low : tree.height ≤ depth) :
    unlimited.read (tree.tokens ++ rest) = (within depth).read (tree.tokens ++ rest) := by
  have same : tree.value (depth + (tree.tokens ++ rest).length) = tree.value depth :=
    tree.value_congr (by omega) low
  rw [unlimited_read_eq (Nat.le_add_left _ depth), read_tokens, read_tokens, same]

/-! ### The cutoff -/

/-- The line that an event writes. -/
def Event.line? : Event → Option String
  | .start _ _ => none
  | .line text => some text

/-- A phrase starts at a token, inside `n` others. -/
def Event.StartsAt (n : Nat) : Event → Prop
  | .start around (_ :: _) => around.length = n
  | _ => False

/-- The lines that the events write. -/
def linesOf (events : List Event) : List String := events.filterMap Event.line?

namespace Check

theorem replay_of_passes {check : Check} {events : List Event}
    (passes : ∀ e ∈ events, check.step e = .write e.line?.toList) :
    check.replay events = .write (linesOf events) := by
  induction events with
  | nil => rfl
  | cons e events ih =>
    obtain ⟨here, later⟩ := List.forall_mem_cons.mp passes
    rw [replay_cons, here, ih later]
    cases e <;> rfl

theorem free_passes (e : Event) : free.step e = .write e.line?.toList := by
  cases e <;> rfl

theorem limit_passes {n : Nat} {e : Event} (h : ¬e.StartsAt n) :
    (limit n).step e = .write e.line?.toList := by
  cases e with
  | line text => rfl
  | start around tokens =>
    cases tokens with
    | nil => rfl
    | cons t behind => exact if_neg h

/-- The first start inside `n` others ends the replay. -/
theorem limit_stops {n : Nat} {before after : List Event} {around behind : List Token} {t : Token}
    (passes : ∀ e ∈ before, ¬e.StartsAt n) (level : around.length = n) :
    (limit n).replay (before ++ .start around (t :: behind) :: after) =
      ⟨linesOf before, .error (.nestingTooDeep t.line)⟩ := by
  have stops : (limit n).step (.start around (t :: behind)) = .fail (.nestingTooDeep t.line) :=
    if_pos level
  rw [replay_append, replay_of_passes fun e member => limit_passes (passes e member), replay_cons,
    stops]
  exact Logged.ext (List.append_nil _) rfl

end Check

/-- Evaluates the phrase that starts at position `index` of a list of tokens as `evaluateAt` does,
but nested to any depth. -/
def evaluateFreelyAt (tokens : List Token) (index : Nat) : Logged EvalError (Value × Nat) := do
  let (v, rest) ← Reader.unlimited.read (tokens.drop index)
  return (v, tokens.length - rest.length)

/-- The course of `evaluateFreelyAt`. -/
def courseAt (tokens : List Token) (index : Nat) : Traced (Value × Nat) := do
  let (v, rest) ← watch [] (tokens.drop index)
  return (v, tokens.length - rest.val.length)

theorem see_courseAt {check : Check} {r : Nat → Reader} (agrees : check.Agrees r)
    (tokens : List Token) (index : Nat) :
    check.see (courseAt tokens index) = (do
      let (v, rest) ← (r 0).read (tokens.drop index)
      return (v, tokens.length - rest.length)) := by
  rw [← Logged.map_id (check.see _)]
  refine check.see_then (check.see_watch agrees [] (tokens.drop index)) fun v rest => ?_
  exact check.see_pure_map ..

theorem free_courseAt (tokens : List Token) (index : Nat) :
    evaluateFreelyAt tokens index =
      ⟨linesOf (courseAt tokens index).events, (courseAt tokens index).result⟩ := by
  have seen := see_courseAt Check.free_agrees tokens index
  rw [Check.see, Check.replay_of_passes fun e _ => Check.free_passes e] at seen
  rw [evaluateFreelyAt, ← seen]
  exact Logged.ext (List.append_nil _) rfl

theorem limit_courseAt (tokens : List Token) (index : Nat) :
    evaluateAt tokens index = (Check.limit maxNesting).see (courseAt tokens index) := by
  rw [see_courseAt (Check.limit_agrees maxNesting), if_pos (Nat.zero_le _), Nat.sub_zero]
  rfl

theorem evaluateAt_of_passes {tokens : List Token} {index : Nat}
    (passes : ∀ e ∈ (courseAt tokens index).events, ¬e.StartsAt maxNesting) :
    evaluateAt tokens index = evaluateFreelyAt tokens index := by
  have lines := Check.replay_of_passes fun e member => Check.limit_passes (passes e member)
  rw [limit_courseAt, free_courseAt, Check.see, lines]
  exact Logged.ext (List.append_nil _) rfl

theorem evaluateAt_of_first {tokens : List Token} {index : Nat} {before after : List Event}
    {around behind : List Token} {t : Token}
    (course : (courseAt tokens index).events = before ++ .start around (t :: behind) :: after)
    (passes : ∀ e ∈ before, ¬e.StartsAt maxNesting) (level : around.length = maxNesting) :
    evaluateAt tokens index = ⟨linesOf before, .error (.nestingTooDeep t.line)⟩ := by
  rw [limit_courseAt, Check.see, course, Check.limit_stops passes level]
  rfl

theorem evaluateFreelyAt_ne_nestingTooDeep {tokens : List Token} {index line : Nat} :
    (evaluateFreelyAt tokens index).result ≠ .error (.nestingTooDeep line) := by
  intro found
  rcases Logged.result_bind_eq_error_iff.mp found with found | ⟨⟨v, rest⟩, -, found⟩
  · exact Reader.unlimited_ne_nestingTooDeep found
  · cases found

/-- Where a phrase starts at a token inside `n` others, one is the first to do so. -/
theorem Event.exists_first_start {n : Nat} {events : List Event} (h : ∃ e ∈ events, e.StartsAt n) :
    ∃ before around t behind after, events = before ++ .start around (t :: behind) :: after ∧
      around.length = n ∧ ∀ e ∈ before, ¬e.StartsAt n := by
  classical
  obtain ⟨e, member, starts⟩ := h
  have found : (events.find? fun e => e.StartsAt n).isSome :=
    List.find?_isSome.mpr ⟨e, member, decide_eq_true starts⟩
  obtain ⟨first, found⟩ := Option.isSome_iff_exists.mp found
  obtain ⟨starts, before, after, split, passes⟩ := List.find?_eq_some_iff_append.mp found
  have starts : first.StartsAt n := of_decide_eq_true starts
  have passes : ∀ e ∈ before, ¬e.StartsAt n := fun e member => by simpa using passes e member
  match first, starts with
  | .start around (t :: behind), level =>
    exact ⟨before, around, t, behind, after, split, level, passes⟩

theorem nestingTooDeep_iff_starts {tokens : List Token} {index : Nat} :
    (∃ line, (evaluateAt tokens index).result = .error (.nestingTooDeep line)) ↔
      ∃ e ∈ (courseAt tokens index).events, e.StartsAt maxNesting := by
  by_cases deep : ∃ e ∈ (courseAt tokens index).events, e.StartsAt maxNesting
  · obtain ⟨before, around, t, behind, after, course, level, passes⟩ :=
      Event.exists_first_start deep
    exact iff_of_true ⟨t.line, by rw [evaluateAt_of_first course passes level]⟩ deep
  · refine iff_of_false (fun ⟨line, found⟩ => ?_) deep
    rw [evaluateAt_of_passes fun e member starts => deep ⟨e, member, starts⟩] at found
    exact evaluateFreelyAt_ne_nestingTooDeep found

/-- A reading with a limit that finds no phrase too deep is the one without a limit. -/
theorem Reader.within_eq_unlimited {n : Nat} {tokens : List Token}
    (fine : ∀ line, ((within n).read tokens).result ≠ .error (.nestingTooDeep line)) :
    (within n).read tokens = unlimited.read tokens := by
  have limited : ((Check.limit n).see (watch [] tokens)).map Check.forget =
      (within n).read tokens := by
    rw [Check.see_watch (Check.limit_agrees n), List.length_nil, if_pos (Nat.zero_le n),
      Nat.sub_zero]
  have free : (Check.free.see (watch [] tokens)).map Check.forget = unlimited.read tokens :=
    Check.see_watch Check.free_agrees [] tokens
  by_cases deep : ∃ e ∈ (watch [] tokens).events, e.StartsAt n
  · obtain ⟨before, around, t, behind, after, course, level, passes⟩ :=
      Event.exists_first_start deep
    refine absurd ?_ (fine t.line)
    rw [← limited, Check.see, course, Check.limit_stops passes level]
    rfl
  · have passes : ∀ e ∈ (watch [] tokens).events, ¬e.StartsAt n :=
      fun e member starts => deep ⟨e, member, starts⟩
    rw [← limited, ← free, Check.see, Check.see,
      Check.replay_of_passes fun e member => Check.limit_passes (passes e member),
      Check.replay_of_passes fun e _ => Check.free_passes e]

/-- A tree with a value that is too high for the limit does not pass it. -/
theorem nestingTooDeep_of_high {tokens rest : List Token} {index : Nat} {tree : Tree}
    (front : tokens.drop index = tree.tokens ++ rest) (high : maxNesting < tree.height)
    {found : Value × Nat} (value : (evaluateFreelyAt tokens index).result = .ok found) :
    ∃ line, (evaluateAt tokens index).result = .error (.nestingTooDeep line) := by
  rw [nestingTooDeep_iff_starts]
  by_cases deep : ∃ e ∈ (courseAt tokens index).events, e.StartsAt maxNesting
  · exact deep
  · rw [← evaluateAt_of_passes fun e member starts => deep ⟨e, member, starts⟩, evaluateAt,
      evaluate, front, Reader.read_tokens] at value
    obtain ⟨read, value, -⟩ := Logged.result_bind_eq_ok_iff.mp value
    obtain ⟨v, value, -⟩ := Logged.result_bind_eq_ok_iff.mp value
    exact absurd (tree.height_le_of_value value) (Nat.not_le_of_lt high)

/-- The limit on nesting is a cutoff.  The evaluation without a limit reads every phrase by the same
rules at any depth, and has a course: the lines that it writes and the phrases that it starts, each
inside certain others.  With the limit, evaluation finds a phrase too deep exactly if on this course
a phrase starts at a token inside `maxNesting` others; it then reports the line of the first such
token, and has written the lines of the course up to there.  Otherwise the limit changes nothing.
Phrases side by side do not add up: the height of a tree is one more than that of its highest part,
the limit changes nothing for a tree of height at most `maxNesting`, and a higher tree with a value
is too deep. -/
theorem evaluateAt_cutoff (tokens : List Token) (index : Nat) :
    (∀ list, Reader.unlimited.read list = Reader.unlimited.phrase list) ∧
    evaluateFreelyAt tokens index =
      ⟨linesOf (courseAt tokens index).events, (courseAt tokens index).result⟩ ∧
    ((∃ line, (evaluateAt tokens index).result = .error (.nestingTooDeep line)) ↔
      ∃ e ∈ (courseAt tokens index).events, e.StartsAt maxNesting) ∧
    (∀ before around t behind after,
      (courseAt tokens index).events = before ++ .start around (t :: behind) :: after →
      around.length = maxNesting → (∀ e ∈ before, ¬e.StartsAt maxNesting) →
      evaluateAt tokens index = ⟨linesOf before, .error (.nestingTooDeep t.line)⟩) ∧
    ((∀ e ∈ (courseAt tokens index).events, ¬e.StartsAt maxNesting) →
      evaluateAt tokens index = evaluateFreelyAt tokens index) ∧
    ∀ (tree : Tree) (rest : List Token), tokens.drop index = tree.tokens ++ rest →
      (tree.height ≤ maxNesting → evaluateAt tokens index = evaluateFreelyAt tokens index) ∧
      (maxNesting < tree.height →
        (∃ found, (evaluateFreelyAt tokens index).result = .ok found) →
        ∃ line, (evaluateAt tokens index).result = .error (.nestingTooDeep line)) := by
  refine ⟨Reader.unlimited_read, free_courseAt tokens index, nestingTooDeep_iff_starts,
    fun before around t behind after course level passes =>
      evaluateAt_of_first course passes level,
    evaluateAt_of_passes, fun tree rest front => ⟨fun low => ?_, fun high ⟨found, value⟩ =>
      nestingTooDeep_of_high front high value⟩⟩
  rw [evaluateAt, evaluateFreelyAt, evaluate, front, Reader.unlimited_tokens tree rest low]

/-- A text behind `n` calls of `log`. -/
def callsOnText : Nat → Tree
  | 0 => .text ⟨⟨.string, "a"⟩, 2⟩ "a" rfl
  | n + 1 => .call ⟨⟨.reference, "log"⟩, 1⟩ "log" rfl (callsOnText n)

theorem height_callsOnText (n : Nat) : (callsOnText n).height = n + 1 := by
  induction n with
  | zero => rfl
  | succ n ih => exact congrArg (· + 1) ih

theorem value_callsOnText (n : Nat) : ∃ v, ((callsOnText n).value (n + 1)).result = .ok v := by
  induction n with
  | zero => exact ⟨.text "a", rfl⟩
  | succ n ih =>
    obtain ⟨v, value⟩ := ih
    have found : Builtin.find? "log" = some .log := Builtin.find?_eq_some_iff.mpr rfl
    have outside : (callsOnText (n + 1)).value (n + 2) =
        (callsOnText n).value (n + 1) >>= Builtin.log.call := Tree.value_call found
    refine ⟨.empty, ?_⟩
    rw [outside]
    exact Logged.result_bind_eq_ok_iff.mpr ⟨v, value, by rw [Builtin.call_log]⟩

theorem evaluateFreelyAt_callsOnText (n : Nat) :
    ∃ found, (evaluateFreelyAt (callsOnText n).tokens 0).result = .ok found := by
  obtain ⟨v, value⟩ := value_callsOnText n
  have front := Reader.unlimited_tokens (callsOnText n) [] (Nat.le_of_eq (height_callsOnText n))
  rw [Reader.read_tokens, List.append_nil] at front
  refine ⟨(v, (callsOnText n).tokens.length), ?_⟩
  rw [evaluateFreelyAt, List.drop_zero, front]
  exact Logged.result_bind_eq_ok_iff.mpr
    ⟨(v, []), Logged.result_bind_eq_ok_iff.mpr ⟨v, value, rfl⟩, rfl⟩

/-- With one call less than the limit the text is logged as it is without a limit, and with one more
call it is too deep. -/
theorem evaluateAt_callsOnText :
    evaluateAt (callsOnText 255).tokens 0 = evaluateFreelyAt (callsOnText 255).tokens 0 ∧
    ∃ line, (evaluateAt (callsOnText 256).tokens 0).result = .error (.nestingTooDeep line) := by
  have low : (callsOnText 255).height ≤ maxNesting := by
    rw [height_callsOnText]
    decide
  have high : maxNesting < (callsOnText 256).height := by
    rw [height_callsOnText]
    decide
  obtain ⟨-, -, -, -, -, below⟩ := evaluateAt_cutoff (callsOnText 255).tokens 0
  obtain ⟨-, -, -, -, -, above⟩ := evaluateAt_cutoff (callsOnText 256).tokens 0
  exact ⟨(below (callsOnText 255) [] (List.append_nil _).symm).1 low,
    (above (callsOnText 256) [] (List.append_nil _).symm).2 high
      (evaluateFreelyAt_callsOnText 256)⟩

end Abacus
