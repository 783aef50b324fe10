import Abacus.Tree

/-! Evaluation at a position and a depth, compared with trees.  `evaluateInside` is the evaluation of
the phrase at a position of a list of tokens, inside any number of other phrases.  `Tree.interpret`
is the meaning of a phrase as a tree, by recursion on the tree alone.  Wherever the tokens of a tree
stand, their evaluation is the meaning of the tree, and every phrase that is evaluated with success
is the tokens of some tree. -/

namespace Abacus

/-- Evaluates the phrase that starts at position `index` of a list of tokens and stands inside
`depth` other phrases, and gives its value with the position behind it. -/
def evaluateInside (tokens : List Token) (index depth : Nat) : Logged EvalError (Value × Nat) := do
  let (v, rest) ← (Reader.within (maxNesting - depth)).read (tokens.drop index)
  return (v, tokens.length - rest.length)

/-- The evaluation of a phrase that stands inside no other. -/
theorem evaluateInside_zero (tokens : List Token) (index : Nat) :
    evaluateInside tokens index 0 = evaluateAt tokens index := rfl

/-! ### The meaning of a tree -/

mutual

/-- The meaning of a tree that stands inside `depth` other phrases.  A tree inside too many others
fails at its first token, an unknown name fails before its argument is looked at, and each operand
is evaluated and checked before the next. -/
def Tree.interpret (tree : Tree) (depth : Nat) : Logged EvalError Value :=
  if maxNesting ≤ depth then .fail (.nestingTooDeep tree.head.line)
  else
    match tree with
    | .number t numeral _ => do
      let n ← literal numeral t.line
      return .integer n
    | .text _ content _ => return .text content
    | .idle _ _ => return .empty
    | .call t name _ argument =>
      match Builtin.find? name with
      | none => .fail (.unrecognizedReference name t.line)
      | some function => do
        let v ← argument.interpret (depth + 1)
        function.call v
    | .operation t op _ left right => do
      let v ← left.interpret (depth + 1)
      let l ← v.expectInteger op.symbol t.line
      let v ← right.interpret (depth + 1)
      let r ← v.expectInteger op.symbol t.line
      let n ← op.apply l r t.line
      return .integer n
    | .block t _ first tail => do
      let v ← first.interpret (depth + 1)
      let n ← v.expectInteger "(" t.line
      let total ← tail.interpret (depth + 1) n
      return .integer total

/-- The total of a block whose phrases stand inside `depth` others, from the total so far. -/
def Tail.interpret (tail : Tail) (depth : Nat) (total : Int64) : Logged EvalError Int64 :=
  match tail with
  | .close _ _ => return total
  | .more t op _ operand tail => do
    let v ← operand.interpret depth
    let n ← v.expectInteger op.symbol t.line
    let total ← op.apply total n t.line
    tail.interpret depth total

end

theorem Tree.interpret_of_le {tree : Tree} {depth : Nat} (h : maxNesting ≤ depth) :
    tree.interpret depth = .fail (.nestingTooDeep tree.head.line) := by
  cases tree <;> rw [interpret, if_pos h]

mutual

/-- The limit counted from the outside is the limit counted from the inside. -/
theorem Tree.interpret_eq_value (tree : Tree) (depth : Nat) :
    tree.interpret depth = tree.value (maxNesting - depth) := by
  by_cases deep : maxNesting ≤ depth
  · rw [Tree.interpret_of_le deep, Nat.sub_eq_zero_of_le deep]
    cases tree <;> rfl
  · -- Inside the limit one level is left for the tree itself, and the rest for its parts.
    have inner : maxNesting - depth = maxNesting - (depth + 1) + 1 := by omega
    rw [inner]
    cases tree with
    | number t numeral h => rw [Tree.interpret, if_neg deep, Tree.value]
    | text t content h => rw [Tree.interpret, if_neg deep, Tree.value]
    | idle t h => rw [Tree.interpret, if_neg deep, Tree.value]
    | call t name h argument =>
      rw [Tree.interpret, if_neg deep, Tree.value]
      cases Builtin.find? name with
      | none => rfl
      | some function => simp only [Tree.interpret_eq_value argument]
    | operation t op h left right =>
      rw [Tree.interpret, if_neg deep, Tree.value, Tree.interpret_eq_value left,
        Tree.interpret_eq_value right]
    | block t h first tail =>
      rw [Tree.interpret, if_neg deep, Tree.value, Tree.interpret_eq_value first]
      simp only [Tail.interpret_eq_value tail]

theorem Tail.interpret_eq_value (tail : Tail) (depth : Nat) (total : Int64) :
    tail.interpret depth total = tail.value (maxNesting - depth) total := by
  cases tail with
  | close t h => rw [Tail.interpret, Tail.value]
  | more t op h operand tail =>
    rw [Tail.interpret, Tail.value, Tree.interpret_eq_value operand]
    simp only [Tail.interpret_eq_value tail]

end

theorem evaluateInside_eq_value (tree : Tree) (before rest : List Token) (depth : Nat) :
    evaluateInside (before ++ tree.tokens ++ rest) before.length depth =
      (tree.value (maxNesting - depth)).map fun v => (v, before.length + tree.tokens.length) := by
  have here : (before ++ tree.tokens ++ rest).drop before.length = tree.tokens ++ rest := by
    rw [List.append_assoc, List.drop_left]
  have behind : (before ++ tree.tokens ++ rest).length - rest.length =
      before.length + tree.tokens.length := by
    simp only [List.length_append]
    omega
  rw [evaluateInside, here, Reader.read_tokens, ← Logged.bind_pure_eq_map]
  simp only [bind_assoc, pure_bind, behind]

/-- Wherever the tokens of a tree stand in a list, and however deep, their evaluation logs what the
tree logs and gives its value, with the position behind its last token, or its error. -/
theorem evaluateInside_tokens (tree : Tree) (before rest : List Token) (depth : Nat) :
    evaluateInside (before ++ tree.tokens ++ rest) before.length depth = (do
      let v ← tree.interpret depth
      return (v, before.length + tree.tokens.length)) := by
  rw [evaluateInside_eq_value, Tree.interpret_eq_value, Logged.bind_pure_eq_map]

/-! ### Every phrase is a tree -/

namespace Reader

theorem exists_tail_of_fold {r : Reader}
    (trees : ∀ {tokens v rest}, (r.read tokens).result = .ok (v, rest) →
      ∃ tree : Tree, tokens = tree.tokens ++ rest)
    (tokens : List Token) (total : Int64) {n : Int64} {rest : List Token}
    (h : (r.fold total tokens).result = .ok (n, rest)) :
    ∃ tail : Tail, tokens = tail.tokens ++ rest := by
  induction tokens, total using block_induction (r := r) generalizing n rest with
  | nil total =>
    rw [fold_nil] at h
    cases h
  | closing t behind total role =>
    rw [fold_closing role] at h
    cases h
    exact ⟨.close t role, rfl⟩
  | operator t behind total op role ih =>
    rw [fold_operator role] at h
    obtain ⟨⟨m, middle⟩, read, h⟩ := Logged.result_bind_eq_ok_iff.mp h
    obtain ⟨sum, -, h⟩ := Logged.result_bind_eq_ok_iff.mp h
    obtain ⟨operand, front⟩ := trees (integer_eq_ok read)
    obtain ⟨tail, back⟩ := ih m middle sum read h
    exact ⟨.more t op role operand tail, by simp [Tail.tokens, front, back]⟩
  | other t behind total closes operates =>
    rw [fold_other closes operates] at h
    cases h

/-- What a reader takes off a list with success is the tokens of a tree. -/
theorem exists_tree_of_read (depth : Nat) {tokens rest : List Token} {v : Value}
    (h : ((within depth).read tokens).result = .ok (v, rest)) :
    ∃ tree : Tree, tokens = tree.tokens ++ rest := by
  induction depth generalizing tokens v rest with
  | zero => cases tokens <;> cases h
  | succ depth ih =>
    change ((within depth).phrase tokens).result = _ at h
    cases tokens with
    | nil => cases h
    | cons t behind =>
      cases role : t.role with
      | call name =>
        rw [phrase_call role] at h
        cases found : Builtin.find? name with
        | none => rw [found] at h; cases h
        | some function =>
          rw [found] at h
          obtain ⟨⟨argument, middle⟩, read, h⟩ := Logged.result_bind_eq_ok_iff.mp h
          obtain ⟨w, -, h⟩ := Logged.result_bind_eq_ok_iff.mp h
          cases h
          obtain ⟨tree, front⟩ := ih read
          exact ⟨.call t name role tree, by simp [Tree.tokens, front]⟩
      | operator op =>
        rw [phrase_operator role] at h
        obtain ⟨⟨l, middle⟩, first, h⟩ := Logged.result_bind_eq_ok_iff.mp h
        obtain ⟨⟨r, last⟩, second, h⟩ := Logged.result_bind_eq_ok_iff.mp h
        obtain ⟨n, -, h⟩ := Logged.result_bind_eq_ok_iff.mp h
        cases h
        obtain ⟨left, front⟩ := ih (integer_eq_ok first)
        obtain ⟨right, back⟩ := ih (integer_eq_ok second)
        exact ⟨.operation t op role left right, by simp [Tree.tokens, front, back]⟩
      | opening =>
        rw [phrase_opening role] at h
        obtain ⟨⟨n, middle⟩, first, h⟩ := Logged.result_bind_eq_ok_iff.mp h
        obtain ⟨⟨total, last⟩, folded, h⟩ := Logged.result_bind_eq_ok_iff.mp h
        cases h
        obtain ⟨tree, front⟩ := ih (integer_eq_ok first)
        obtain ⟨tail, back⟩ := exists_tail_of_fold ih middle n folded
        exact ⟨.block t role tree tail, by simp [Tree.tokens, front, back]⟩
      | text content =>
        rw [phrase_text role] at h
        cases h
        exact ⟨.text t content role, rfl⟩
      | number numeral =>
        rw [phrase_number role] at h
        obtain ⟨n, -, h⟩ := Logged.result_bind_eq_ok_iff.mp h
        cases h
        exact ⟨.number t numeral role, rfl⟩
      | closing =>
        rw [phrase_idle (.inl role)] at h
        cases h
        exact ⟨.idle t (.inl role), rfl⟩
      | idle =>
        rw [phrase_idle (.inr role)] at h
        cases h
        exact ⟨.idle t (.inr role), rfl⟩

end Reader

end Abacus
