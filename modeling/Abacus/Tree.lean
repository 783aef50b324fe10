import Abacus.Phrase

/-! Phrases as trees.  A tree keeps every token of its phrase, so `tokens` writes it back, and
`value` evaluates it by recursion on the tree.  The main statement is that reading the tokens of a
tree, in front of any other tokens, is the same as evaluating the tree: the same lines are
written, and the result is the same value or the same error. -/

namespace Abacus

mutual

/-- The tree of a phrase. -/
inductive Tree where
  | number (t : Token) (numeral : String) (h : t.role = .number numeral)
  | text (t : Token) (content : String) (h : t.role = .text content)
  | idle (t : Token) (h : t.role = .closing ∨ t.role = .idle)
  | call (t : Token) (name : String) (h : t.role = .call name) (argument : Tree)
  | operation (t : Token) (op : Operator) (h : t.role = .operator op) (left right : Tree)
  | block (t : Token) (h : t.role = .opening) (first : Tree) (tail : Tail)

/-- The rest of a block behind its first phrase. -/
inductive Tail where
  | close (t : Token) (h : t.role = .closing)
  | more (t : Token) (op : Operator) (h : t.role = .operator op) (operand : Tree) (tail : Tail)

end

/-- The first token of a tree. -/
def Tree.head : Tree → Token
  | .number t _ _ => t
  | .text t _ _ => t
  | .idle t _ => t
  | .call t _ _ _ => t
  | .operation t _ _ _ _ => t
  | .block t _ _ _ => t

mutual

/-- The tokens of a tree, in order. -/
def Tree.tokens : Tree → List Token
  | .number t _ _ => [t]
  | .text t _ _ => [t]
  | .idle t _ => [t]
  | .call t _ _ argument => t :: argument.tokens
  | .operation t _ _ left right => t :: (left.tokens ++ right.tokens)
  | .block t _ first tail => t :: (first.tokens ++ tail.tokens)

/-- The tokens of the rest of a block, in order. -/
def Tail.tokens : Tail → List Token
  | .close t _ => [t]
  | .more t _ _ operand tail => t :: (operand.tokens ++ tail.tokens)

end

mutual

/-- The value of a tree at most `depth` deep.  Operands are evaluated from left to right, and the
type of each is checked before the next is evaluated. -/
def Tree.value : Tree → (depth : Nat) → Logged EvalError Value
  | tree, 0 => .fail (.nestingTooDeep tree.head.line)
  | .number t numeral _, _ + 1 => do
    let n ← literal numeral t.line
    return .integer n
  | .text _ content _, _ + 1 => return .text content
  | .idle _ _, _ + 1 => return .empty
  | .call t name _ argument, depth + 1 =>
    match Builtin.find? name with
    | none => .fail (.unrecognizedReference name t.line)
    | some function => do
      let v ← argument.value depth
      function.call v
  | .operation t op _ left right, depth + 1 => do
    let v ← left.value depth
    let l ← v.expectInteger op.symbol t.line
    let v ← right.value depth
    let r ← v.expectInteger op.symbol t.line
    let n ← op.apply l r t.line
    return .integer n
  | .block t _ first tail, depth + 1 => do
    let v ← first.value depth
    let n ← v.expectInteger "(" t.line
    let total ← tail.value depth n
    return .integer total

/-- The total of a block whose phrases so far have come to `total`. -/
def Tail.value : Tail → (depth : Nat) → (total : Int64) → Logged EvalError Int64
  | .close _ _, _, total => return total
  | .more t op _ operand tail, depth, total => do
    let v ← operand.value depth
    let n ← v.expectInteger op.symbol t.line
    let total ← op.apply total n t.line
    tail.value depth total

end

namespace Tree

theorem tokens_eq_cons (tree : Tree) : ∃ behind, tree.tokens = tree.head :: behind := by
  cases tree <;> simp [tokens, head]

end Tree

/-! ### Reading the tokens of a tree -/

namespace Reader

mutual

/-- Reading the tokens of a tree evaluates the tree and leaves the tokens behind it. -/
theorem read_tokens : (tree : Tree) → (depth : Nat) → (rest : List Token) →
    (within depth).read (tree.tokens ++ rest) = (do
      let v ← tree.value depth
      return (v, rest))
  | tree, 0, rest => by
    obtain ⟨behind, h⟩ := tree.tokens_eq_cons
    rw [h]
    cases tree <;> rfl
  | .number t numeral h, depth + 1, rest => by
    change phrase _ (t :: rest) = _
    rw [phrase_number h]
    simp [Tree.value]
  | .text t content h, depth + 1, rest => by
    change phrase _ (t :: rest) = _
    rw [phrase_text h]
    simp [Tree.value]
  | .idle t h, depth + 1, rest => by
    change phrase _ (t :: rest) = _
    rw [phrase_idle h]
    simp [Tree.value]
  | .call t name h argument, depth + 1, rest => by
    change phrase _ (t :: (argument.tokens ++ rest)) = _
    rw [phrase_call h, read_tokens argument depth rest, Tree.value]
    cases Builtin.find? name with
    | none => rfl
    | some function => simp
  | .operation t op h left right, depth + 1, rest => by
    change phrase _ (t :: (left.tokens ++ right.tokens ++ rest)) = _
    simp [phrase_operator h, List.append_assoc, Tree.value, integer, read_tokens left depth,
      read_tokens right depth]
  | .block t h first tail, depth + 1, rest => by
    change phrase _ (t :: (first.tokens ++ tail.tokens ++ rest)) = _
    simp [phrase_opening h, List.append_assoc, Tree.value, integer, read_tokens first depth,
      fold_tokens tail depth]

/-- Reading the tokens of the rest of a block completes the total. -/
theorem fold_tokens : (tail : Tail) → (depth : Nat) → (total : Int64) → (rest : List Token) →
    (within depth).fold total (tail.tokens ++ rest) = (do
      let n ← tail.value depth total
      return (n, rest))
  | .close t h, depth, total, rest => by
    change fold _ _ (t :: rest) = _
    rw [fold_closing h]
    simp [Tail.value]
  | .more t op h operand tail, depth, total, rest => by
    change fold _ _ (t :: (operand.tokens ++ tail.tokens ++ rest)) = _
    simp [fold_operator h, List.append_assoc, Tail.value, integer, read_tokens operand depth,
      fold_tokens tail depth]

end

end Reader

end Abacus
