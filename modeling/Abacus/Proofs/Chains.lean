import Abacus.Proofs.NestingLimit

/-! Blocks and chains of operators.  A block applies its operators one after another to a total; the
same operators in front of the operands, the last one first, nest the same operations in one
another.  The two evaluate the same operands in the same order and make the same checks and
applications, and differ only in what they report of a first operand that is no integer.  The limit
on nesting aside, which a chain reaches sooner, they are the same computation. -/

namespace Abacus

/-! ### Values without a limit -/

/-- The value of a tree without a limit on nesting. -/
def Tree.freely (tree : Tree) : Logged EvalError Value := tree.value tree.height

/-- The total of a block without a limit on nesting. -/
def Tail.freely (tail : Tail) (total : Int64) : Logged EvalError Int64 :=
  tail.value tail.height total

theorem Tree.value_eq_freely {tree : Tree} {depth : Nat} (low : tree.height ≤ depth) :
    tree.value depth = tree.freely :=
  tree.value_congr low (Nat.le_refl _)

theorem Tail.value_eq_freely {tail : Tail} {depth : Nat} (low : tail.height ≤ depth) :
    tail.value depth = tail.freely :=
  tail.value_congr low (Nat.le_refl _)

theorem Tree.freely_operation (t : Token) (op : Operator) (role : t.role = .operator op)
    (left right : Tree) :
    (Tree.operation t op role left right).freely = (do
      let v ← left.freely
      let l ← v.expectInteger op.symbol t.line
      let v ← right.freely
      let r ← v.expectInteger op.symbol t.line
      let n ← op.apply l r t.line
      return .integer n) := by
  rw [freely, height, value, value_eq_freely (Nat.le_max_left ..),
    value_eq_freely (Nat.le_max_right ..)]

theorem Tree.freely_block (t : Token) (role : t.role = .opening) (first : Tree) (tail : Tail) :
    (Tree.block t role first tail).freely = (do
      let v ← first.freely
      let n ← v.expectInteger "(" t.line
      let total ← tail.freely n
      return .integer total) := by
  rw [freely, height, value, value_eq_freely (Nat.le_max_left ..),
    Tail.value_eq_freely (Nat.le_max_right ..)]

theorem Tail.freely_more (t : Token) (op : Operator) (role : t.role = .operator op) (operand : Tree)
    (tail : Tail) (total : Int64) :
    (Tail.more t op role operand tail).freely total = (do
      let v ← operand.freely
      let n ← v.expectInteger op.symbol t.line
      let total ← op.apply total n t.line
      tail.freely total) := by
  rw [freely, height, value, Tree.value_eq_freely (Nat.le_max_left ..),
    value_eq_freely (Nat.le_max_right ..)]

/-! ### Evaluations that stay inside the limit -/

/-- The computation does not fail for a phrase that is too deep. -/
def Shallow {α : Type} (x : Logged EvalError α) : Prop :=
  ∀ line, x.result ≠ .error (.nestingTooDeep line)

theorem Shallow.of_bind {α β : Type} {x : Logged EvalError α} {f : α → Logged EvalError β}
    (h : Shallow (x >>= f)) : Shallow x :=
  fun line failed => h line (Logged.result_bind_eq_error_iff.mpr (.inl failed))

theorem shallow_map_iff {α β : Type} {x : Logged EvalError α} {f : α → β} :
    Shallow (x.map f) ↔ Shallow x := by
  obtain ⟨log, result⟩ := x
  cases result <;> simp [Shallow, Logged.map, Except.map]

/-- A tree in which no phrase is found too deep has the value that it has without a limit. -/
theorem Tree.value_of_shallow {tree : Tree} {depth : Nat} (h : Shallow (tree.value depth)) :
    tree.value depth = tree.freely := by
  have read : (Reader.within depth).read (tree.tokens ++ []) =
      (tree.value depth).map fun v => (v, []) := by
    rw [Reader.read_tokens, Logged.bind_pure_eq_map]
  have free : Reader.unlimited.read (tree.tokens ++ []) = tree.freely.map fun v => (v, []) := by
    rw [Reader.unlimited_tokens tree [] (Nat.le_refl _), Reader.read_tokens,
      Logged.bind_pure_eq_map]
    rfl
  have same : (tree.value depth).map (fun v => (v, ([] : List Token))) =
      tree.freely.map fun v => (v, []) := by
    rw [← free, ← Reader.within_eq_unlimited (read ▸ shallow_map_iff.mpr h), read]
  have values := congrArg (Logged.map Prod.fst) same
  rw [Logged.map_map, Logged.map_map] at values
  exact (Logged.map_id _).symm.trans (values.trans (Logged.map_id _))

theorem Shallow.first {t : Token} {role : t.role = .opening} {first : Tree} {tail : Tail}
    {depth : Nat} (h : Shallow ((Tree.block t role first tail).value depth)) :
    Shallow (first.value (depth - 1)) := by
  cases depth with
  | zero => exact absurd rfl (h t.line)
  | succ depth => exact h.of_bind

/-! ### Checks for an integer -/

namespace Logged

variable {β : Type} {x : Logged EvalError Value} {operation : String} {line : Nat}
  {f : Int64 → Logged EvalError β}

theorem result_of_paired {α : Type} {x : Logged EvalError α} {a : α} {k next : Nat}
    (h : (x.map fun a => (a, k)).result = .ok (a, next)) : x.result = .ok a := by
  obtain ⟨b, found, same⟩ := result_map_eq_ok_iff.mp h
  cases same
  exact found

theorem expect_refused {v : Value} (found : x.result = .ok v) (other : v.toInteger? = none) :
    (do
      let v ← x
      let n ← v.expectInteger operation line
      f n) = ⟨x.log, .error (.typeMismatch operation v.kind line)⟩ := by
  rw [bind_ok found, Value.expectInteger, other]
  exact Logged.ext (List.append_nil _) rfl

theorem expect_integer {n : Int64} (found : x.result = .ok (.integer n)) :
    (do
      let v ← x
      let n ← v.expectInteger operation line
      f n) = ⟨x.log ++ (f n).log, (f n).result⟩ := by
  rw [bind_ok found]
  rfl

end Logged

/-! ### Operators and operands -/

/-- An operator with the operand behind it. -/
structure Link where
  sign : Token
  op : Operator
  role : sign.role = .operator op
  operand : Tree

/-- The tokens of a block: each operator stands in front of its operand. -/
def blockTokens (opening : Token) (first : Tree) (links : List Link) (closing : Token) :
    List Token :=
  opening :: (first.tokens ++ links.flatMap (fun link => link.sign :: link.operand.tokens) ++
    [closing])

/-- The tokens of a chain: the operators from the last to the first, and then the operands. -/
def chainTokens (first : Tree) (links : List Link) : List Token :=
  (links.map Link.sign).reverse ++ first.tokens ++ links.flatMap (fun link => link.operand.tokens)

/-- The rest of a block that applies the operators of the links in turn. -/
def tailOf (links : List Link) (closing : Token) (closes : closing.role = .closing) : Tail :=
  links.foldr (fun link tail => .more link.sign link.op link.role link.operand tail)
    (.close closing closes)

/-- The operations of the links, each with those before it for its left operand. -/
def chainOf (first : Tree) (links : List Link) : Tree :=
  links.foldl (fun left link => .operation link.sign link.op link.role left link.operand) first

theorem tokens_tailOf (links : List Link) {closing : Token} (closes : closing.role = .closing) :
    (tailOf links closing closes).tokens =
      links.flatMap (fun link => link.sign :: link.operand.tokens) ++ [closing] := by
  induction links with
  | nil => rfl
  | cons link links ih =>
    change link.sign :: (link.operand.tokens ++ (tailOf links closing closes).tokens) = _
    rw [ih, List.flatMap_cons]
    simp

theorem tokens_chainOf (links : List Link) (first : Tree) :
    (chainOf first links).tokens = chainTokens first links := by
  induction links generalizing first with
  | nil => simp [chainOf, chainTokens]
  | cons link links ih =>
    change (chainOf (.operation link.sign link.op link.role first link.operand) links).tokens = _
    rw [ih]
    simp [chainTokens, Tree.tokens]

/-- A chain evaluates its first operand, and then what the rest of a block evaluates. -/
theorem freely_chainOf (link : Link) (links : List Link) {closing : Token}
    (closes : closing.role = .closing) (first : Tree) :
    (chainOf first (link :: links)).freely = (do
      let v ← first.freely
      let n ← v.expectInteger link.op.symbol link.sign.line
      let total ← (tailOf (link :: links) closing closes).freely n
      return .integer total) := by
  induction links generalizing link first with
  | nil =>
    change (Tree.operation link.sign link.op link.role first link.operand).freely = _
    rw [Tree.freely_operation]
    simp only [tailOf, List.foldr_cons, List.foldr_nil, Tail.freely_more, bind_assoc]
    rfl
  | cons next links ih =>
    change (chainOf (.operation link.sign link.op link.role first link.operand)
      (next :: links)).freely = _
    -- The total so far is an integer, so the next operator's check of it passes.
    have rest : ∀ n, (tailOf (link :: next :: links) closing closes).freely n = (do
        let v ← link.operand.freely
        let m ← v.expectInteger link.op.symbol link.sign.line
        let total ← link.op.apply n m link.sign.line
        (tailOf (next :: links) closing closes).freely total) :=
      Tail.freely_more link.sign link.op link.role link.operand _
    have passes : ∀ n, (Value.integer n).expectInteger next.op.symbol next.sign.line = .ok n :=
      fun n => rfl
    rw [ih, Tree.freely_operation]
    simp only [rest, bind_assoc, pure_bind, passes]
    rfl

/-- A block and a chain of the same operands and operators, wherever they stand and however deep,
are the same unless one of them is found too deep: they log the same, and have the same value, each
up to its own end, or the same error.  Only a first operand that is no integer is reported in two
ways, by the block at its opening and by the chain at its first operator. -/
theorem block_agrees_with_chain {opening closing : Token} (opens : opening.role = .opening)
    (closes : closing.role = .closing) (first : Tree) (link : Link) (links : List Link)
    (before rest before' rest' : List Token) (depth depth' : Nat)
    {x y z : Logged EvalError (Value × Nat)}
    (block : evaluateInside (before ++ blockTokens opening first (link :: links) closing ++ rest)
      before.length depth = x)
    (head : evaluateInside (before ++ blockTokens opening first (link :: links) closing ++ rest)
      (before.length + 1) (depth + 1) = z)
    (chain : evaluateInside (before' ++ chainTokens first (link :: links) ++ rest')
      before'.length depth' = y)
    (shallow : Shallow x) (shallow' : Shallow y) :
    x.log = y.log ∧
    (∀ v next, z.result = .ok (v, next) → v.toInteger? = none →
      x.result = .error (.typeMismatch "(" v.kind opening.line) ∧
      y.result = .error (.typeMismatch link.op.symbol v.kind link.sign.line)) ∧
    ((∀ v next, z.result = .ok (v, next) → v.toInteger? ≠ none) →
      (∃ v, x.result = .ok (v, before.length +
          (blockTokens opening first (link :: links) closing).length) ∧
        y.result = .ok (v, before'.length + (chainTokens first (link :: links)).length)) ∨
      ∃ e, x.result = .error e ∧ y.result = .error e) := by
  have inner : before ++ blockTokens opening first (link :: links) closing ++ rest =
      (before ++ [opening]) ++ first.tokens ++
        ((tailOf (link :: links) closing closes).tokens ++ rest) := by
    simp [blockTokens, tokens_tailOf]
  have outer : blockTokens opening first (link :: links) closing =
      (Tree.block opening opens first (tailOf (link :: links) closing closes)).tokens := by
    simp [blockTokens, Tree.tokens, tokens_tailOf]
  rw [inner, show before.length + 1 = (before ++ [opening]).length by simp,
    evaluateInside_eq_value] at head
  rw [outer, evaluateInside_eq_value] at block
  rw [← tokens_chainOf, evaluateInside_eq_value] at chain
  subst block head chain
  have shallow := shallow_map_iff.mp shallow
  have shallow' := shallow_map_iff.mp shallow'
  rw [← outer, ← tokens_chainOf, Tree.value_of_shallow shallow, Tree.value_of_shallow shallow',
    Tree.value_of_shallow (Nat.sub_sub .. ▸ shallow.first), Tree.freely_block,
    freely_chainOf link links closes]
  cases found : first.freely.result with
  | error e =>
    rw [Logged.bind_error found, Logged.bind_error found]
    refine ⟨rfl, fun v next value => ?_, fun _ => .inr ⟨e, rfl, rfl⟩⟩
    cases found.symm.trans (Logged.result_of_paired value)
  | ok v =>
    by_cases other : v.toInteger? = none
    · rw [Logged.expect_refused found other, Logged.expect_refused found other]
      refine ⟨rfl, fun w next value _ => ?_, fun integer => ?_⟩
      · cases found.symm.trans (Logged.result_of_paired value)
        exact ⟨rfl, rfl⟩
      · exact absurd other (integer v _ (Logged.result_map_eq_ok_iff.mpr ⟨v, found, rfl⟩))
    · obtain ⟨n, rfl⟩ : ∃ n, v = .integer n := by
        cases v with
        | integer n => exact ⟨n, rfl⟩
        | text | empty => exact absurd rfl other
      rw [Logged.expect_integer found, Logged.expect_integer found]
      refine ⟨rfl, fun w next value refused => ?_, fun _ => ?_⟩
      · cases found.symm.trans (Logged.result_of_paired value)
        exact absurd refused other
      · -- From the first operand's integer on, the two are one computation.
        cases total : ((tailOf (link :: links) closing closes).freely n).result with
        | error e =>
          rw [Logged.bind_error total]
          exact .inr ⟨e, rfl, rfl⟩
        | ok m =>
          rw [Logged.bind_ok total]
          exact .inl ⟨.integer m, rfl, rfl⟩

def seven : Tree := .number ⟨⟨.number, "7"⟩, 2⟩ "7" rfl

def minusTwo : Link :=
  ⟨⟨⟨.arithmetic, "-"⟩, 3⟩, .subtract, rfl, .number ⟨⟨.number, "2"⟩, 3⟩ "2" rfl⟩

def timesThree : Link :=
  ⟨⟨⟨.arithmetic, "*"⟩, 3⟩, .multiply, rfl, .number ⟨⟨.number, "3"⟩, 3⟩ "3" rfl⟩

def leftParenthesis : Token := ⟨⟨.blockStart, "("⟩, 1⟩

def rightParenthesis : Token := ⟨⟨.blockEnd, ")"⟩, 3⟩

def semicolon : Token := ⟨⟨.instructionEnd, ";"⟩, 3⟩

/-- The block of `first`, minus two, times three, between semicolons. -/
def sampleBlockOf (first : Tree) : List Token :=
  [semicolon] ++ blockTokens leftParenthesis first [minusTwo, timesThree] rightParenthesis ++
    [semicolon]

/-- The chain of the same operands and operators. -/
def sampleChainOf (first : Tree) : List Token :=
  [] ++ chainTokens first [minusTwo, timesThree] ++ [semicolon]

/-- With seven for the first operand the block and the chain have one value, and with a call both
log its text and then refuse its empty value, the block at the opening and the chain at minus. -/
theorem block_and_chain_of_samples :
    (∃ v, (evaluateInside (sampleBlockOf seven) 1 0).result = .ok (v, 8) ∧
      (evaluateInside (sampleChainOf seven) 0 0).result = .ok (v, 5)) ∧
    (evaluateInside (sampleBlockOf (callsOnText 1)) 1 0).log =
      (evaluateInside (sampleChainOf (callsOnText 1)) 0 0).log ∧
    (evaluateInside (sampleBlockOf (callsOnText 1)) 1 0).result =
      .error (.typeMismatch "(" .empty 1) ∧
    (evaluateInside (sampleChainOf (callsOnText 1)) 0 0).result =
      .error (.typeMismatch "-" .empty 3) := by
  have opens : leftParenthesis.role = .opening := rfl
  have closes : rightParenthesis.role = .closing := rfl
  have block : evaluateInside (sampleBlockOf seven) 1 0 = ⟨[], .ok (.integer 15, 8)⟩ :=
    evaluateInside_eq_value (.block leftParenthesis opens seven
      (tailOf [minusTwo, timesThree] rightParenthesis closes)) [semicolon] [semicolon] 0
  have values := block_agrees_with_chain opens closes seven minusTwo [timesThree] [semicolon]
    [semicolon] [] [semicolon] 0 0 block rfl rfl (fun _ failed => nomatch failed)
    (fun _ failed => nomatch failed)
  have refusals := block_agrees_with_chain opens closes (callsOnText 1) minusTwo [timesThree]
    [semicolon] [semicolon] [] [semicolon] 0 0 rfl rfl rfl (fun _ failed => nomatch failed)
    (fun _ failed => nomatch failed)
  refine ⟨?_, refusals.1, refusals.2.1 .empty 4 rfl rfl⟩
  rcases values.2.2 (fun v next found => by cases found; exact nofun) with same | ⟨e, failed, -⟩
  · rw [block]
    exact same
  · cases failed

end Abacus
