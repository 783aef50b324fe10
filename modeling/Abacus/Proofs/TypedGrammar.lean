import Abacus.Proofs.TreeReading

/-! The phrases that are evaluated with success.  They form a typed grammar, stated here on kinds and
texts alone: any number of calls of `log` in front of a core, which is a text, a token that does
nothing, or an integer expression.  Evaluation succeeds exactly on the phrases of the grammar that
are not too high, whose numerals denote 64-bit integers and whose operators can be applied, and its
value and its log follow from the core and the number of calls. -/

namespace Abacus

/-! ### Roles by kind and text -/

namespace Lexeme

variable {l : Lexeme}

theorem role_eq_call_iff {name : String} :
    l.role = .call name ↔ l.kind = .reference ∧ l.text = name := by
  unfold role
  cases l.kind <;> simp
  split <;> simp

theorem role_eq_operator_iff {op : Operator} :
    l.role = .operator op ↔ l.kind = .arithmetic ∧ l.text = op.symbol := by
  rw [← Operator.ofSymbol?_eq_some_iff]
  unfold role
  cases l.kind <;> simp
  cases Operator.ofSymbol? l.text <;> simp

theorem role_eq_opening_iff : l.role = .opening ↔ l.kind = .blockStart := by
  unfold role
  cases l.kind <;> simp
  split <;> simp

theorem role_eq_closing_iff : l.role = .closing ↔ l.kind = .blockEnd := by
  unfold role
  cases l.kind <;> simp
  split <;> simp

theorem role_eq_text_iff {content : String} :
    l.role = .text content ↔ l.kind = .string ∧ l.text = content := by
  unfold role
  cases l.kind <;> simp
  split <;> simp

theorem role_eq_number_iff {numeral : String} :
    l.role = .number numeral ↔ l.kind = .number ∧ l.text = numeral := by
  unfold role
  cases l.kind <;> simp
  split <;> simp

theorem role_eq_idle_iff :
    l.role = .idle ↔
      l.kind ∈ [.comparator, .assignment, .logical, .bitwise, .instructionEnd] ∨
        l.kind = .arithmetic ∧ Operator.ofSymbol? l.text = none := by
  unfold role
  cases l.kind <;> simp
  split <;> simp_all

/-- The token does nothing where a phrase starts. -/
def IsNoOp (l : Lexeme) : Prop :=
  l.kind ∈ [.comparator, .assignment, .logical, .bitwise, .instructionEnd, .blockEnd] ∨
    l.kind = .arithmetic ∧ Operator.ofSymbol? l.text = none

theorem isNoOp_iff : l.IsNoOp ↔ l.role = .closing ∨ l.role = .idle := by
  rw [role_eq_closing_iff, role_eq_idle_iff, IsNoOp]
  simp only [List.mem_cons, List.not_mem_nil, or_false]
  grind

/-- The token can stand in an integer expression: it is a number, a known operator or a
parenthesis. -/
def IsIntegral (l : Lexeme) : Prop :=
  l.kind = .number ∨ (l.kind = .arithmetic ∧ ∃ op : Operator, l.text = op.symbol) ∨
    l.kind = .blockStart ∨ l.kind = .blockEnd

end Lexeme

/-! ### The grammar -/

mutual

/-- An integer expression: a number, an operator in front of two expressions, or a block. -/
inductive Expression where
  | number (t : Token) (h : t.kind = .number)
  | operation (t : Token) (op : Operator) (h : t.kind = .arithmetic ∧ t.text = op.symbol)
    (left right : Expression)
  | block (t : Token) (h : t.kind = .blockStart) (first : Expression) (operands : Operands)

/-- The operators of a block, each with its operand, up to the token that closes the block. -/
inductive Operands where
  | close (t : Token) (h : t.kind = .blockEnd)
  | more (t : Token) (op : Operator) (h : t.kind = .arithmetic ∧ t.text = op.symbol)
    (operand : Expression) (operands : Operands)

end

/-- What a chain of calls ends in. -/
inductive Core where
  | text (t : Token) (h : t.kind = .string)
  | noOp (t : Token) (h : t.IsNoOp)
  | integer (e : Expression)

mutual

/-- The tokens of an expression, in order. -/
def Expression.tokens : Expression → List Token
  | .number t _ => [t]
  | .operation t _ _ left right => t :: (left.tokens ++ right.tokens)
  | .block t _ first operands => t :: (first.tokens ++ operands.tokens)

def Operands.tokens : Operands → List Token
  | .close t _ => [t]
  | .more t _ _ operand operands => t :: (operand.tokens ++ operands.tokens)

end

mutual

/-- The most expressions that stand inside one another, the outermost included. -/
def Expression.height : Expression → Nat
  | .number _ _ => 1
  | .operation _ _ _ left right => max left.height right.height + 1
  | .block _ _ first operands => max first.height operands.height + 1

def Operands.height : Operands → Nat
  | .close _ _ => 0
  | .more _ _ _ operand operands => max operand.height operands.height

end

mutual

/-- The total of an expression, from left to right and without precedence: the first numeral that
denotes no 64-bit integer or operator that cannot be applied is an error. -/
def Expression.total : Expression → Except EvalError Int64
  | .number t _ => literal t.text t.line
  | .operation t op _ left right => do
    let l ← left.total
    let r ← right.total
    op.apply l r t.line
  | .block _ _ first operands => do
    let n ← first.total
    operands.total n

def Operands.total : Operands → Int64 → Except EvalError Int64
  | .close _ _, n => return n
  | .more t op _ operand operands, n => do
    let m ← operand.total
    let sum ← op.apply n m t.line
    operands.total sum

end

namespace Core

def tokens : Core → List Token
  | .text t _ => [t]
  | .noOp t _ => [t]
  | .integer e => e.tokens

def height : Core → Nat
  | .text _ _ => 1
  | .noOp _ _ => 1
  | .integer e => e.height

/-- The value of a core.  Only an expression can fail to have one. -/
def value : Core → Except EvalError Value
  | .text t _ => return .text t.text
  | .noOp _ _ => return .empty
  | .integer e => do
    let n ← e.total
    return .integer n

end Core

/-! ### Cores as trees -/

mutual

def Expression.toTree : Expression → Tree
  | .number t h => .number t t.text (Lexeme.role_eq_number_iff.mpr ⟨h, rfl⟩)
  | .operation t op h left right =>
    .operation t op (Lexeme.role_eq_operator_iff.mpr h) left.toTree right.toTree
  | .block t h first operands =>
    .block t (Lexeme.role_eq_opening_iff.mpr h) first.toTree operands.toTail

def Operands.toTail : Operands → Tail
  | .close t h => .close t (Lexeme.role_eq_closing_iff.mpr h)
  | .more t op h operand operands =>
    .more t op (Lexeme.role_eq_operator_iff.mpr h) operand.toTree operands.toTail

end

def Core.toTree : Core → Tree
  | .text t h => .text t t.text (Lexeme.role_eq_text_iff.mpr ⟨h, rfl⟩)
  | .noOp t h => .idle t (Lexeme.isNoOp_iff.mp h)
  | .integer e => e.toTree

mutual

theorem Expression.tokens_toTree (e : Expression) : e.toTree.tokens = e.tokens := by
  cases e with
  | number t h => rfl
  | operation t op h left right =>
    rw [Expression.toTree, Tree.tokens, Expression.tokens, left.tokens_toTree, right.tokens_toTree]
  | block t h first operands =>
    rw [Expression.toTree, Tree.tokens, Expression.tokens, first.tokens_toTree,
      operands.tokens_toTail]

theorem Operands.tokens_toTail (operands : Operands) :
    operands.toTail.tokens = operands.tokens := by
  cases operands with
  | close t h => rfl
  | more t op h operand operands =>
    rw [Operands.toTail, Tail.tokens, Operands.tokens, operand.tokens_toTree,
      operands.tokens_toTail]

end

theorem Core.tokens_toTree (core : Core) : core.toTree.tokens = core.tokens := by
  cases core with
  | text t h => rfl
  | noOp t h => rfl
  | integer e => exact e.tokens_toTree

mutual

/-- An expression that is not too high has its total for value, and logs nothing. -/
theorem Expression.value_toTree (e : Expression) {depth : Nat} (h : e.height ≤ depth) :
    e.toTree.value depth = .ofExcept (e.total.map .integer) := by
  cases depth with
  | zero => cases e <;> simp [Expression.height] at h
  | succ depth =>
    cases e with
    | number t kind =>
      rw [Expression.toTree, Tree.value, Expression.total]
      cases literal t.text t.line <;> rfl
    | operation t op known left right =>
      simp only [Expression.height] at h
      rw [Expression.toTree, Tree.value, Expression.total, left.value_toTree (by omega),
        right.value_toTree (by omega)]
      cases left.total with
      | error e => rfl
      | ok l =>
        cases right.total with
        | error e => rfl
        | ok r =>
          change (Logged.ofExcept (op.apply l r t.line) >>= _) =
            Logged.ofExcept ((op.apply l r t.line).map _)
          cases op.apply l r t.line <;> rfl
    | block t kind first operands =>
      simp only [Expression.height] at h
      rw [Expression.toTree, Tree.value, Expression.total, first.value_toTree (by omega)]
      cases first.total with
      | error e => rfl
      | ok n =>
        change (operands.toTail.value depth n >>= _) = Logged.ofExcept ((operands.total n).map _)
        rw [operands.value_toTail n (by omega)]
        cases operands.total n <;> rfl

theorem Operands.value_toTail (operands : Operands) {depth : Nat} (n : Int64)
    (h : operands.height ≤ depth) :
    operands.toTail.value depth n = .ofExcept (operands.total n) := by
  cases operands with
  | close t kind => rfl
  | more t op known operand operands =>
    simp only [Operands.height] at h
    rw [Operands.toTail, Tail.value, Operands.total, operand.value_toTree (by omega)]
    cases operand.total with
    | error e => rfl
    | ok m =>
      change (Logged.ofExcept (op.apply n m t.line) >>= _) =
        Logged.ofExcept (op.apply n m t.line >>= _)
      cases op.apply n m t.line with
      | error e => rfl
      | ok sum => exact operands.value_toTail sum (by omega)

end

theorem Core.value_toTree (core : Core) {depth : Nat} (h : core.height ≤ depth) :
    core.toTree.value depth = .ofExcept core.value := by
  cases core with
  | text t kind =>
    obtain ⟨depth, rfl⟩ := Nat.exists_eq_add_of_le' h
    rfl
  | noOp t kind =>
    obtain ⟨depth, rfl⟩ := Nat.exists_eq_add_of_le' h
    rfl
  | integer e =>
    change e.toTree.value depth = .ofExcept (e.total >>= _)
    rw [e.value_toTree h]
    cases e.total <;> rfl

/-! ### Trees with a value -/

/-- A computation goes on behind a check for an integer only with an integer. -/
theorem Logged.result_expect_eq_ok {β : Type} {x : Logged EvalError Value} {operation : String}
    {line : Nat} {f : Int64 → Logged EvalError β} {b : β}
    (h : (x >>= fun v => liftM (v.expectInteger operation line) >>= f).result = .ok b) :
    ∃ n, x.result = .ok (.integer n) ∧ (f n).result = .ok b := by
  obtain ⟨v, first, second⟩ := Logged.result_bind_eq_ok_iff.mp h
  obtain ⟨n, checked, third⟩ := Logged.result_bind_eq_ok_iff.mp second
  rw [Value.expectInteger_eq_ok checked] at first
  exact ⟨n, first, third⟩

mutual

/-- A tree whose value is an integer is an expression that is not too high. -/
theorem Tree.exists_expression (tree : Tree) {depth : Nat} {n : Int64}
    (h : (tree.value depth).result = .ok (.integer n)) :
    ∃ e : Expression, e.toTree = tree ∧ e.height ≤ depth ∧ e.total = .ok n := by
  cases depth with
  | zero => cases tree <;> cases h
  | succ depth =>
    cases tree with
    | number t numeral role =>
      obtain ⟨kind, rfl⟩ := Lexeme.role_eq_number_iff.mp role
      obtain ⟨m, read, h⟩ := Logged.result_bind_eq_ok_iff.mp h
      cases h
      exact ⟨.number t kind, rfl, by simp [Expression.height], read⟩
    | text t content role => cases h
    | idle t role => cases h
    | call t name role argument =>
      rw [Tree.value] at h
      cases found : Builtin.find? name with
      | none => rw [found] at h; cases h
      | some function =>
        -- The value of a call is empty.
        rw [found] at h
        obtain ⟨v, -, h⟩ := Logged.result_bind_eq_ok_iff.mp h
        cases function
        cases h
    | operation t op role left right =>
      obtain ⟨l, hl, h⟩ := Logged.result_expect_eq_ok h
      obtain ⟨r, hr, h⟩ := Logged.result_expect_eq_ok h
      obtain ⟨m, applied, h⟩ := Logged.result_bind_eq_ok_iff.mp h
      cases h
      obtain ⟨e, rfl, low, total⟩ := left.exists_expression hl
      obtain ⟨f, rfl, low', total'⟩ := right.exists_expression hr
      refine ⟨.operation t op (Lexeme.role_eq_operator_iff.mp role) e f, rfl, ?_, ?_⟩
      · simp only [Expression.height]
        omega
      · rw [Expression.total, total, total']
        exact applied
    | block t role first tail =>
      obtain ⟨m, hf, h⟩ := Logged.result_expect_eq_ok h
      obtain ⟨sum, folded, h⟩ := Logged.result_bind_eq_ok_iff.mp h
      cases h
      obtain ⟨e, rfl, low, total⟩ := first.exists_expression hf
      obtain ⟨operands, rfl, low', total'⟩ := tail.exists_operands folded
      refine ⟨.block t (Lexeme.role_eq_opening_iff.mp role) e operands, rfl, ?_, ?_⟩
      · simp only [Expression.height]
        omega
      · rw [Expression.total, total]
        exact total'

theorem Tail.exists_operands (tail : Tail) {depth : Nat} {total n : Int64}
    (h : (tail.value depth total).result = .ok n) :
    ∃ operands : Operands,
      operands.toTail = tail ∧ operands.height ≤ depth ∧ operands.total total = .ok n := by
  cases tail with
  | close t role =>
    cases h
    exact ⟨.close t (Lexeme.role_eq_closing_iff.mp role), rfl, Nat.zero_le _, rfl⟩
  | more t op role operand tail =>
    obtain ⟨m, ho, h⟩ := Logged.result_expect_eq_ok h
    obtain ⟨sum, applied, folded⟩ := Logged.result_bind_eq_ok_iff.mp h
    obtain ⟨e, rfl, low, value⟩ := operand.exists_expression ho
    obtain ⟨operands, rfl, low', value'⟩ := tail.exists_operands folded
    refine ⟨.more t op (Lexeme.role_eq_operator_iff.mp role) e operands, rfl, ?_, ?_⟩
    · simp only [Operands.height]
      omega
    · have applied : op.apply total m t.line = .ok sum := applied
      rw [Operands.total, value]
      change (op.apply total m t.line >>= fun sum => operands.total sum) = _
      rw [applied]
      exact value'

end

/-- The tokens call `log` again and again. -/
def AllLog (calls : List Token) : Prop := ∀ t ∈ calls, t.kind = .reference ∧ t.text = "log"

/-- A tree with a value is a chain of calls in front of a core with a value. -/
theorem Tree.exists_core (tree : Tree) {depth : Nat} {v : Value}
    (h : (tree.value depth).result = .ok v) :
    ∃ (calls : List Token) (core : Core) (w : Value), AllLog calls ∧
      tree.tokens = calls ++ core.tokens ∧ calls.length + core.height ≤ depth ∧
      core.value = .ok w := by
  by_cases integer : ∃ n, v = .integer n
  · obtain ⟨n, rfl⟩ := integer
    obtain ⟨e, rfl, low, total⟩ := tree.exists_expression h
    refine ⟨[], .integer e, .integer n, by simp [AllLog], e.tokens_toTree, ?_, ?_⟩
    · simpa [Core.height] using low
    · rw [Core.value, total]
      rfl
  cases depth with
  | zero => cases tree <;> cases h
  | succ depth =>
    cases tree with
    | number t numeral role =>
      obtain ⟨n, -, last⟩ := Logged.result_bind_eq_ok_iff.mp h
      cases last
      exact absurd ⟨n, rfl⟩ integer
    | operation t op role left right =>
      obtain ⟨l, -, h⟩ := Logged.result_expect_eq_ok h
      obtain ⟨r, -, h⟩ := Logged.result_expect_eq_ok h
      obtain ⟨n, -, last⟩ := Logged.result_bind_eq_ok_iff.mp h
      cases last
      exact absurd ⟨n, rfl⟩ integer
    | block t role first tail =>
      obtain ⟨m, -, h⟩ := Logged.result_expect_eq_ok h
      obtain ⟨n, -, last⟩ := Logged.result_bind_eq_ok_iff.mp h
      cases last
      exact absurd ⟨n, rfl⟩ integer
    | text t content role =>
      obtain ⟨kind, rfl⟩ := Lexeme.role_eq_text_iff.mp role
      exact ⟨[], .text t kind, .text t.text, by simp [AllLog], rfl, by simp [Core.height], rfl⟩
    | idle t role =>
      exact ⟨[], .noOp t (Lexeme.isNoOp_iff.mpr role), .empty, by simp [AllLog], rfl,
        by simp [Core.height], rfl⟩
    | call t name role argument =>
      rw [Tree.value] at h
      cases found : Builtin.find? name with
      | none => rw [found] at h; cases h
      | some function =>
        rw [found] at h
        obtain ⟨u, read, -⟩ := Logged.result_bind_eq_ok_iff.mp h
        obtain ⟨calls, core, w, logs, tokens, low, value⟩ := argument.exists_core read
        obtain ⟨kind, text⟩ := Lexeme.role_eq_call_iff.mp role
        have name : name = "log" := by
          cases function
          exact Builtin.find?_eq_some_iff.mp found
        refine ⟨t :: calls, core, w, ?_, ?_, ?_, value⟩
        · exact List.forall_mem_cons.mpr ⟨⟨kind, text.trans name⟩, logs⟩
        · rw [Tree.tokens, tokens, List.cons_append]
        · rw [List.length_cons]
          omega

/-! ### Reading a phrase of the grammar -/

theorem Builtin.call_log {ε : Type} (v : Value) :
    (Builtin.log.call v : Logged ε Value) = ⟨v.render?.toList, .ok .empty⟩ := by
  simp [call, Logged.write, Logged.pure_def]

/-- The first call that is carried out logs the value of the core, and those around it have nothing
left to log. -/
theorem read_chain (calls : List Token) (core : Core) {w : Value} {depth : Nat} (rest : List Token)
    (logs : AllLog calls) (low : calls.length + core.height ≤ depth) (value : core.value = .ok w) :
    (Reader.within depth).read (calls ++ core.tokens ++ rest) =
      ⟨if calls.isEmpty then [] else w.render?.toList,
        .ok (if calls.isEmpty then w else .empty, rest)⟩ := by
  induction calls generalizing depth with
  | nil =>
    rw [List.nil_append, ← core.tokens_toTree, Reader.read_tokens,
      core.value_toTree (by simpa using low), value]
    rfl
  | cons t calls ih =>
    obtain ⟨⟨kind, text⟩, logs⟩ := List.forall_mem_cons.mp logs
    rw [List.length_cons] at low
    obtain ⟨depth, rfl⟩ : ∃ d, depth = d + 1 := ⟨depth - 1, by omega⟩
    change (Reader.within depth).phrase (t :: (calls ++ core.tokens ++ rest)) = _
    have role : t.role = .call Builtin.log.name := Lexeme.role_eq_call_iff.mpr ⟨kind, text⟩
    have found : Builtin.find? Builtin.log.name = some .log := Builtin.find?_eq_some_iff.mpr rfl
    rw [Reader.phrase_call role, found, ih logs (by omega)]
    simp only [Logged.mk_ok_bind, Builtin.call_log, Logged.pure_def]
    -- The call at `t` has the core for argument, or else a call, whose value renders to nothing.
    cases calls <;> simp [Value.render?]

theorem Core.tokens_ne_nil (core : Core) : core.tokens ≠ [] := by
  obtain ⟨behind, front⟩ := core.toTree.tokens_eq_cons
  rw [← core.tokens_toTree, front]
  exact List.cons_ne_nil _ _

theorem evaluateAt_eq_ok {tokens : List Token} {index next : Nat} {log : List String} {v : Value} :
    evaluateAt tokens index = ⟨log, .ok (v, next)⟩ ↔
      ∃ rest, evaluate (tokens.drop index) = ⟨log, .ok (v, rest)⟩ ∧
        next = tokens.length - rest.length := by
  unfold evaluateAt
  obtain ⟨logged, result⟩ := evaluate (tokens.drop index)
  cases result with
  | error e =>
    rw [Logged.mk_error_bind]
    simp
  | ok found =>
    obtain ⟨w, rest⟩ := found
    simp only [Logged.mk_ok_bind, Logged.pure_def, List.append_nil, Logged.mk.injEq,
      Except.ok.injEq, Prod.mk.injEq]
    constructor
    · rintro ⟨rfl, rfl, rfl⟩
      exact ⟨rest, ⟨rfl, rfl, rfl⟩, rfl⟩
    · rintro ⟨_, ⟨rfl, rfl, rfl⟩, rfl⟩
      exact ⟨rfl, rfl, rfl⟩

mutual

theorem Expression.isIntegral_of_mem (e : Expression) {t : Token} (h : t ∈ e.tokens) :
    t.IsIntegral := by
  cases e with
  | number u kind =>
    cases List.mem_singleton.mp h
    exact .inl kind
  | operation u op known left right =>
    rcases List.mem_cons.mp h with rfl | h
    · exact .inr (.inl ⟨known.1, op, known.2⟩)
    · rcases List.mem_append.mp h with h | h
      · exact left.isIntegral_of_mem h
      · exact right.isIntegral_of_mem h
  | block u kind first operands =>
    rcases List.mem_cons.mp h with rfl | h
    · exact .inr (.inr (.inl kind))
    · rcases List.mem_append.mp h with h | h
      · exact first.isIntegral_of_mem h
      · exact operands.isIntegral_of_mem h

theorem Operands.isIntegral_of_mem (operands : Operands) {t : Token} (h : t ∈ operands.tokens) :
    t.IsIntegral := by
  cases operands with
  | close u kind =>
    cases List.mem_singleton.mp h
    exact .inr (.inr (.inr kind))
  | more u op known operand operands =>
    rcases List.mem_cons.mp h with rfl | h
    · exact .inr (.inl ⟨known.1, op, known.2⟩)
    · rcases List.mem_append.mp h with h | h
      · exact operand.isIntegral_of_mem h
      · exact operands.isIntegral_of_mem h

end

theorem drop_eq_of_extract {tokens phrase : List Token} {index next : Nat} (nonempty : phrase ≠ [])
    (h : tokens.extract index next = phrase) : tokens.drop index = phrase ++ tokens.drop next := by
  rw [List.extract_eq_take_drop] at h
  have forward : index ≤ next := by
    refine Nat.le_of_not_lt fun backward => nonempty ?_
    rw [← h, Nat.sub_eq_zero_of_le (Nat.le_of_lt backward), List.take_zero]
  have whole := List.take_append_drop (next - index) (tokens.drop index)
  rw [h, List.drop_drop, Nat.add_sub_cancel' forward] at whole
  exact whole.symm

theorem extract_of_drop_eq {tokens phrase rest : List Token} {index : Nat} (nonempty : phrase ≠ [])
    (h : tokens.drop index = phrase ++ rest) :
    tokens.extract index (tokens.length - rest.length) = phrase := by
  have count := congrArg List.length h
  have positive := List.length_pos_iff.mpr nonempty
  rw [List.length_drop, List.length_append] at count
  have width : tokens.length - rest.length - index = phrase.length := by omega
  rw [List.extract_eq_take_drop, width, h, List.take_left]

/-- A reading with an integer for its value reads an expression. -/
theorem exists_expression_of_read {depth : Nat} {tokens rest : List Token} {n : Int64}
    (h : ((Reader.within depth).read tokens).result = .ok (.integer n, rest)) :
    ∃ e : Expression, tokens = e.tokens ++ rest := by
  obtain ⟨tree, rfl⟩ := Reader.exists_tree_of_read depth h
  rw [Reader.read_tokens] at h
  obtain ⟨v, value, last⟩ := Logged.result_bind_eq_ok_iff.mp h
  cases last
  obtain ⟨e, rfl, -, -⟩ := tree.exists_expression value
  exact ⟨e, by rw [e.tokens_toTree]⟩

/-- A reading with a value reads a chain of calls in front of a core. -/
theorem exists_chain_of_read {depth : Nat} {tokens rest : List Token} {v : Value}
    (h : ((Reader.within depth).read tokens).result = .ok (v, rest)) :
    ∃ (calls : List Token) (core : Core) (w : Value), AllLog calls ∧
      tokens = calls ++ core.tokens ++ rest ∧ calls.length + core.height ≤ depth ∧
      core.value = .ok w := by
  obtain ⟨tree, rfl⟩ := Reader.exists_tree_of_read depth h
  rw [Reader.read_tokens] at h
  obtain ⟨u, value, -⟩ := Logged.result_bind_eq_ok_iff.mp h
  obtain ⟨calls, core, w, logs, tokens, low, value⟩ := tree.exists_core value
  exact ⟨calls, core, w, logs, by rw [tokens], low, value⟩

/-- Evaluation at `index` succeeds and ends at `next` exactly if the tokens between are a chain of
calls of `log` in front of a core, not too high and with a value.  The value is that of the core if
nothing is called and empty otherwise, and the log is the core's value if it is called on.  So a
phrase whose value is an integer holds numbers, known operators and parentheses only. -/
theorem evaluateAt_eq_ok_iff_grammar (tokens : List Token) (index next : Nat) (log : List String)
    (v : Value) :
    (evaluateAt tokens index = ⟨log, .ok (v, next)⟩ ↔
      ∃ (calls : List Token) (core : Core) (w : Value),
        next ≤ tokens.length ∧ tokens.extract index next = calls ++ core.tokens ∧ AllLog calls ∧
        calls.length + core.height ≤ maxNesting ∧ core.value = .ok w ∧
        v = (if calls.isEmpty then w else .empty) ∧
        log = if calls.isEmpty then [] else w.render?.toList) ∧
    (∀ n, evaluateAt tokens index = ⟨log, .ok (.integer n, next)⟩ →
      ∀ t ∈ tokens.extract index next, t.IsIntegral) := by
  refine ⟨⟨fun h => ?_, ?_⟩, fun n h t member => ?_⟩
  · obtain ⟨rest, read, rfl⟩ := evaluateAt_eq_ok.mp h
    obtain ⟨calls, core, w, logs, front, low, value⟩ :=
      exists_chain_of_read (congrArg Logged.result read)
    have nonempty : calls ++ core.tokens ≠ [] := by simp [core.tokens_ne_nil]
    have again := read_chain calls core rest logs low value
    rw [← front] at again
    obtain ⟨logged, result⟩ := Logged.mk.inj (read.symm.trans again)
    cases result
    exact ⟨calls, core, w, Nat.sub_le _ _, extract_of_drop_eq nonempty front, logs, low, value, rfl,
      logged⟩
  · rintro ⟨calls, core, w, inside, between, logs, low, value, rfl, rfl⟩
    have nonempty : calls ++ core.tokens ≠ [] := by simp [core.tokens_ne_nil]
    refine evaluateAt_eq_ok.mpr ⟨tokens.drop next, ?_, ?_⟩
    · rw [evaluate, drop_eq_of_extract nonempty between]
      exact read_chain calls core (tokens.drop next) logs low value
    · rw [List.length_drop]
      omega
  · obtain ⟨rest, read, rfl⟩ := evaluateAt_eq_ok.mp h
    obtain ⟨e, front⟩ := exists_expression_of_read (congrArg Logged.result read)
    have nonempty : e.tokens ≠ [] := (Core.integer e).tokens_ne_nil
    rw [extract_of_drop_eq nonempty front] at member
    exact e.isIntegral_of_mem member

/-- The expression `(3 + 4)`, on two lines. -/
def sampleBlock : Expression :=
  .block ⟨⟨.blockStart, "("⟩, 1⟩ rfl (.number ⟨⟨.number, "3"⟩, 1⟩ rfl)
    (.more ⟨⟨.arithmetic, "+"⟩, 1⟩ .add ⟨rfl, rfl⟩ (.number ⟨⟨.number, "4"⟩, 2⟩ rfl)
      (.close ⟨⟨.blockEnd, ")"⟩, 2⟩ rfl))

/-- The block is logged where `log` is called on it, and is an integer by itself. -/
theorem evaluateAt_sampleBlock :
    evaluateAt (⟨⟨.reference, "log"⟩, 1⟩ :: sampleBlock.tokens) 0 = ⟨["7"], .ok (.empty, 6)⟩ ∧
    evaluateAt sampleBlock.tokens 0 = ⟨[], .ok (.integer 7, 5)⟩ ∧
    ∀ t ∈ sampleBlock.tokens.extract 0 5, t.IsIntegral := by
  have called := (evaluateAt_eq_ok_iff_grammar (⟨⟨.reference, "log"⟩, 1⟩ :: sampleBlock.tokens) 0 6
    ["7"] .empty).1.mpr ⟨[⟨⟨.reference, "log"⟩, 1⟩], .integer sampleBlock, .integer 7, by decide,
      rfl, by simp [AllLog], by decide, rfl, rfl, by decide +kernel⟩
  have alone := (evaluateAt_eq_ok_iff_grammar sampleBlock.tokens 0 5 [] (.integer 7)).1.mpr
    ⟨[], .integer sampleBlock, .integer 7, by decide, rfl, by simp [AllLog], by decide, rfl, rfl,
      rfl⟩
  exact ⟨called, alone, (evaluateAt_eq_ok_iff_grammar sampleBlock.tokens 0 5 [] (.integer 7)).2 7
    alone⟩

end Abacus
