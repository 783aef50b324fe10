import Abacus.Arithmetic
import Abacus.Builtin
import Abacus.Role

/-! The evaluation of one phrase at the front of a list of tokens.  A phrase is a number, a text,
an idle token, a call (a name and a phrase), an operation (an operator and two phrases), or a
block (a first phrase and any number of operators, each with a phrase, in parentheses).  The
operators of a block are applied from left to right, without precedence.  Reading and evaluating
are one activity: a reader takes the tokens of one phrase off the front of a list and gives the
value of the phrase.  A phrase may stand inside at most `maxNesting - 1` others. -/

namespace Abacus

/-- The number of phrases that may stand inside one another. -/
def maxNesting : Nat := 256

/-- The evaluation of one phrase: the lines that it wrote, and its value with the tokens behind it,
or the cause of its failure. -/
abbrev Evaluation := Logged EvalError (Value × List Token)

/-- The integer that a numeral denotes, where it stands for a value. -/
def literal (numeral : String) (line : Nat) : Except EvalError Int64 :=
  match (Numeral.read? numeral.toList).bind narrow? with
  | some n => .ok n
  | none => .error (.badLiteral numeral line)

/-- A reader evaluates the phrase at the front of a list of tokens.  It takes at least one token. -/
structure Reader where
  read : List Token → Evaluation
  shorter : ∀ {tokens v rest}, (read tokens).result = .ok (v, rest) → rest.length < tokens.length

namespace Reader

/-- Reads a phrase whose value the operation at `line` needs to be an integer. -/
def integer (r : Reader) (operation : String) (line : Nat) (tokens : List Token) :
    Logged EvalError (Int64 × List Token) := do
  let (v, rest) ← r.read tokens
  let n ← v.expectInteger operation line
  return (n, rest)

theorem integer_eq_ok {r : Reader} {operation : String} {line : Nat} {tokens rest : List Token}
    {n : Int64} (h : (r.integer operation line tokens).result = .ok (n, rest)) :
    (r.read tokens).result = .ok (.integer n, rest) := by
  unfold integer at h
  obtain ⟨⟨v, behind⟩, read, h⟩ := Logged.result_bind_eq_ok_iff.mp h
  obtain ⟨m, checked, h⟩ := Logged.result_bind_eq_ok_iff.mp h
  cases h
  rw [← Value.expectInteger_eq_ok checked]
  exact read

theorem length_integer_lt {r : Reader} {operation : String} {line : Nat} {tokens rest : List Token}
    {n : Int64} (h : (r.integer operation line tokens).result = .ok (n, rest)) :
    rest.length < tokens.length :=
  r.shorter (integer_eq_ok h)

/-- Reads the rest of a block, behind its first phrase: applies each operator to `total` and the
phrase behind it, up to the closing token. -/
def fold (r : Reader) (total : Int64) (tokens : List Token) :
    Logged EvalError (Int64 × List Token) :=
  match tokens with
  | [] => .fail .ranOutOfCode
  | t :: behind =>
    match t.role with
    | .closing => return (total, behind)
    | .operator op => do
      let ⟨(n, rest), _h⟩ ← (r.integer op.symbol t.line behind).attach
      let total ← op.apply total n t.line
      r.fold total rest
    | _ => .fail .ranOutOfCode
termination_by tokens.length
decreasing_by
  have := length_integer_lt _h
  simp only [List.length_cons]
  omega

/-- Reads one phrase, with `r` for the phrases directly inside it. -/
def phrase (r : Reader) : List Token → Evaluation
  | [] => .fail .ranOutOfCode
  | t :: behind =>
    match t.role with
    | .call name =>
      match Builtin.find? name with
      | none => .fail (.unrecognizedReference name t.line)
      | some function => do
        let (argument, rest) ← r.read behind
        let v ← function.call argument
        return (v, rest)
    | .operator op => do
      let (left, rest) ← r.integer op.symbol t.line behind
      let (right, rest) ← r.integer op.symbol t.line rest
      let n ← op.apply left right t.line
      return (.integer n, rest)
    | .opening => do
      let (first, rest) ← r.integer "(" t.line behind
      let (total, rest) ← r.fold first rest
      return (.integer total, rest)
    | .text content => return (.text content, behind)
    | .number numeral => do
      let n ← literal numeral t.line
      return (.integer n, behind)
    | .closing | .idle => return (.empty, behind)

/-! ### The steps of a block -/

theorem fold_nil (r : Reader) (total : Int64) : r.fold total [] = .fail .ranOutOfCode := by
  rw [fold]

theorem fold_closing {r : Reader} {total : Int64} {t : Token} {behind : List Token}
    (h : t.role = .closing) : r.fold total (t :: behind) = pure (total, behind) := by
  rw [fold, h]

theorem fold_operator {r : Reader} {total : Int64} {t : Token} {behind : List Token} {op : Operator}
    (h : t.role = .operator op) :
    r.fold total (t :: behind) = (do
      let (n, rest) ← r.integer op.symbol t.line behind
      let total ← op.apply total n t.line
      r.fold total rest) := by
  rw [fold, h]
  exact Logged.attach_bind (r.integer op.symbol t.line behind) fun (n, rest) => do
    let total ← op.apply total n t.line
    r.fold total rest

theorem fold_other {r : Reader} {total : Int64} {t : Token} {behind : List Token}
    (closing : t.role ≠ .closing) (operator : ∀ op, t.role ≠ .operator op) :
    r.fold total (t :: behind) = .fail .ranOutOfCode := by
  rw [fold]
  split <;> simp_all

/-- Induction along the rest of a block: from what stands behind each operand to the operator in
front of it. -/
theorem block_induction {r : Reader} {P : List Token → Int64 → Prop}
    (nil : ∀ total, P [] total)
    (closing : ∀ t behind total, t.role = .closing → P (t :: behind) total)
    (operator : ∀ t behind total op, t.role = .operator op →
      (∀ n rest sum, (r.integer op.symbol t.line behind).result = .ok (n, rest) → P rest sum) →
      P (t :: behind) total)
    (other : ∀ t behind total, t.role ≠ .closing → (∀ op, t.role ≠ .operator op) →
      P (t :: behind) total) :
    ∀ tokens total, P tokens total
  | [], total => nil total
  | t :: behind, total => by
    by_cases closes : t.role = .closing
    · exact closing t behind total closes
    · by_cases operates : ∃ op, t.role = .operator op
      · obtain ⟨op, operates⟩ := operates
        refine operator t behind total op operates fun n rest sum read => ?_
        have shorter := length_integer_lt read
        exact block_induction nil closing operator other rest sum
      · exact other t behind total closes (by simpa using operates)
  termination_by tokens => tokens.length
  decreasing_by
    simp only [List.length_cons]
    omega

/-! ### The forms of a phrase -/

theorem phrase_call {r : Reader} {t : Token} {behind : List Token} {name : String}
    (h : t.role = .call name) :
    r.phrase (t :: behind) =
      match Builtin.find? name with
      | none => .fail (.unrecognizedReference name t.line)
      | some function => do
        let (argument, rest) ← r.read behind
        let v ← function.call argument
        return (v, rest) := by
  simp only [phrase, h]

theorem phrase_operator {r : Reader} {t : Token} {behind : List Token} {op : Operator}
    (h : t.role = .operator op) :
    r.phrase (t :: behind) = (do
      let (left, rest) ← r.integer op.symbol t.line behind
      let (right, rest) ← r.integer op.symbol t.line rest
      let n ← op.apply left right t.line
      return (.integer n, rest)) := by
  simp only [phrase, h]

theorem phrase_opening {r : Reader} {t : Token} {behind : List Token} (h : t.role = .opening) :
    r.phrase (t :: behind) = (do
      let (first, rest) ← r.integer "(" t.line behind
      let (total, rest) ← r.fold first rest
      return (.integer total, rest)) := by
  simp only [phrase, h]

theorem phrase_text {r : Reader} {t : Token} {behind : List Token} {content : String}
    (h : t.role = .text content) : r.phrase (t :: behind) = pure (.text content, behind) := by
  simp only [phrase, h]

theorem phrase_number {r : Reader} {t : Token} {behind : List Token} {numeral : String}
    (h : t.role = .number numeral) :
    r.phrase (t :: behind) = (do
      let n ← literal numeral t.line
      return (.integer n, behind)) := by
  simp only [phrase, h]

theorem phrase_idle {r : Reader} {t : Token} {behind : List Token}
    (h : t.role = .closing ∨ t.role = .idle) :
    r.phrase (t :: behind) = pure (.empty, behind) := by
  rcases h with h | h <;> simp only [phrase, h]

/-! ### Progress -/

theorem length_fold_lt (r : Reader) (tokens : List Token) {total n : Int64} {rest : List Token}
    (h : (r.fold total tokens).result = .ok (n, rest)) : rest.length < tokens.length := by
  induction tokens, total using block_induction (r := r) with
  | nil total =>
    rw [fold_nil] at h
    cases h
  | closing t behind total role =>
    rw [fold_closing role] at h
    cases h
    exact Nat.lt_succ_self _
  | operator t behind total op role ih =>
    rw [fold_operator role] at h
    obtain ⟨⟨m, middle⟩, read, h⟩ := Logged.result_bind_eq_ok_iff.mp h
    obtain ⟨sum, -, h⟩ := Logged.result_bind_eq_ok_iff.mp h
    have first := length_integer_lt read
    have last := ih m middle sum read h
    rw [List.length_cons]
    omega
  | other t behind total closes operates =>
    rw [fold_other closes operates] at h
    cases h

/-- A phrase takes at least one token. -/
theorem length_phrase_lt {r : Reader} {tokens rest : List Token} {v : Value}
    (h : (r.phrase tokens).result = .ok (v, rest)) : rest.length < tokens.length := by
  cases tokens with
  | nil => cases h
  | cons t behind =>
    rw [List.length_cons, Nat.lt_succ_iff]
    unfold phrase at h
    simp only at h
    split at h
    · split at h
      · cases h
      · obtain ⟨⟨argument, middle⟩, read, h⟩ := Logged.result_bind_eq_ok_iff.mp h
        obtain ⟨w, -, h⟩ := Logged.result_bind_eq_ok_iff.mp h
        cases h
        exact Nat.le_of_lt (r.shorter read)
    · obtain ⟨⟨left, middle⟩, first, h⟩ := Logged.result_bind_eq_ok_iff.mp h
      obtain ⟨⟨right, last⟩, second, h⟩ := Logged.result_bind_eq_ok_iff.mp h
      obtain ⟨n, -, h⟩ := Logged.result_bind_eq_ok_iff.mp h
      cases h
      exact Nat.le_of_lt (Nat.lt_trans (length_integer_lt second) (length_integer_lt first))
    · obtain ⟨⟨n, middle⟩, first, h⟩ := Logged.result_bind_eq_ok_iff.mp h
      obtain ⟨⟨total, last⟩, folded, h⟩ := Logged.result_bind_eq_ok_iff.mp h
      cases h
      exact Nat.le_of_lt (Nat.lt_trans (length_fold_lt r middle folded) (length_integer_lt first))
    · cases h
      exact Nat.le_refl _
    · obtain ⟨n, -, h⟩ := Logged.result_bind_eq_ok_iff.mp h
      cases h
      exact Nat.le_refl _
    · cases h
      exact Nat.le_refl _
    · cases h
      exact Nat.le_refl _

/-! ### The limit on nesting -/

/-- The reader that refuses every phrase as nested too deep. -/
def tooDeep : Reader where
  read
    | [] => .fail .ranOutOfCode
    | t :: _ => .fail (.nestingTooDeep t.line)
  shorter {tokens} _ _ h := by
    cases tokens <;> cases h

/-- The reader of phrases with `r` for the phrases directly inside them. -/
def around (r : Reader) : Reader := ⟨r.phrase, length_phrase_lt⟩

/-- The reader of phrases that stand at most `depth` deep inside one another. -/
def within : (depth : Nat) → Reader
  | 0 => tooDeep
  | depth + 1 => (within depth).around

end Reader

/-- Evaluates the phrase at the front of a list of tokens. -/
def evaluate (tokens : List Token) : Evaluation := (Reader.within maxNesting).read tokens

/-- Evaluates the phrase that starts at position `index` of a list of tokens, and gives its value
with the position behind it. -/
def evaluateAt (tokens : List Token) (index : Nat) : Logged EvalError (Value × Nat) := do
  let (v, rest) ← evaluate (tokens.drop index)
  return (v, tokens.length - rest.length)

/-- The evaluation of a phrase takes at least one token. -/
theorem length_evaluate_lt {tokens rest : List Token} {v : Value}
    (h : (evaluate tokens).result = .ok (v, rest)) : rest.length < tokens.length :=
  (Reader.within maxNesting).shorter h

end Abacus
