import Abacus.Script

/-! The evaluation of tokens by position.  The tokens lie in memory, a position is a word, and a
phrase has a value and the position behind it.  Lines go to a sink, which a walk hands on.  Nothing
promises beforehand that a walk ends or stays among the tokens: a walk without an end has no outcome
at all, and it is a fault, apart from every cause of failure, to look at a token where none is or to
step past the end of the tokens.  `Abacus.Proofs.Positions` shows that neither happens. -/

namespace Abacus

/-- Tokens in memory: their number is a word. -/
structure Tape where
  tokens : List Token
  fits : tokens.length < UInt64.size

/-- What a walk must not do. -/
inductive Fault where
  /-- Looking at the token at `index`, where none is. -/
  | noToken (index : UInt64)
  /-- Stepping to the position behind `index`, which is past the end of the tokens. -/
  | pastEnd (index : UInt64)
  deriving Repr, DecidableEq

/-- Why a walk stops without a value. -/
inductive Stop where
  | cause (e : EvalError)
  | fault (f : Fault)
  deriving Repr, DecidableEq

/-- A computation on the lines of a sink: its value or the reason why it stopped, and the lines
after it.  It has no outcome if it never ends. -/
abbrev Walk (α : Type) : Type := ExceptT Stop (StateT (List String) Option) α

namespace Walk

variable {α β : Type}

/-- The walk that does what a logged computation does. -/
def ofLogged (x : Logged EvalError α) : Walk α := fun sink =>
  some (x.result.mapError .cause, sink ++ x.log)

instance : MonadLift (Logged EvalError) Walk where
  monadLift := ofLogged

def fail (e : EvalError) : Walk α := throw (.cause e)

/-- Whatever the sink holds, the walk comes to an end, and not by a fault. -/
def Ends (x : Walk α) : Prop :=
  ∀ sink, ∃ result lines, x sink = some (result, lines) ∧ ∀ f, result ≠ .error (.fault f)

theorem ofLogged_ends (x : Logged EvalError α) : (ofLogged x).Ends := by
  intro sink
  refine ⟨_, _, rfl, fun f => ?_⟩
  cases x.result <;> exact fun same => nomatch same

theorem result_of_ofLogged {x : Logged EvalError α} {sink lines : List String} {a : α}
    (h : ofLogged x sink = some (.ok a, lines)) : x.result = .ok a := by
  obtain ⟨log, result⟩ := x
  cases result with
  | error e => cases h
  | ok b => cases h; rfl

theorem ofLogged_pure (a : α) : ofLogged (pure a) = pure a := by
  funext sink
  change some (Except.ok a, sink ++ []) = some (Except.ok a, sink)
  rw [List.append_nil]

theorem ofLogged_fail (e : EvalError) : ofLogged (.fail e : Logged EvalError α) = fail e := by
  funext sink
  change some (Except.error (Stop.cause e), sink ++ []) = some (Except.error (.cause e), sink)
  rw [List.append_nil]

end Walk

namespace Tape

/-- The token at a position, where it need not be. -/
def tokenAt (tape : Tape) (index : UInt64) : Walk Token :=
  match tape.tokens[index.toNat]? with
  | some t => pure t
  | none => .fail .ranOutOfCode

/-- The token at a position, where it must be. -/
def get (tape : Tape) (index : UInt64) : Walk Token :=
  match tape.tokens[index.toNat]? with
  | some t => pure t
  | none => throw (.fault (.noToken index))

/-- The position behind `index`, which must not be past the end of the tokens. -/
def advance (tape : Tape) (index : UInt64) : Walk UInt64 :=
  if index.toNat < tape.tokens.length then pure (index + 1) else throw (.fault (.pastEnd index))

mutual

/-- Evaluates the phrase at `index`, inside `depth` others. -/
def walk (tape : Tape) (index : UInt64) (depth : Nat) : Walk (Value × UInt64) := do
  let t ← tape.tokenAt index
  if maxNesting ≤ depth then
    .fail (.nestingTooDeep t.line)
  else
    match t.role with
    | .call _ => tape |>.walkCall index depth
    | .operator op => tape |>.walkOperation index op depth
    | .opening => tape |>.walkBlock index depth
    | .text content => return (.text content, ← tape.advance index)
    | .number numeral =>
      let n ← literal numeral t.line
      return (.integer n, ← tape.advance index)
    | .closing | .idle => return (.empty, ← tape.advance index)
partial_fixpoint

/-- Evaluates a call, whose name is at `index`. -/
def walkCall (tape : Tape) (index : UInt64) (depth : Nat) : Walk (Value × UInt64) := do
  let t ← tape.get index
  match Builtin.find? t.text with
  | none => .fail (.unrecognizedReference t.text t.line)
  | some function =>
    let (argument, next) ← tape |>.walk (← tape.advance index) (depth + 1)
    let v ← (function.call argument : Logged EvalError Value)
    return (v, next)
partial_fixpoint

/-- Evaluates an operation, whose operator is at `index`. -/
def walkOperation (tape : Tape) (index : UInt64) (op : Operator) (depth : Nat) :
    Walk (Value × UInt64) := do
  let t ← tape.get index
  let (v, next) ← tape |>.walk (← tape.advance index) (depth + 1)
  let left ← v.expectInteger op.symbol t.line
  let (v, next) ← tape |>.walk next (depth + 1)
  let right ← v.expectInteger op.symbol t.line
  let n ← op.apply left right t.line
  return (.integer n, next)
partial_fixpoint

/-- Evaluates a block, which opens at `index`. -/
def walkBlock (tape : Tape) (index : UInt64) (depth : Nat) : Walk (Value × UInt64) := do
  let (v, next) ← tape |>.walk (← tape.advance index) (depth + 1)
  let t ← tape.get index
  let first ← v.expectInteger "(" t.line
  tape |>.walkFold first next depth
partial_fixpoint

/-- Evaluates the rest of a block from `next` on, where its phrases so far have come to `total`. -/
def walkFold (tape : Tape) (total : Int64) (next : UInt64) (depth : Nat) :
    Walk (Value × UInt64) := do
  let t ← tape.tokenAt next
  match t.role with
  | .closing => return (.integer total, ← tape.advance next)
  | .operator op =>
    let (v, next) ← tape |>.walk (← tape.advance next) (depth + 1)
    let n ← v.expectInteger op.symbol t.line
    let total ← op.apply total n t.line
    tape |>.walkFold total next depth
  | _ => .fail .ranOutOfCode
partial_fixpoint

end

/-- Evaluates phrase after phrase from `index` on, where `last` is the last value so far that is not
empty, and gives the last such value with the position at which no token was left. -/
def walkScript (tape : Tape) (last : Value) (index : UInt64) : Walk (Value × UInt64) := do
  if index.toNat < tape.tokens.length then
    let (v, next) ← tape.walk index 0
    tape |>.walkScript (v.or last) next
  else
    return (last, index)
partial_fixpoint

end Tape

end Abacus
