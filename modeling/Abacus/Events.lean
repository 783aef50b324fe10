import Abacus.Phrase

/-! The course of an evaluation without a limit on nesting.  Two kinds of events make it up: a
phrase starts, inside certain others, or a line is written.  A phrase starts even where no token is
left for it.  `watch` evaluates a phrase by the rules of `Reader.phrase` and keeps the events in
their order; it is its own reader of the phrases inside, and passes on the tokens that open the
phrases around. -/

namespace Abacus

/-- What happens in the course of an evaluation. -/
inductive Event where
  /-- A phrase starts in front of `tokens`, inside the phrases that the tokens `around` open, the
  innermost first. -/
  | start (around tokens : List Token)
  | line (text : String)
  deriving Repr, DecidableEq

/-- The events of a computation, and its result. -/
structure Traced (α : Type) where
  events : List Event
  result : Except EvalError α

namespace Traced

variable {α β : Type}

protected def bind (x : Traced α) (f : α → Traced β) : Traced β :=
  match x.result with
  | .ok a =>
    let y := f a
    ⟨x.events ++ y.events, y.result⟩
  | .error e => ⟨x.events, .error e⟩

instance : Monad Traced where
  pure a := ⟨[], .ok a⟩
  bind := Traced.bind

/-- The lines that a computation writes are its events. -/
instance : MonadLift (Logged EvalError) Traced where
  monadLift x := ⟨x.log.map .line, x.result⟩

def emit (e : Event) : Traced Unit := ⟨[e], .ok ()⟩

def fail (e : EvalError) : Traced α := ⟨[], .error e⟩

end Traced

/-- The lists of tokens that are shorter than `tokens`. -/
abbrev Shorter (tokens : List Token) : Type := { rest : List Token // rest.length < tokens.length }

def Shorter.cons {t : Token} {behind : List Token} (rest : Shorter behind) :
    Shorter (t :: behind) :=
  ⟨rest.val, Nat.lt_succ_of_lt rest.property⟩

def Shorter.of {t : Token} {behind : List Token} (middle : Shorter behind)
    (rest : Shorter middle.val) : Shorter (t :: behind) :=
  ⟨rest.val, Nat.lt_succ_of_lt (Nat.lt_trans rest.property middle.property)⟩

def Shorter.tail (t : Token) (behind : List Token) : Shorter (t :: behind) :=
  ⟨behind, Nat.lt_succ_self _⟩

mutual

/-- Evaluates the phrase at the front of `tokens`, inside the phrases that the tokens `around`
open. -/
def watch (around tokens : List Token) : Traced (Value × Shorter tokens) :=
  Traced.emit (.start around tokens) >>= fun _ =>
  match tokens with
  | [] => .fail .ranOutOfCode
  | t :: behind =>
    match t.role with
    | .call name =>
      match Builtin.find? name with
      | none => .fail (.unrecognizedReference name t.line)
      | some function => do
        let (argument, rest) ← watch (t :: around) behind
        let v ← (function.call argument : Logged EvalError Value)
        return (v, rest.cons)
    | .operator op => do
      let (v, middle) ← watch (t :: around) behind
      let left ← v.expectInteger op.symbol t.line
      let (v, rest) ← watch (t :: around) middle.val
      let right ← v.expectInteger op.symbol t.line
      let n ← op.apply left right t.line
      return (.integer n, middle.of rest)
    | .opening => do
      let (v, middle) ← watch (t :: around) behind
      let first ← v.expectInteger "(" t.line
      let (total, rest) ← watchFold (t :: around) first middle.val
      return (.integer total, middle.of rest)
    | .text content => return (.text content, .tail t behind)
    | .number numeral => do
      let n ← literal numeral t.line
      return (.integer n, .tail t behind)
    | .closing | .idle => return (.empty, .tail t behind)
termination_by tokens.length
decreasing_by
  · simp
  · simp
  · have := middle.property
    simp only [List.length_cons]
    omega
  · simp
  · have := middle.property
    simp only [List.length_cons]
    omega

/-- Evaluates the rest of a block, behind its first phrase. -/
def watchFold (around : List Token) (total : Int64) (tokens : List Token) :
    Traced (Int64 × Shorter tokens) :=
  match tokens with
  | [] => .fail .ranOutOfCode
  | t :: behind =>
    match t.role with
    | .closing => return (total, .tail t behind)
    | .operator op => do
      let (v, middle) ← watch around behind
      let n ← v.expectInteger op.symbol t.line
      let total ← op.apply total n t.line
      let (total, rest) ← watchFold around total middle.val
      return (total, middle.of rest)
    | _ => .fail .ranOutOfCode
termination_by tokens.length
decreasing_by
  · simp
  · have := middle.property
    simp only [List.length_cons]
    omega

end

end Abacus
