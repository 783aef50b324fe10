import Abacus.Logged
import Abacus.Value

/-! The built-in functions, which take one value each. -/

namespace Abacus

/-- A function that a script can call by its name. -/
inductive Builtin where
  /-- Writes its argument to the log. -/
  | log
  deriving Repr, DecidableEq

namespace Builtin

/-- The name that calls the function. -/
def name : Builtin → String
  | .log => "log"

/-- The built-in functions, in the order of their listing. -/
def all : List Builtin := [.log]

/-- The function with the given name, if there is one. -/
def find? (name : String) : Option Builtin := all.find? (·.name = name)

/-- The call of the function.  Writing to the log gives the empty value, and writes nothing for an
empty argument. -/
def call {ε : Type} : Builtin → Value → Logged ε Value
  | .log, argument => do
    Logged.write argument.render?.toList
    return .empty

theorem find?_eq_some_iff {name : String} {b : Builtin} : find? name = some b ↔ name = b.name := by
  cases b
  by_cases h : name = "log" <;> simp [find?, all, Builtin.name, h, eq_comm]

end Builtin

end Abacus
