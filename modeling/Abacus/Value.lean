import Abacus.Numeral

/-! The values of the language: 64-bit integers, texts, and the empty value of an instruction that
has nothing to give. -/

namespace Abacus

/-- What a phrase evaluates to. -/
inductive Value where
  | integer (n : Int64)
  | text (content : String)
  | empty
  deriving Repr, DecidableEq

/-- The type of a value. -/
inductive Value.Kind where
  | integer
  | text
  | empty
  deriving Repr, DecidableEq

namespace Value

/-- The name of a type in a message. -/
def Kind.label : Kind → String
  | .integer => "Integer"
  | .text => "Text"
  | .empty => "Empty"

/-- The type of the value. -/
def kind : Value → Kind
  | .integer _ => .integer
  | .text _ => .text
  | .empty => .empty

/-- The value is empty. -/
def isEmpty (v : Value) : Bool := v = .empty

/-- The integer that the value is, if it is one. -/
def toInteger? : Value → Option Int64
  | .integer n => some n
  | _ => none

/-- The value as text: the numeral of an integer, a text itself, and nothing for the empty value. -/
def display : Value → String
  | .integer n => Numeral.render n.toInt
  | .text content => content
  | .empty => ""

/-- The line that shows the value.  The empty value has no line, but an empty text has one. -/
def render? (v : Value) : Option String := if v.isEmpty then none else some v.display

/-- The value `v`, or `w` if `v` is empty. -/
def or (v w : Value) : Value := if v.isEmpty then w else v

@[simp] theorem isEmpty_empty : Value.empty.isEmpty = true := rfl

@[simp] theorem isEmpty_integer (n : Int64) : (Value.integer n).isEmpty = false := rfl

@[simp] theorem isEmpty_text (content : String) : (Value.text content).isEmpty = false := rfl

@[simp] theorem empty_or (w : Value) : Value.empty.or w = w := rfl

@[simp] theorem or_empty (v : Value) : v.or .empty = v := by
  cases v <;> rfl

theorem or_assoc (u v w : Value) : (u.or v).or w = u.or (v.or w) := by
  cases u <;> rfl

end Value

end Abacus
