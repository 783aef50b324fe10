import Abacus.Token

/-! Operator spellings.  An operator is one or two characters.  Each character that can start an
operator has a pairing: the characters that may follow it in a spelling of two, and the kind of the
operator that it makes alone. -/

namespace Abacus

/-- What the first character of an operator can become. -/
structure Pairing where
  /-- The second characters, each with the kind of the operator of two characters. -/
  seconds : List (Char × Kind)
  /-- The kind of the operator of one character. -/
  alone : Kind
  deriving Repr, DecidableEq

/-- The kind of the operator that ends in the second character `c`, if there is one. -/
def Pairing.kind? (p : Pairing) (c : Char) : Option Kind := p.seconds.lookup c

/-- The pairing of a character that starts operators. -/
def pairing? : Char → Option Pairing
  | '<' => some ⟨[('=', .comparator)], .comparator⟩
  | '>' => some ⟨[('=', .comparator)], .comparator⟩
  | '=' => some ⟨[('=', .comparator)], .assignment⟩
  | '!' => some ⟨[('=', .comparator)], .logical⟩
  | '&' => some ⟨[('&', .logical)], .bitwise⟩
  | '|' => some ⟨[('|', .logical)], .bitwise⟩
  | '^' => some ⟨[('^', .logical)], .bitwise⟩
  | '+' => some ⟨[('+', .assignment), ('=', .assignment)], .arithmetic⟩
  | '-' => some ⟨[('-', .assignment), ('=', .assignment)], .arithmetic⟩
  | '*' => some ⟨[('*', .arithmetic), ('=', .assignment)], .arithmetic⟩
  | '/' => some ⟨[('=', .assignment)], .arithmetic⟩
  | '%' => some ⟨[('=', .assignment)], .arithmetic⟩
  | _ => none

end Abacus
