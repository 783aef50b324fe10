import Abacus.Operator
import Abacus.Token

/-! The part that a token plays in a phrase.  Evaluation looks at a token only through its role, and
reports its line. -/

namespace Abacus

/-- The part of a token in a phrase. -/
inductive Role where
  /-- Calls the function of that name with the phrase behind it. -/
  | call (name : String)
  /-- Applies the operator. -/
  | operator (op : Operator)
  /-- Opens a block. -/
  | opening
  /-- Closes a block, or is an empty phrase where no block is open. -/
  | closing
  /-- Is the text. -/
  | text (content : String)
  /-- Is the number that the numeral denotes. -/
  | number (numeral : String)
  /-- Is an empty phrase. -/
  | idle
  deriving Repr, DecidableEq

/-- The role of a lexeme.  An arithmetic operator of unknown spelling is idle. -/
def Lexeme.role (l : Lexeme) : Role :=
  match l.kind with
  | .reference => .call l.text
  | .arithmetic =>
    match Operator.ofSymbol? l.text with
    | some op => .operator op
    | none => .idle
  | .blockStart => .opening
  | .blockEnd => .closing
  | .string => .text l.text
  | .number => .number l.text
  | .comparator | .assignment | .logical | .bitwise | .instructionEnd => .idle

end Abacus
