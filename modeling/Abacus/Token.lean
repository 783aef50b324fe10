/-! Tokens of the language.  A lexeme is a kind with a text, and a token is a lexeme with the line
that it starts on.  The text of a string is what stands between its quotes; the text of every other
token is its spelling. -/

namespace Abacus

/-- The lexical class of a token. -/
inductive Kind where
  /-- Text between two quotes. -/
  | string
  /-- A run of digits. -/
  | number
  /-- An operator that compares. -/
  | comparator
  /-- An operator that assigns. -/
  | assignment
  /-- An operator on truth values. -/
  | logical
  /-- An operator on bits. -/
  | bitwise
  /-- An operator on integers. -/
  | arithmetic
  /-- A name. -/
  | reference
  /-- The end of an instruction: a newline or a semicolon. -/
  | instructionEnd
  /-- An opening parenthesis. -/
  | blockStart
  /-- A closing parenthesis. -/
  | blockEnd
  deriving Repr, DecidableEq

/-- The name of the class in a trace. -/
def Kind.label : Kind → String
  | .string => "StringLit"
  | .number => "NumberLit"
  | .comparator => "Comparator"
  | .assignment => "AssignmentOperator"
  | .logical => "LogicalOperator"
  | .bitwise => "BitwiseOperator"
  | .arithmetic => "ArithmeticOperator"
  | .reference => "Reference"
  | .instructionEnd => "InstructionEnd"
  | .blockStart => "BlockStart"
  | .blockEnd => "BlockEnd"

/-- A kind and a text: a token without its place. -/
structure Lexeme where
  kind : Kind
  text : String
  deriving Repr, DecidableEq

/-- A lexeme and the line that it starts on, counted from one. -/
structure Token extends Lexeme where
  line : Nat
  deriving Repr, DecidableEq

/-- The text on one line: every newline is written as a backslash and the letter `n`. -/
def onOneLine (text : String) : String :=
  String.ofList (text.toList.flatMap fun c => if c = '\n' then ['\\', 'n'] else [c])

/-- The line that a trace shows for a token. -/
def Token.trace (t : Token) : String := t.kind.label ++ ": " ++ onOneLine t.text

end Abacus
