import Abacus.Error
import Abacus.Script
import Abacus.Source

/-! The interpreter.  It answers requests one after another and sends the lines of each answer to
its sink: first the trace of the tokens, if it is on, then the lines that the script logs.  The
sink is all that one answer leaves behind for the next. -/

namespace Abacus

/-- How an interpreter works. -/
structure Config where
  /-- Every token is shown as it is read. -/
  traceTokens : Bool := true
  deriving Repr, DecidableEq

/-- Where the lines of an interpreter go. -/
inductive Sink where
  /-- The lines are kept, the oldest first. -/
  | collected (lines : List String)
  /-- The lines are not kept. -/
  | discarded
  deriving Repr, DecidableEq

/-- The lines that the sink holds. -/
def Sink.lines : Sink → List String
  | .collected lines => lines
  | .discarded => []

/-- The sink after more lines. -/
def Sink.add (lines : List String) : Sink → Sink
  | .collected earlier => .collected (earlier ++ lines)
  | .discarded => .discarded

@[simp] theorem Sink.lines_add_collected (earlier lines : List String) :
    ((Sink.collected earlier).add lines).lines = earlier ++ lines := rfl

@[simp] theorem Sink.lines_add_discarded (lines : List String) :
    (Sink.discarded.add lines).lines = [] := rfl

namespace Config

/-- The lines that show the tokens of a lexing, if the trace is on. -/
def traceOf (config : Config) (l : Lexing) : List String :=
  if config.traceTokens then l.trace else []

/-- The tokens of a source. -/
def tokenize (config : Config) (source : Source) : Logged LexFailure Lexed :=
  let lexing := source.lex
  ⟨config.traceOf lexing, lexing.result⟩

/-- The value of a source.  A source is read to its end before any of it is evaluated. -/
def interpret (config : Config) (source : Source) : Logged Error Value := do
  let lexed ← (config.tokenize source).mapError Error.lex
  (run lexed.tokens).mapError Error.runtime

end Config

/-- What an interpreter is asked for. -/
inductive Request where
  /-- The value of a text. -/
  | evaluate (text : String)
  /-- The value of a source. -/
  | read (source : Source)
  /-- The tokens of a source. -/
  | tokenize (source : Source)

/-- What an interpreter answers. -/
inductive Reply where
  | value (result : Except Error Value)
  | tokens (result : Except LexFailure Lexed)

/-- The lines that a request makes an interpreter send, and the reply to it. -/
def Request.answer (config : Config) : Request → List String × Reply
  | .evaluate text =>
    let answer := config.interpret (.ofText text)
    (answer.log, .value answer.result)
  | .read source =>
    let answer := config.interpret source
    (answer.log, .value answer.result)
  | .tokenize source =>
    let answer := config.tokenize source
    (answer.log, .tokens answer.result)

/-- An interpreter with its sink. -/
structure Interpreter where
  config : Config := {}
  sink : Sink := .collected []
  deriving Repr, DecidableEq

namespace Interpreter

/-- The reply to one request, and the interpreter after it. -/
def step (i : Interpreter) (request : Request) : Reply × Interpreter :=
  let (lines, reply) := request.answer i.config
  (reply, { i with sink := i.sink.add lines })

/-- The lines that the sink has gained since `earlier`. -/
def linesSince (i earlier : Interpreter) : List String :=
  i.sink.lines.drop earlier.sink.lines.length

/-- The replies to a list of requests, each with the lines that it added to the sink, and the
interpreter after them. -/
def steps (i : Interpreter) : List Request → List (Reply × List String) × Interpreter
  | [] => ([], i)
  | request :: requests =>
    let (reply, after) := i.step request
    let (replies, last) := after.steps requests
    ((reply, after.linesSince i) :: replies, last)

end Interpreter

end Abacus
