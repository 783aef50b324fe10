import Abacus.Interpreter
import Abacus.LineReader
import Abacus.Report
import Abacus.Unicode.WhiteSpace

/-! Line-by-line sessions.  A session takes what a line reader delivers, one entry after another,
and answers each line before it takes the next.  One interpreter is kept for the whole session.  A
line that fails is reported, and the session goes on. -/

namespace Abacus.Session

open LineReader (Entry)

/-- What an entry brings about. -/
inductive Turn where
  /-- The session ends with this report. -/
  | stop (last : Report)
  /-- The session goes on after this output, with this interpreter. -/
  | goOn (output : Output) (next : Interpreter)
  deriving Repr, DecidableEq

/-- What is shown of a reply: a value that is not empty on the standard output, and the report of an
error on the standard error.  The tokens of a source are never asked for. -/
def shown : Reply → Output
  | .value (.ok v) => ⟨v.render?.toList, []⟩
  | .value (.error e) => ⟨[], [e.message]⟩
  | .tokens _ => {}

/-- The turn of a text of the language.  What it adds to the sink goes to the standard error, before
what is shown of the reply. -/
def respond (i : Interpreter) (text : String) : Turn :=
  let (reply, next) := i.step (.evaluate text)
  .goOn (⟨[], next.linesSince i⟩ ++ shown reply) next

/-- The turn of a line.  White space around a line means nothing, and a blank line has no answer.
Besides texts of the language there are three commands: two that end the session, and one that lists
the built-in functions. -/
def turnOfLine (i : Interpreter) (line : String) : Turn :=
  let text := Unicode.trim line
  if text = ":quit" ∨ text = ":exit" then .stop {}
  else if text = "" then .goOn {} i
  else if text = ":builtins" then .goOn ⟨Builtin.all.map Builtin.name, []⟩ i
  else respond i text

/-- The turn of an entry. -/
def turn (i : Interpreter) : Entry → Turn
  | .line text => turnOfLine i text
  | .interrupted => .stop {}
  | .failed reason => .stop (.failure (Error.io reason).message)

/-- The report of a session that takes the entries and then comes to the end of its input. -/
def ofEntries (i : Interpreter) : List Entry → Report
  | [] => {}
  | entry :: entries =>
    match turn i entry with
    | .stop last => last
    | .goOn output next => (ofEntries next entries).after output

/-- The report of a session on a source. -/
def run (reader : LineReader) (config : Config) (source : Source) : Report :=
  ofEntries { config } (reader source)

end Abacus.Session
