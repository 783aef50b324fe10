import Abacus.CommandLine
import Abacus.LineEditor
import Abacus.Session

/-! The program as a function.  From its arguments, its standard input and the files that it can
open, the program makes a report of what it writes and of its exit status.  How the standard input
is divided into the lines of a session is left to a line reader. -/

namespace Abacus

/-- What a program finds around it. -/
structure Environment where
  standardInput : Source
  /-- The source that a path leads to, or the reason why it cannot be opened. -/
  openPath : String → Except String Source

namespace Program

/-- The name and the version of the program. -/
def versionLine : String := "vislang 0.1.0"

/-- The lines that explain the command line. -/
def usage : List String :=
  ["Usage: vislang [OPTIONS] [COMMAND]",
   "",
   "Commands:",
   "  run [SCRIPT]     Run a script file, or standard input when omitted or `-`",
   "  eval <SOURCE>    Evaluate a snippet of vislang code",
   "  tokens [SCRIPT]  Print the tokens of a script without evaluating it",
   "  repl             Start an interactive REPL session",
   "  help             Print this message",
   "",
   "Options:",
   "      --no-trace  Do not trace each token to stderr while lexing",
   "  -h, --help      Print help",
   "  -V, --version   Print version"]

/-- The source of a script, or the error of opening it. -/
def sourceOf (env : Environment) : Origin → Except Error Source
  | .standardInput => .ok env.standardInput
  | .file path => (env.openPath path).mapError fun reason => .io (path ++ ": " ++ reason)

/-- The report of running a source.  Its value is not shown. -/
def runSource (config : Config) (source : Source) : Report :=
  let answer := config.interpret source
  match answer.result with
  | .ok _ => ⟨⟨[], answer.log⟩, 0⟩
  | .error e => (Report.failure e.message).after ⟨[], answer.log⟩

/-- The report of listing the tokens of a source: a line for each, or only the error. -/
def listTokens (source : Source) : Report :=
  let lexing := source.lex
  match lexing.result with
  | .ok _ => ⟨⟨lexing.trace, []⟩, 0⟩
  | .error failure => .failure (Error.lex failure).message

/-- Goes on with the source of a script, or reports that it cannot be opened. -/
def withSource (env : Environment) (origin : Origin) (use : Source → Report) : Report :=
  match sourceOf env origin with
  | .ok source => use source
  | .error e => .failure e.message

/-- The report of a command.  The lines of a session come from the line reader. -/
def perform (reader : LineReader) (env : Environment) (config : Config) : Command → Report
  | .run origin => withSource env origin (runSource config)
  | .evaluate text => runSource config (.ofText text)
  | .tokens origin => withSource env origin listTokens
  | .session => Session.run reader config env.standardInput

/-- The report of an invocation. -/
def execute (reader : LineReader) (env : Environment) : Invocation → Report
  | .execute command config => perform reader env config command
  | .help => ⟨⟨usage, []⟩, 0⟩
  | .version => ⟨⟨[versionLine], []⟩, 0⟩
  | .misuse => ⟨⟨[], usage⟩, misuseStatus⟩

/-- The report of the program on its arguments, with a line editor. -/
def report (env : Environment) (args : List String) : Report :=
  execute LineEditor.reader env (CommandLine.read args)

end Program

end Abacus
