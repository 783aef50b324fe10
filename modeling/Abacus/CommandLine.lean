import Abacus.Interpreter
import Abacus.Text.Split

/-! The command line.  The arguments are options, the name of a command, and the value that the
command takes; the command comes before its value, and options may stand on both sides of it.  The
arguments are read from left to right, and the first that is wrong, or that asks for help or for the
version, decides. -/

namespace Abacus

/-- Where a script comes from. -/
inductive Origin where
  | standardInput
  | file (path : String)
  deriving Repr, DecidableEq

/-- What the program is to do. -/
inductive Command where
  /-- Runs a script. -/
  | run (origin : Origin)
  /-- Evaluates a text. -/
  | evaluate (text : String)
  /-- Lists the tokens of a script. -/
  | tokens (origin : Origin)
  /-- Holds a session. -/
  | session
  deriving Repr, DecidableEq

/-- The meaning of a command line. -/
inductive Invocation where
  | execute (command : Command) (config : Config)
  | help
  | version
  /-- The arguments have no meaning. -/
  | misuse
  deriving Repr, DecidableEq

/-- The origin that a script argument names.  A single hyphen, with no more than slashes and dots
behind it, names the standard input. -/
def Origin.ofArgument (path : String) : Origin :=
  match Text.splitAt '/' path.toList with
  | ['-'] :: behind => if behind.all (· ∈ [[], ['.']]) then .standardInput else .file path
  | _ => .file path

/-- The origin of the script that an invocation reads, if it reads one. -/
def Invocation.origin? : Invocation → Option Origin
  | .execute (.run origin) _ => some origin
  | .execute (.tokens origin) _ => some origin
  | _ => none

namespace CommandLine

/-- The name of a command. -/
inductive Verb where
  | run
  | eval
  | tokens
  | repl
  deriving Repr, DecidableEq

/-- The command that an argument names. -/
def Verb.ofName? : String → Option Verb
  | "run" => some .run
  | "eval" => some .eval
  | "tokens" => some .tokens
  | "repl" => some .repl
  | _ => none

/-- The command can take the value. -/
def Verb.accepts : Verb → String → Bool
  | .run, value => value ≠ ""
  | .eval, _ => true
  | .tokens, value => value ≠ ""
  | .repl, _ => false

/-- The command with its value, if it does not lack one. -/
def Verb.command? : Verb → Option String → Option Command
  | .run, none => some (.run .standardInput)
  | .run, some path => some (.run (.ofArgument path))
  | .eval, none => none
  | .eval, some text => some (.evaluate text)
  | .tokens, none => some (.tokens .standardInput)
  | .tokens, some path => some (.tokens (.ofArgument path))
  | .repl, _ => some .session

/-- The option that turns the trace off. -/
def noTrace : String := "--no-trace"

/-- The argument asks for help.  Letters behind a short option are not reached. -/
def asksHelp (arg : String) : Bool := arg = "--help" || "-h".toList.isPrefixOf arg.toList

/-- The argument asks for the version. -/
def asksVersion (arg : String) : Bool := arg = "--version" || "-V".toList.isPrefixOf arg.toList

/-- The argument is written as an option: it starts with a hyphen, and is more than that. -/
def isOption (arg : String) : Bool := arg ≠ "-" && "-".toList.isPrefixOf arg.toList

/-- What has been read behind the name of a command. -/
structure Progress where
  verb : Verb
  /-- The trace was turned off in front of the command. -/
  quietBefore : Bool
  /-- The trace was turned off behind the command. -/
  quiet : Bool := false
  value : Option String := none

/-- The meaning of a command line that ends here. -/
def Progress.finish (p : Progress) : Invocation :=
  match p.verb.command? p.value with
  | some command => .execute command ⟨!(p.quietBefore || p.quiet)⟩
  | none => .misuse

/-- The progress after a value, unless the command takes no such value or no more values. -/
def Progress.take? (p : Progress) (value : String) : Option Progress :=
  if p.value.isNone && p.verb.accepts value then some { p with value := some value } else none

/-- Reads the arguments behind a double hyphen, which are all values. -/
def readValues (p : Progress) : List String → Invocation
  | [] => p.finish
  | arg :: args =>
    match p.take? arg with
    | some after => readValues after args
    | none => .misuse

/-- Reads the arguments behind the name of a command. -/
def readCommand (p : Progress) : List String → Invocation
  | [] => p.finish
  | arg :: args =>
    if arg = noTrace then if p.quiet then .misuse else readCommand { p with quiet := true } args
    else if asksHelp arg then .help
    else if arg = "--" then readValues p args
    else if isOption arg then .misuse
    else
      match p.take? arg with
      | some after => readCommand after args
      | none => .misuse

/-- Reads the arguments behind `help`, which may name one command. -/
def readHelp : List String → Invocation
  | [] => .help
  | [name] => if name = "help" ∨ (Verb.ofName? name).isSome then .help else .misuse
  | _ => .misuse

/-- The meaning of a command line without a command: to run the script on the standard input. -/
def withoutCommand (quiet : Bool) : Invocation := .execute (.run .standardInput) ⟨!quiet⟩

/-- Reads the arguments; `quiet` tells whether the trace has been turned off. -/
def readFrom (quiet : Bool) : List String → Invocation
  | [] => withoutCommand quiet
  | arg :: args =>
    if arg = noTrace then if quiet then .misuse else readFrom true args
    else if asksHelp arg then .help
    else if asksVersion arg then .version
    else if arg = "--" then if args.isEmpty then withoutCommand quiet else .misuse
    else if arg = "help" then readHelp args
    else
      match Verb.ofName? arg with
      | some verb => readCommand ⟨verb, quiet, false, none⟩ args
      | none => .misuse

/-- The meaning of the arguments. -/
def read (args : List String) : Invocation := readFrom false args

end CommandLine

end Abacus
