import Abacus.Folder
import Abacus.Program

/-! The program on a real system.  It reads what its arguments name, leaves the work to
`Program.execute`, and writes the report.  A session is held line by line, so that each line is
answered before the next is read. -/

namespace Abacus.Main

/-- The reason that the system gives for a failure, with its number. -/
def reasonOf : IO.Error → String
  | .alreadyExists _ code details => numbered code details
  | .otherError code details => numbered code details
  | .resourceBusy code details => numbered code details
  | .resourceVanished code details => numbered code details
  | .unsupportedOperation code details => numbered code details
  | .hardwareFault code details => numbered code details
  | .unsatisfiedConstraints code details => numbered code details
  | .illegalOperation code details => numbered code details
  | .protocolError code details => numbered code details
  | .timeExpired code details => numbered code details
  | .interrupted _ code details => numbered code details
  | .noFileOrDirectory _ code details => numbered code details
  | .invalidArgument _ code details => numbered code details
  | .permissionDenied _ code details => numbered code details
  | .resourceExhausted _ code details => numbered code details
  | .inappropriateType _ code details => numbered code details
  | .noSuchThing _ code details => numbered code details
  | .unexpectedEof => "unexpected end of file"
  | .userError message => message
where
  /-- A reason and its number. -/
  numbered (code : UInt32) (details : String) : String :=
    details ++ " (os error " ++ Numeral.render code.toNat ++ ")"

/-- Reads a stream to its end. -/
partial def readAll (stream : IO.FS.Stream) (before : ByteArray) : IO ByteArray := do
  let bytes ← stream.read 65536
  if bytes.isEmpty then return before else readAll stream (before ++ bytes)

/-- Reads a line that goes on with the given bytes, the last first, or nothing at the end of the
stream. -/
partial def readLine (stream : IO.FS.Stream) (line : List UInt8) :
    IO (Option LineReader.Entry) := do
  let bytes ← stream.read 1
  match bytes.data.toList with
  | [] => return if line.isEmpty then none else some (LineReader.entry line.reverse)
  | 10 :: _ => return some (LineReader.entry (LineReader.dropReturn line).reverse)
  | byte :: _ => readLine stream (byte :: line)

/-- Reads an entry, as a line editor delivers it. -/
def readEntry (stream : IO.FS.Stream) : IO (Option LineReader.Entry) := do
  try return (← readLine stream []).map LineEditor.edit
  catch e => return some (.failed (reasonOf e))

/-- The source of all that a stream delivers. -/
def sourceOfStream (stream : IO.FS.Stream) : IO Source := do
  try return .ofBytes (← readAll stream .empty)
  catch e => return ⟨[.failed (reasonOf e)]⟩

/-- Opens a file and reads it. -/
def openFile (path : String) : IO (Except String Source) := do
  try
    let stream := IO.FS.Stream.ofHandle (← IO.FS.Handle.mk path .read)
    return .ok (← sourceOfStream stream)
  catch e => return .error (reasonOf e)

/-- Writes lines to a stream. -/
def writeLines (stream : IO.FS.Stream) (lines : List String) : IO Unit := do
  stream.putStr (unlines lines)
  stream.flush

/-- Writes an output. -/
def write (output : Output) : IO Unit := do
  writeLines (← IO.getStderr) output.err
  writeLines (← IO.getStdout) output.out

/-- Writes a report and gives its status. -/
def writeReport (report : Report) : IO UInt32 := do
  write report.output
  return report.status

/-- Holds a session on a stream and gives its status. -/
partial def converse (i : Interpreter) (stream : IO.FS.Stream) : IO UInt32 := do
  match ← readEntry stream with
  | none => return 0
  | some entry =>
    match Session.turn i entry with
    | .stop last => writeReport last
    | .goOn output next =>
      write output
      converse next stream

/-- The environment that holds what an invocation reads, and nothing else. -/
def environmentFor (invocation : Invocation) : IO Environment := do
  match invocation.origin? with
  | some .standardInput => return ⟨← sourceOfStream (← IO.getStdin), (Folder.mk []).openPath⟩
  | some (.file path) =>
    let opened ← openFile path
    return ⟨⟨[]⟩, fun _ => opened⟩
  | none => return ⟨⟨[]⟩, (Folder.mk []).openPath⟩

/-- Does what an invocation asks for and gives the status. -/
def perform (invocation : Invocation) : IO UInt32 := do
  match invocation with
  | .execute .session config => converse { config } (← IO.getStdin)
  | _ => writeReport (Program.execute LineEditor.reader (← environmentFor invocation) invocation)

end Abacus.Main

def main (args : List String) : IO UInt32 := Abacus.Main.perform (Abacus.CommandLine.read args)
