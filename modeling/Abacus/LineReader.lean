import Abacus.Source

/-! Line readers.  A line reader makes entries of a source, and whoever asks it takes them one after
another.  The plain reader cuts a source at its newlines.  A carriage return in front of a newline
belongs to the end of the line, and the last line may lack its newline.  Where a source fails, all
lines that have come to their end are delivered before the failure, and the one that has not is
lost. -/

namespace Abacus

/-- What a line reader delivers. -/
inductive LineReader.Entry where
  /-- A line, without what ends it. -/
  | line (text : String)
  /-- The line was broken off. -/
  | interrupted
  /-- No line could be read, for the given reason. -/
  | failed (reason : String)
  deriving Repr, DecidableEq

/-- What is delivered of each source. -/
abbrev LineReader := Source → List LineReader.Entry

namespace LineReader

/-- The bytes of a source up to its end, and the reason if it ends by a failure. -/
def received : List Delivery → List UInt8 × Option String
  | [] => ([], none)
  | .bytes content :: later =>
    if content.size = 0 then ([], none)
    else
      let (bytes, failure) := received later
      (content.data.toList ++ bytes, failure)
  | .interrupted :: later => received later
  | .failed reason :: _ => ([], some reason)

/-- The line without a carriage return at its end.  A line that is being read is given with the last
byte first. -/
def dropReturn : List UInt8 → List UInt8
  | 13 :: line => line
  | line => line

/-- The lines that newlines end, and what stands behind the last newline, of bytes that go on with
the given line. -/
def cut (line : List UInt8) : List UInt8 → List (List UInt8) × List UInt8
  | [] => ([], line.reverse)
  | byte :: bytes =>
    if byte = 10 then
      let (lines, rest) := cut [] bytes
      ((dropReturn line).reverse :: lines, rest)
    else cut (byte :: line) bytes

/-- What is delivered of a line: its text, or a failure if it is not text. -/
def entry (line : List UInt8) : Entry :=
  match Text.decode ⟨line.toArray⟩ with
  | .ok text => .line text
  | .error reason => .failed reason

/-- The reader that delivers the lines as they are. -/
def plain : LineReader := fun source =>
  let (bytes, failure) := received source.deliveries
  let (lines, rest) := cut [] bytes
  match failure with
  | some reason => lines.map entry ++ [.failed reason]
  | none => (if rest = [] then lines else lines ++ [rest]).map entry

theorem received_of_join {deliveries : List Delivery} {input : ByteArray}
    (h : Source.join deliveries = .ok input) : received deliveries = (input.data.toList, none) := by
  induction deliveries generalizing input with
  | nil =>
    cases h
    rfl
  | cons delivery later ih =>
    cases delivery with
    | bytes content =>
      rw [Source.join] at h
      rw [received]
      split at h
      · rename_i nothing
        cases h
        rw [if_pos nothing]
        rfl
      · rename_i some
        rw [if_neg some]
        cases joined : Source.join later with
        | error reason => rw [joined] at h; cases h
        | ok rest =>
          rw [joined] at h
          cases h
          simp [ih joined]
    | interrupted => exact ih h
    | failed reason => cases h

end LineReader

end Abacus
