import Abacus.Program
import Abacus.Proofs.Sessions
import Mathlib.Data.List.Forall2

/-! Sessions line by line.  Of the lines that a reader delivers, the text of each, without the white
space around it, decides alone what the line adds to the two outputs, and whether the session ends
there.  So a session writes what its lines add, one after another, up to the first that ends it; a
line of the language adds what a fresh interpreter answers, whether it has a value or fails, though
one interpreter is kept from line to line. -/

namespace Abacus

namespace Session

open LineReader

/-! ### What a line adds -/

/-- The texts that are no texts of the language: the blank line and the commands. -/
def reserved : List String := ["", ":quit", ":exit", ":builtins"]

/-- What a line adds to the output of a session that goes on behind it, by its trimmed text. -/
inductive Adds (config : Config) : (text : String) → Output → Prop where
  | nothing : Adds config "" ⟨[], []⟩
  /-- The names of the built-in functions. -/
  | builtins : Adds config ":builtins" ⟨Builtin.all.map Builtin.name, []⟩
  /-- The lines that a fresh interpreter holds after an empty value. -/
  | empty {text : String} {lines : List String} (language : text ∉ reserved)
    (answer : (Request.evaluate text).afresh config = (.value (.ok .empty), lines)) :
    Adds config text ⟨[], lines⟩
  /-- The lines that a fresh interpreter holds, and the value on the other output. -/
  | value {text : String} {lines : List String} {v : Value} (language : text ∉ reserved)
    (answer : (Request.evaluate text).afresh config = (.value (.ok v), lines)) (full : v ≠ .empty) :
    Adds config text ⟨[v.display], lines⟩
  /-- The lines that a fresh interpreter holds, and then the report of the error. -/
  | error {text : String} {lines : List String} {e : Error} (language : text ∉ reserved)
    (answer : (Request.evaluate text).afresh config = (.value (.error e), lines)) :
    Adds config text ⟨[], lines ++ [e.message]⟩

/-- A line that a session goes on behind, with what it adds. -/
structure Answered (config : Config) where
  line : String
  output : Output
  adds : Adds config (Unicode.trim line) output

/-- The output of lines one after another. -/
def outputOf {config : Config} (answered : List (Answered config)) : Output :=
  ⟨answered.flatMap (·.output.out), answered.flatMap (·.output.err)⟩

/-- A session ends in front of the entries, and closes with the report. -/
inductive Closes : List Entry → Report → Prop where
  | endOfInput : Closes [] {}
  | command {line : String} {later : List Entry}
    (leaves : Unicode.trim line = ":quit" ∨ Unicode.trim line = ":exit") :
    Closes (.line line :: later) {}
  | interrupted {later : List Entry} : Closes (.interrupted :: later) {}
  | failed {reason : String} {later : List Entry} :
    Closes (.failed reason :: later) (.failure ("I/O error: " ++ reason))

/-! ### A turn -/

section
variable (config : Config) (kept : List String)

theorem respond_eq (text : String) :
    let answer := config.interpret (.ofText text)
    respond ⟨config, .collected kept⟩ text =
      .goOn (⟨[], answer.log⟩ ++ shown (.value answer.result))
        ⟨config, .collected (kept ++ answer.log)⟩ := by
  intro answer
  have lines := Interpreter.linesSince_step config kept (.evaluate text)
  exact congrArg (fun lines => Turn.goOn (⟨[], lines⟩ ++ shown (.value answer.result))
    ⟨config, .collected (kept ++ answer.log)⟩) lines

/-- A text of the language adds what a fresh interpreter answers, whatever was sent before. -/
theorem respond_adds {text : String} (language : text ∉ reserved) :
    ∃ output more, respond ⟨config, .collected kept⟩ text = .goOn output ⟨config, .collected more⟩ ∧
      Adds config text output := by
  refine ⟨_, _, respond_eq config kept text, ?_⟩
  have fresh : (Request.evaluate text).afresh config =
      (.value (config.interpret (.ofText text)).result, (config.interpret (.ofText text)).log) :=
    rfl
  cases result : (config.interpret (.ofText text)).result with
  | error e =>
    rw [result] at fresh
    exact .error language fresh
  | ok v =>
    rw [result] at fresh
    have only : (⟨[], (config.interpret (.ofText text)).log⟩ ++ shown (.value (.ok v)) : Output) =
        ⟨v.render?.toList, (config.interpret (.ofText text)).log⟩ :=
      congrArg (Output.mk _) (List.append_nil _)
    rw [only]
    by_cases empty : v = .empty
    · subst empty
      exact .empty language fresh
    · have visible : v.render?.toList = [v.display] := by simp [Value.render?, Value.isEmpty, empty]
      rw [visible]
      exact .value language fresh empty

theorem turnOfLine_cases (line : String) :
    (turnOfLine ⟨config, .collected kept⟩ line = .stop {} ∧
        (Unicode.trim line = ":quit" ∨ Unicode.trim line = ":exit")) ∨
      ∃ output more,
        turnOfLine ⟨config, .collected kept⟩ line = .goOn output ⟨config, .collected more⟩ ∧
        Adds config (Unicode.trim line) output := by
  unfold turnOfLine
  simp only
  split
  · rename_i leaves
    exact .inl ⟨rfl, leaves⟩
  · rename_i stays
    right
    split
    · rename_i blank
      exact ⟨_, kept, rfl, blank ▸ .nothing⟩
    · rename_i full
      split
      · rename_i lists
        exact ⟨_, kept, rfl, lists ▸ .builtins⟩
      · rename_i other
        rw [not_or] at stays
        have language : Unicode.trim line ∉ reserved := by simp [reserved, full, stays, other]
        exact respond_adds config kept language

theorem turn_cases (entry : Entry) :
    (∃ (a : Answered config) (more : List String), entry = .line a.line ∧
        turn ⟨config, .collected kept⟩ entry = .goOn a.output ⟨config, .collected more⟩) ∨
      ∃ last, turn ⟨config, .collected kept⟩ entry = .stop last ∧
        ∀ later, Closes (entry :: later) last := by
  cases entry with
  | line text =>
    rcases turnOfLine_cases config kept text with ⟨stop, leaves⟩ | ⟨output, more, goOn, adds⟩
    · exact .inr ⟨_, stop, fun _ => .command leaves⟩
    · exact .inl ⟨⟨text, output, adds⟩, more, rfl, goOn⟩
  | interrupted => exact .inr ⟨_, rfl, fun _ => .interrupted⟩
  | failed reason => exact .inr ⟨_, rfl, fun _ => .failed⟩

end

/-! ### A session -/

/-- A session writes what its lines add, up to the entry that ends it. -/
theorem ofEntries_course (config : Config) (kept : List String) (entries : List Entry) :
    ∃ (answered : List (Answered config)) (rest : List Entry) (last : Report),
      entries = answered.map (.line ·.line) ++ rest ∧ Closes rest last ∧
        ofEntries ⟨config, .collected kept⟩ entries = last.after (outputOf answered) := by
  induction entries generalizing kept with
  | nil => exact ⟨[], [], _, rfl, .endOfInput, rfl⟩
  | cons entry entries ih =>
    rcases turn_cases config kept entry with ⟨a, more, rfl, goOn⟩ | ⟨last, stop, closes⟩
    · -- what the line adds goes in front of what the later lines add
      obtain ⟨answered, rest, last, rfl, closes, report⟩ := ih more
      refine ⟨a :: answered, rest, last, rfl, closes, ?_⟩
      rw [ofEntries, goOn]
      simp only [report]
      exact Report.after_after last a.output (outputOf answered)
    · refine ⟨[], entry :: entries, last, rfl, closes entries, ?_⟩
      rw [ofEntries, stop]
      rfl

/-- Lines that are delivered before a failure are answered before it is reported. -/
example : run plain ⟨false⟩ ⟨[.bytes "'a'\n1".toUTF8, .failed "gone"]⟩ =
    ⟨⟨["a"], ["I/O error: gone"]⟩, 1⟩ := by decide +kernel

/-! ### The lines of an input -/

/-- The bytes of a text. -/
def utf8 (text : String) : List UInt8 := text.toUTF8.data.toList

/-- The input is split at its newlines, each of which ends a line, together with a carriage return
in front of it.  The last line may lack its newline, if it is not empty. -/
inductive Splits : (input : List UInt8) → (lines : List (List UInt8)) → Prop where
  | nothing : Splits [] []
  | unended {line : List UInt8} (free : 10 ∉ line) (full : line ≠ []) : Splits line [line]
  | newline {line later : List UInt8} {lines : List (List UInt8)} (free : 10 ∉ line)
    (bare : line.getLast? ≠ some 13) (behind : Splits later lines) :
    Splits (line ++ 10 :: later) (line :: lines)
  | returned {line later : List UInt8} {lines : List (List UInt8)} (free : 10 ∉ line)
    (behind : Splits later lines) : Splits (line ++ 13 :: 10 :: later) (line :: lines)

/-- The entry that a line reader delivers of the line. -/
inductive Delivered : (line : List UInt8) → Entry → Prop where
  | text (line : String) : Delivered (utf8 line) (.line line)
  | notText {line : List UInt8} (garbled : ∀ text, utf8 text ≠ line) :
    Delivered line (.failed "stream did not contain valid UTF-8")

/-- Of a source that comes to its end the reader delivers the lines as split at the newlines, with a
preceding carriage return dropped. -/
def DeliversLines (reader : LineReader) (source : Source) : Prop :=
  ∀ input, Source.join source.deliveries = .ok input →
    ∃ lines, Splits input.data.toList lines ∧ List.Forall₂ Delivered lines (reader source)

/-- A session ends in front of the lines, and closes with the report. -/
inductive Ends : List (List UInt8) → Report → Prop where
  | endOfInput : Ends [] ⟨⟨[], []⟩, 0⟩
  | command {line : String} {later : List (List UInt8)}
    (leaves : Unicode.trim line = ":quit" ∨ Unicode.trim line = ":exit") :
    Ends (utf8 line :: later) ⟨⟨[], []⟩, 0⟩
  | notText {line : List UInt8} {later : List (List UInt8)} (garbled : ∀ text, utf8 text ≠ line) :
    Ends (line :: later) ⟨⟨[], ["I/O error: stream did not contain valid UTF-8"]⟩, 1⟩

theorem ends_of_closes {lines : List (List UInt8)} {entries : List Entry} {last : Report}
    (h : Closes entries last) (delivered : List.Forall₂ Delivered lines entries) :
    Ends lines last := by
  cases h with
  | endOfInput =>
    cases delivered
    exact .endOfInput
  | command leaves =>
    cases delivered with
    | cons first later =>
      cases first
      exact .command leaves
  | interrupted =>
    cases delivered with
    | cons first later => cases first
  | failed =>
    cases delivered with
    | cons first later =>
      cases first with
      | notText garbled => exact .notText garbled

theorem lines_of_delivered {config : Config} {lines : List (List UInt8)}
    {answered : List (Answered config)} {rest : List Entry}
    (h : List.Forall₂ Delivered lines (answered.map (.line ·.line) ++ rest)) :
    ∃ behind, lines = answered.map (utf8 ·.line) ++ behind ∧
      List.Forall₂ Delivered behind rest := by
  induction answered generalizing lines with
  | nil => exact ⟨lines, rfl, h⟩
  | cons a answered ih =>
    cases h with
    | cons first later =>
      obtain ⟨behind, rfl, others⟩ := ih later
      cases first
      exact ⟨behind, rfl, others⟩

/-! ### The plain reader -/

/-- A newline ends the line that is being read, together with a carriage return before it. -/
theorem splits_dropReturn {line later : List UInt8} {lines : List (List UInt8)} (free : 10 ∉ line)
    (behind : Splits later lines) :
    Splits (line.reverse ++ 10 :: later) ((dropReturn line).reverse :: lines) := by
  unfold dropReturn
  split
  · rename_i line
    rw [List.mem_cons, not_or] at free
    rw [List.reverse_cons, List.append_assoc]
    exact .returned (by simpa using free.2) behind
  · rename_i bare
    refine .newline (by simpa using free) ?_ behind
    rw [List.getLast?_reverse]
    intro last
    obtain ⟨before, rfl⟩ := List.head?_eq_some_iff.mp last
    exact bare before rfl

theorem splits_cut (line : List UInt8) (free : 10 ∉ line) (bytes : List UInt8) :
    Splits (line.reverse ++ bytes)
      (if (cut line bytes).2 = [] then (cut line bytes).1
        else (cut line bytes).1 ++ [(cut line bytes).2]) := by
  induction bytes generalizing line with
  | nil =>
    rw [cut, List.append_nil]
    by_cases nothing : line.reverse = []
    · rw [if_pos nothing, nothing]
      exact .nothing
    · rw [if_neg nothing]
      exact .unended (by simpa using free) nothing
  | cons byte bytes ih =>
    by_cases ends : byte = 10
    · subst ends
      have split := splits_dropReturn free (ih [] List.not_mem_nil)
      rw [cut, if_pos rfl]
      by_cases nothing : (cut [] bytes).2 = []
      · rwa [if_pos nothing] at split ⊢
      · rwa [if_neg nothing] at split ⊢
    · have split := ih (byte :: line) (by simp [free, Ne.symm ends])
      rw [cut, if_neg ends]
      rwa [List.reverse_cons, List.append_assoc] at split

theorem delivered_entry (line : List UInt8) : Delivered line (entry line) := by
  have own : line = (⟨line.toArray⟩ : ByteArray).data.toList := by simp
  unfold entry
  cases decoded : Text.decode ⟨line.toArray⟩ with
  | ok text =>
    rw [Text.decode_eq_ok_iff.mp decoded] at own
    rw [own]
    exact .text text
  | error reason =>
    obtain ⟨rfl, garbled⟩ := Text.decode_eq_error_iff.mp decoded
    refine .notText fun text same => garbled text ?_
    rw [← same]
    rfl

/-- The plain reader delivers the lines of every source. -/
theorem deliversLines_plain (source : Source) : DeliversLines plain source := by
  intro input reads
  refine ⟨_, splits_cut [] List.not_mem_nil input.data.toList, ?_⟩
  simp only [plain, received_of_join reads]
  rw [List.forall₂_map_right_iff, List.forall₂_same]
  exact fun line _ => delivered_entry line

/-- The line editor delivers the lines of every source in which nothing is taken back. -/
theorem deliversLines_reader {source : Source}
    (kept : ∀ text, .line text ∈ plain source → '\x08' ∉ text.toList) :
    DeliversLines LineEditor.reader source := by
  unfold DeliversLines
  rw [LineEditor.reader_eq_plain kept]
  exact deliversLines_plain source

end Session

/-- A session of the program reports what its lines add, in order and on each output, up to the
first line whose trimmed text is `:quit` or `:exit`, that is not text, or that is missing.  Its
lines are those of the standard input, provided that the line reader delivers them.  What a line of
the language adds is the answer of a fresh interpreter. -/
theorem session_of_independent_lines (reader : LineReader) (env : Environment) (config : Config)
    (input : ByteArray) (reads : Source.join env.standardInput.deliveries = .ok input)
    (delivers : Session.DeliversLines reader env.standardInput) :
    let report := Program.perform reader env config .session
    ∃ (answered : List (Session.Answered config)) (rest : List (List UInt8)) (last : Report),
      Session.Splits input.data.toList (answered.map (Session.utf8 ·.line) ++ rest) ∧
      Session.Ends rest last ∧
      report.output.out = answered.flatMap (·.output.out) ++ last.output.out ∧
      report.output.err = answered.flatMap (·.output.err) ++ last.output.err ∧
      report.status = last.status := by
  intro report
  obtain ⟨lines, splits, delivered⟩ := delivers input reads
  obtain ⟨answered, rest, last, entries, closes, course⟩ :=
    Session.ofEntries_course config [] (reader env.standardInput)
  rw [entries] at delivered
  obtain ⟨behind, rfl, others⟩ := Session.lines_of_delivered delivered
  have whole : report = last.after (Session.outputOf answered) := course
  rw [whole]
  exact ⟨answered, behind, last, splits, Session.ends_of_closes closes others, rfl, rfl, rfl⟩

/-- A session logs, fails, passes over a blank line, shows a value and is left; its last line is not
reached.  The input arrives in two pieces, cut between a carriage return and its newline. -/
theorem session_past_open_operation :
    let input := "log 1\n1 +\r\n\n'a'\n :quit \r\n2".toUTF8
    let env : Environment :=
      ⟨⟨[.bytes "log 1\n1 +\r".toUTF8, .interrupted, .bytes "\n\n'a'\n :quit \r\n2".toUTF8]⟩,
        fun _ => .error "no such file"⟩
    let messages := ["1", "Error on line 1: unexpected end of input after `+`"]
    Source.join env.standardInput.deliveries = .ok input ∧
    Session.DeliversLines LineReader.plain env.standardInput ∧
    Program.perform LineReader.plain env ⟨false⟩ .session = ⟨⟨["a"], messages⟩, 0⟩ ∧
    ∃ (answered : List (Session.Answered ⟨false⟩)) (rest : List (List UInt8)) (last : Report),
      Session.Splits input.data.toList (answered.map (Session.utf8 ·.line) ++ rest) ∧
      Session.Ends rest last ∧ answered.flatMap (·.output.out) ++ last.output.out = ["a"] ∧
      answered.flatMap (·.output.err) ++ last.output.err = messages ∧ last.status = 0 := by
  intro input env messages
  have reads : Source.join env.standardInput.deliveries = .ok input := by rfl
  have delivers := Session.deliversLines_plain env.standardInput
  have report : Program.perform LineReader.plain env ⟨false⟩ .session =
      ⟨⟨["a"], messages⟩, 0⟩ := by decide +kernel
  obtain ⟨answered, rest, last, splits, ends, out, err, status⟩ :=
    session_of_independent_lines LineReader.plain env ⟨false⟩ input reads delivers
  rw [report] at out err status
  exact ⟨reads, delivers, report, answered, rest, last, splits, ends, out.symm, err.symm,
    status.symm⟩

end Abacus
