/-! What a program leaves behind: the lines on its two outputs, and its exit status. -/

namespace Abacus

/-- Lines for the standard output and the standard error. -/
structure Output where
  out : List String := []
  err : List String := []
  deriving Repr, DecidableEq

instance : Append Output where
  append a b := ⟨a.out ++ b.out, a.err ++ b.err⟩

@[simp] theorem Output.out_append (a b : Output) : (a ++ b).out = a.out ++ b.out := rfl

@[simp] theorem Output.err_append (a b : Output) : (a ++ b).err = a.err ++ b.err := rfl

theorem Output.append_assoc (a b c : Output) : a ++ b ++ c = a ++ (b ++ c) := by
  change Output.mk (a.out ++ b.out ++ c.out) (a.err ++ b.err ++ c.err) = _
  rw [List.append_assoc, List.append_assoc]
  rfl

/-- The text of lines, each with the newline that ends it. -/
def unlines (lines : List String) : String := String.join (lines.map (· ++ "\n"))

/-- The output of a program and its exit status. -/
structure Report where
  output : Output := {}
  status : UInt32 := 0
  deriving Repr, DecidableEq

/-- The status of a program that failed. -/
def failureStatus : UInt32 := 1

/-- The status of a program that was called in a way it does not know. -/
def misuseStatus : UInt32 := 2

/-- The report with earlier output in front. -/
def Report.after (earlier : Output) (r : Report) : Report :=
  { r with output := earlier ++ r.output }

theorem Report.after_after (r : Report) (earlier later : Output) :
    (r.after later).after earlier = r.after (earlier ++ later) := by
  simp only [Report.after, Output.append_assoc]

/-- The report of a failure with the given message. -/
def Report.failure (message : String) : Report := ⟨⟨[], [message]⟩, failureStatus⟩

end Abacus
