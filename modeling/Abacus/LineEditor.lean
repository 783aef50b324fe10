import Abacus.LineEditor.GraphemeCluster
import Abacus.LineReader

/-! The line reader of the program, for lines that are typed with backspaces.  A backspace takes
back the grapheme cluster typed before it, and does nothing where there is none.  A line remembers
the size of each cluster in a single byte, so a cluster of 256 bytes or more counts with its size
modulo 256.  Sessions take any line reader, and nothing about them rests on this one. -/

namespace Abacus.LineEditor

/-- A line as it stands while it is typed. -/
structure Typed where
  /-- The characters that stand, the last first. -/
  text : List Char := []
  /-- The sizes of the clusters that can be taken back, the last first. -/
  sizes : List UInt8 := []

/-- Removes characters of `size` bytes together from the front.  A character is never divided. -/
def dropBytes : (size : Nat) → List Char → List Char
  | _, [] => []
  | size, c :: cs =>
    if 0 < size ∧ c.utf8Size ≤ size then dropBytes (size - c.utf8Size) cs else c :: cs

namespace Typed

/-- The line without the cluster typed last. -/
def back (t : Typed) : Typed :=
  match t.sizes with
  | [] => t
  | size :: sizes => ⟨dropBytes size.toNat t.text, sizes⟩

/-- The line after one more cluster. -/
def add (t : Typed) (cluster : List Char) : Typed :=
  ⟨cluster.reverse ++ t.text, (String.ofList cluster).utf8ByteSize.toUInt8 :: t.sizes⟩

/-- The line after a cluster or a backspace. -/
def press (t : Typed) (cluster : List Char) : Typed :=
  if cluster = ['\x08'] then t.back else t.add cluster

end Typed

/-- The line that is left when its backspaces have taken effect. -/
def applyBackspaces (line : String) : String :=
  String.ofList ((clusters line.toList).foldl Typed.press {}).text.reverse

/-! ### Lines without backspaces -/

theorem text_foldl_press {clusters : List (List Char)} (h : ['\x08'] ∉ clusters) (t : Typed) :
    (clusters.foldl Typed.press t).text = clusters.flatten.reverse ++ t.text := by
  induction clusters generalizing t with
  | nil => rfl
  | cons cluster clusters ih =>
    rw [List.mem_cons, not_or] at h
    have typed : t.press cluster = t.add cluster := by
      simp [Typed.press, Ne.symm h.1]
    rw [List.foldl_cons, typed, ih h.2]
    simp [Typed.add]

/-- A line without backspaces stays as it is. -/
theorem applyBackspaces_eq_self {line : String} (h : '\x08' ∉ line.toList) :
    applyBackspaces line = line := by
  have none : ['\x08'] ∉ clusters line.toList := by
    intro member
    apply h
    rw [← flatten_clusters line.toList]
    exact List.mem_flatten.mpr ⟨_, member, List.mem_singleton.mpr rfl⟩
  simp [applyBackspaces, text_foldl_press none]

/-! ### The entries -/

/-- What is delivered when the backspaces of a line have taken effect. -/
def edit : LineReader.Entry → LineReader.Entry
  | .line text => .line (applyBackspaces text)
  | .interrupted => .interrupted
  | .failed reason => .failed reason

/-- The reader that delivers the lines as their backspaces leave them. -/
def reader : LineReader := fun source => (LineReader.plain source).map edit

/-- A source without backspaces is delivered as it is. -/
theorem reader_eq_plain {source : Source}
    (h : ∀ text, .line text ∈ LineReader.plain source → '\x08' ∉ text.toList) :
    reader source = LineReader.plain source := by
  have same : ∀ entry ∈ LineReader.plain source, edit entry = entry := by
    intro entry member
    cases entry with
    | line text => exact congrArg LineReader.Entry.line (applyBackspaces_eq_self (h text member))
    | interrupted | failed reason => rfl
  exact (List.map_congr_left same).trans (List.map_id _)

end Abacus.LineEditor
