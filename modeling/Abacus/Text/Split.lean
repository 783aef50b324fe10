/-! Lists cut at a separator. -/

namespace Abacus.Text

variable {α : Type} [DecidableEq α]

/-- Puts `a` in front of the first piece. -/
def extendFirst (a : α) : List (List α) → List (List α)
  | [] => [[a]]
  | piece :: pieces => (a :: piece) :: pieces

/-- The pieces between the separators: one more than there are separators. -/
def splitAt (separator : α) : List α → List (List α)
  | [] => [[]]
  | a :: as =>
    if a = separator then [] :: splitAt separator as else extendFirst a (splitAt separator as)

/-- The pieces, with a separator in front of each but the first, make up the whole. -/
theorem splitAt_joins (separator : α) (whole : List α) :
    ∃ piece pieces, splitAt separator whole = piece :: pieces ∧
      whole = piece ++ pieces.flatMap (separator :: ·) := by
  induction whole with
  | nil => exact ⟨[], [], rfl, rfl⟩
  | cons a as ih =>
    obtain ⟨piece, pieces, split, rfl⟩ := ih
    rw [splitAt, split]
    by_cases same : a = separator
    · subst same
      exact ⟨[], piece :: pieces, if_pos rfl, by simp⟩
    · exact ⟨a :: piece, pieces, if_neg same, rfl⟩

theorem splitAt_of_not_mem {separator : α} {piece : List α} (h : separator ∉ piece) :
    splitAt separator piece = [piece] := by
  induction piece with
  | nil => rfl
  | cons a as ih =>
    rw [List.mem_cons, not_or] at h
    rw [splitAt, if_neg (Ne.symm h.1), ih h.2, extendFirst]

theorem splitAt_append_separator {separator : α} {piece : List α} (h : separator ∉ piece)
    (as : List α) :
    splitAt separator (piece ++ separator :: as) = piece :: splitAt separator as := by
  induction piece with
  | nil => exact if_pos rfl
  | cons a piece ih =>
    rw [List.mem_cons, not_or] at h
    rw [List.cons_append, splitAt, if_neg (Ne.symm h.1), ih h.2, extendFirst]

/-- Pieces without separators are found again. -/
theorem splitAt_of_joined {separator : α} {piece : List α} {pieces : List (List α)}
    (first : separator ∉ piece) (later : ∀ other ∈ pieces, separator ∉ other) :
    splitAt separator (piece ++ pieces.flatMap (separator :: ·)) = piece :: pieces := by
  induction pieces generalizing piece with
  | nil => rw [List.flatMap_nil, List.append_nil, splitAt_of_not_mem first]
  | cons next pieces ih =>
    obtain ⟨second, others⟩ := List.forall_mem_cons.mp later
    rw [List.flatMap_cons, List.cons_append, splitAt_append_separator first, ih second others]

end Abacus.Text
