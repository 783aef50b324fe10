import Abacus.Proofs.Composition

/-! The tokens that an evaluation depends on.  Nothing in front of a phrase bears on it, and nothing
behind it does, unless the tokens ran out: then more tokens may let the phrase go on. -/

namespace Abacus

/-- Tokens in front of a phrase only move its positions. -/
theorem evaluateInside_behind (before tokens : List Token) (index depth : Nat) :
    evaluateInside (before ++ tokens) (before.length + index) depth =
      (evaluateInside tokens index depth).map fun (v, next) => (v, before.length + next) := by
  rw [evaluateInside, evaluateInside, List.drop_length_add_append, Logged.map_bind]
  refine Logged.bind_congr_ok fun found read => ?_
  obtain ⟨v, rest⟩ := found
  have shorter := (Reader.within (maxNesting - depth)).shorter read
  rw [List.length_drop] at shorter
  have moved : (before ++ tokens).length - rest.length =
      before.length + (tokens.length - rest.length) := by
    rw [List.length_append]
    omega
  simp only [moved]
  rfl

theorem evaluateInside_past_end {tokens : List Token} {index : Nat} (h : tokens.length ≤ index)
    (depth : Nat) : evaluateInside tokens index depth = .fail .ranOutOfCode := by
  rw [evaluateInside, List.drop_eq_nil_of_le h]
  cases maxNesting - depth <;> rfl

/-- Tokens behind a phrase change nothing, if it did not run out of tokens. -/
theorem evaluateInside_before {tokens : List Token} {index depth : Nat}
    (h : (evaluateInside tokens index depth).result ≠ .error .ranOutOfCode) (later : List Token) :
    evaluateInside (tokens ++ later) index depth = evaluateInside tokens index depth := by
  have inside : index ≤ tokens.length := by
    refine Nat.le_of_not_lt fun outside => h ?_
    rw [evaluateInside_past_end (Nat.le_of_lt outside)]
    rfl
  have settled : Settled (tokens.drop index) (evaluateInside tokens index depth) := .inr h
  exact evaluateInside_append_of_settled inside settled.of_bind later

/-- A phrase with a value needs no token behind its end. -/
theorem evaluateInside_take {tokens : List Token} {index depth next : Nat} {v : Value}
    (h : (evaluateInside tokens index depth).result = .ok (v, next)) :
    evaluateInside (tokens.take next) index depth = evaluateInside tokens index depth := by
  obtain ⟨⟨w, rest⟩, read, last⟩ := Logged.result_bind_eq_ok_iff.mp h
  cases last
  obtain ⟨tree, front⟩ := Reader.exists_tree_of_read _ read
  have nonempty : tree.tokens ≠ [] := by
    obtain ⟨behind, first⟩ := tree.tokens_eq_cons
    simp [first]
  have alone : (tokens.take (tokens.length - rest.length)).drop index = tree.tokens ++ [] := by
    rw [List.drop_take, ← List.extract_eq_take_drop, extract_of_drop_eq nonempty front,
      List.append_nil]
  rw [evaluateInside, evaluateInside, alone, front, Reader.read_tokens, Reader.read_tokens]
  simp only [bind_assoc, pure_bind, List.length_take, List.length_nil, Nat.sub_zero,
    Nat.min_eq_left (Nat.sub_le _ _)]

/-- Evaluation depends on the tokens that it takes and on no others.  Tokens in front move the
positions and change nothing else; tokens behind change nothing unless the evaluation ran out of
tokens, whether it had a value or failed; and a phrase with a value is the same without the tokens
behind its end. -/
theorem evaluateAt_local (before tokens later : List Token) (index : Nat) :
    evaluateAt (before ++ tokens) (before.length + index) =
      ((evaluateAt tokens index).map fun (v, next) => (v, before.length + next)) ∧
    ((evaluateAt tokens index).result ≠ .error .ranOutOfCode →
      evaluateAt (tokens ++ later) index = evaluateAt tokens index) ∧
    ∀ v next, (evaluateAt tokens index).result = .ok (v, next) →
      evaluateAt (tokens.take next) index = evaluateAt tokens index := by
  simp only [← evaluateInside_zero]
  refine ⟨evaluateInside_behind before tokens index 0, fun fine => ?_, fun v next value => ?_⟩
  · exact evaluateInside_before fine later
  · exact evaluateInside_take value

/-- A call in front of an open block has its value whatever the block holds and without it, and a
text in the place of an integer is refused whatever comes behind it. -/
theorem evaluateAt_in_front_of_block :
    evaluateAt [⟨⟨.reference, "log"⟩, 1⟩, ⟨⟨.string, "a"⟩, 1⟩, ⟨⟨.blockStart, "("⟩, 1⟩] 0 =
      ⟨["a"], .ok (.empty, 2)⟩ ∧
    evaluateAt [⟨⟨.reference, "log"⟩, 1⟩, ⟨⟨.string, "a"⟩, 1⟩] 0 = ⟨["a"], .ok (.empty, 2)⟩ ∧
    ∀ later, evaluateAt ([⟨⟨.blockStart, "("⟩, 1⟩, ⟨⟨.string, "a"⟩, 1⟩] ++ later) 0 =
      ⟨[], .error (.typeMismatch "(" .text 1)⟩ := by
  have value : evaluateAt [⟨⟨.reference, "log"⟩, 1⟩, ⟨⟨.string, "a"⟩, 1⟩, ⟨⟨.blockStart, "("⟩, 1⟩]
      0 = ⟨["a"], .ok (.empty, 2)⟩ := rfl
  refine ⟨value, ?_, fun later => ?_⟩
  · exact ((evaluateAt_local [] _ [] 0).2.2 .empty 2 (congrArg Logged.result value)).trans value
  · refine ((evaluateAt_local [] _ later 0).2.1 ?_).trans rfl
    exact fun failed => nomatch failed

end Abacus
