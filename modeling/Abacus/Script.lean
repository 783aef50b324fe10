import Abacus.Phrase

/-! The evaluation of a whole list of tokens, phrase after phrase.  A script has the value of its
last phrase that is not empty, and it stops at the first phrase that fails. -/

namespace Abacus

/-- Evaluates the phrases of a list of tokens from the first to the last, and gives the last value
that is not empty. -/
def run (tokens : List Token) : Logged EvalError Value :=
  match tokens with
  | [] => return .empty
  | t :: behind => do
    let ⟨(v, rest), _h⟩ ← (evaluate (t :: behind)).attach
    (run rest).map (·.or v)
termination_by tokens.length
decreasing_by exact length_evaluate_lt _h

@[simp] theorem run_nil : run [] = pure .empty := by
  rw [run]

theorem run_cons (t : Token) (behind : List Token) :
    run (t :: behind) = (do
      let (v, rest) ← evaluate (t :: behind)
      let later ← run rest
      return later.or v) := by
  rw [run]
  simp only [Logged.bind_pure_eq_map]
  exact Logged.attach_bind (evaluate (t :: behind)) fun (v, rest) => (run rest).map (·.or v)

end Abacus
