import Abacus.Proofs.Respacing
import Mathlib.Data.List.Forall2

/-! What steers evaluation.  A token is seen through its role, and the role comes from the kind and,
for four of the kinds, from the text.  So two lists whose tokens agree in these evaluate to the same
value, end at the same place and write the same lines, or fail alike up to the line.  No other text
and no line has a say. -/

namespace Abacus

/-! ### Roles -/

/-- A lexeme that plays the role. -/
def Role.lexeme : Role → Lexeme
  | .call name => ⟨.reference, name⟩
  | .operator op => ⟨.arithmetic, op.symbol⟩
  | .opening => ⟨.blockStart, "("⟩
  | .closing => ⟨.blockEnd, ")"⟩
  | .text content => ⟨.string, content⟩
  | .number numeral => ⟨.number, numeral⟩
  | .idle => ⟨.instructionEnd, ";"⟩

theorem Role.role_lexeme (role : Role) : role.lexeme.role = role := by
  cases role with
  | operator op => simp [Role.lexeme, Lexeme.role]
  | call _ | opening | closing | text _ | number _ | idle => rfl

namespace Relabelling

/-- The tokens with nothing left but their roles. -/
def roles : Relabelling where
  token t := ⟨t.role.lexeme, 0⟩
  line _ := 0
  role_token t := t.role.role_lexeme
  line_token _ := rfl

/-- Relabelled tokens evaluate to the same value and end at the same position, with the line of an
error moved. -/
theorem evaluateAt_map (g : Relabelling) (tokens : List Token) (index : Nat) :
    evaluateAt (tokens.map g.token) index =
      (evaluateAt tokens index).mapError (.mapLine g.line) := by
  have read : evaluate ((tokens.drop index).map g.token) = g.after (evaluate (tokens.drop index)) :=
    g.respected_within maxNesting (tokens.drop index)
  rw [evaluateAt, ← List.map_drop, read, ← Logged.bimap_id_left]
  refine Logged.bimap_bind fun found _ => ?_
  obtain ⟨v, rest⟩ := found
  simp only [List.length_map]
  rfl

end Relabelling

/-- Lists with the same roles have the same phrases and the same scripts, up to the line of an
error. -/
theorem evaluation_of_roles {tokens others : List Token}
    (same : others.map (fun t => t.role) = tokens.map fun t => t.role) :
    (∀ index, (evaluateAt others index).mapError EvalError.withoutLine =
      (evaluateAt tokens index).mapError EvalError.withoutLine) ∧
    (run others).mapError EvalError.withoutLine = (run tokens).mapError EvalError.withoutLine := by
  have bare : others.map Relabelling.roles.token = tokens.map Relabelling.roles.token := by
    have filled := congrArg (List.map fun role => (⟨role.lexeme, 0⟩ : Token)) same
    rwa [List.map_map, List.map_map] at filled
  constructor
  · intro index
    have phrases := congrArg (evaluateAt · index) bare
    simp only [Relabelling.evaluateAt_map] at phrases
    exact phrases
  · have scripts := congrArg run bare
    rw [Relabelling.run_map, Relabelling.run_map] at scripts
    exact scripts

/-! ### Kinds and texts -/

/-- Tokens of the kind are told apart by their texts. -/
def Kind.isTelling : Kind → Bool
  | .reference | .arithmetic | .string | .number => true
  | .comparator | .assignment | .logical | .bitwise | .instructionEnd | .blockStart | .blockEnd =>
    false

/-- The tokens have the same kind, and the same text if the kind needs it. -/
structure Token.Alike (t u : Token) : Prop where
  kind : t.kind = u.kind
  text : t.kind.isTelling = true → t.text = u.text

instance (t u : Token) : Decidable (t.Alike u) :=
  decidable_of_iff (t.kind = u.kind ∧ (t.kind.isTelling = true → t.text = u.text))
    ⟨fun ⟨kind, text⟩ => ⟨kind, text⟩, fun h => ⟨h.kind, h.text⟩⟩

/-- The role of a kind that is not telling is the same for every text. -/
theorem role_of_not_isTelling {k : Kind} (h : k.isTelling = false) (text text' : String) :
    Lexeme.role ⟨k, text⟩ = Lexeme.role ⟨k, text'⟩ := by
  cases k <;> first | rfl | cases h

theorem Token.Alike.role_eq {t u : Token} (h : t.Alike u) : u.role = t.role := by
  obtain ⟨⟨kind, text⟩, line⟩ := t
  obtain ⟨⟨kind', text'⟩, line'⟩ := u
  obtain ⟨rfl, sameText⟩ := h
  by_cases telling : kind.isTelling = true
  · exact congrArg (fun text => Lexeme.role ⟨kind, text⟩) (sameText telling).symm
  · exact role_of_not_isTelling (eq_false_of_ne_true telling) text' text

theorem roles_of_alike {tokens others : List Token} (h : List.Forall₂ Token.Alike tokens others) :
    others.map (fun t => t.role) = tokens.map fun t => t.role := by
  induction h with
  | nil => rfl
  | cons alike _ ih => rw [List.map_cons, List.map_cons, alike.role_eq, ih]

/-- Only kinds and telling texts steer evaluation.  If the tokens of two lists are alike one by one,
then at every position the lists have the same value, the same end and the same log, or errors that
differ at most in their line.  The same holds of the lists as scripts. -/
theorem evaluation_of_alike {tokens others : List Token}
    (alike : List.Forall₂ Token.Alike tokens others) :
    (∀ index, (evaluateAt others index).mapError EvalError.withoutLine =
      (evaluateAt tokens index).mapError EvalError.withoutLine) ∧
    (run others).mapError EvalError.withoutLine = (run tokens).mapError EvalError.withoutLine :=
  evaluation_of_roles (roles_of_alike alike)

/-- The phrase `log (6 - 4)`. -/
def sampleCall : Tree :=
  .call ⟨⟨.reference, "log"⟩, 6⟩ "log" rfl
    (.block ⟨⟨.blockStart, "("⟩, 6⟩ rfl (.number ⟨⟨.number, "6"⟩, 6⟩ "6" rfl)
      (.more ⟨⟨.arithmetic, "-"⟩, 6⟩ .subtract rfl (.number ⟨⟨.number, "4"⟩, 6⟩ "4" rfl)
        (.close ⟨⟨.blockEnd, ")"⟩, 6⟩ rfl)))

/-- The phrase logs the same line when its parentheses have operators for their texts, and a
division by zero stays one on any lines. -/
theorem evaluation_of_sampleCall :
    (evaluateAt [⟨⟨.reference, "log"⟩, 5⟩, ⟨⟨.blockStart, "*"⟩, 4⟩, ⟨⟨.number, "6"⟩, 3⟩,
      ⟨⟨.arithmetic, "-"⟩, 2⟩, ⟨⟨.number, "4"⟩, 9⟩, ⟨⟨.blockEnd, "+"⟩, 0⟩] 0).mapError
        EvalError.withoutLine = ⟨["2"], .ok (.empty, 6)⟩ ∧
    (run [⟨⟨.arithmetic, "/"⟩, 7⟩, ⟨⟨.number, "1"⟩, 8⟩, ⟨⟨.number, "0"⟩, 3⟩]).mapError
      EvalError.withoutLine = ⟨[], .error (.divisionByZero 0)⟩ := by
  have value : sampleCall.value maxNesting = ⟨["2"], .ok .empty⟩ :=
    Logged.ext (by decide +kernel) rfl
  have call : evaluateAt sampleCall.tokens 0 = ⟨["2"], .ok (.empty, 6)⟩ := by
    have read : evaluate (sampleCall.tokens.drop 0) = ⟨["2"], .ok (.empty, [])⟩ := by
      refine (Reader.read_tokens sampleCall maxNesting []).trans ?_
      rw [value]
      rfl
    rw [evaluateAt, read]
    rfl
  have division : run [⟨⟨.arithmetic, "/"⟩, 1⟩, ⟨⟨.number, "1"⟩, 1⟩, ⟨⟨.number, "0"⟩, 1⟩] =
      ⟨[], .error (.divisionByZero 1)⟩ := by
    rw [run_cons]
    rfl
  constructor
  · exact ((evaluation_of_alike (by decide)).1 0).trans (congrArg _ call)
  · exact (evaluation_of_alike (by decide)).2.trans (congrArg _ division)

end Abacus
