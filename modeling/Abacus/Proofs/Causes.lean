import Abacus.Proofs.LineNumbers
import Abacus.Proofs.Literals
import Abacus.Proofs.Positions

/-! The tokens behind errors.  An error passes unchanged through the phrases around the one that it
arose in, so all that it reports, its line included, was taken from a single token.  That token
stands where the evaluation started or behind, and is of the kind that can fail in this way. -/

namespace Abacus

/-- The error reports the line of the token, and its text where the error has one, and the token is
one at which such an error can arise. -/
inductive EvalError.Blames : EvalError → Token → Prop
  | unrecognized {t : Token} (kind : t.kind = .reference)
      (unknown : ∀ b : Builtin, t.text ≠ b.name) :
      Blames (.unrecognizedReference t.text t.line) t
  | badLiteral {t : Token} (kind : t.kind = .number)
      (bad : ¬∃ n, Numeral.Denotes t.text.toList n ∧ IsWord n) :
      Blames (.badLiteral t.text t.line) t
  | divisionByZero {t : Token} (kind : t.kind = .arithmetic)
      (text : t.text = "/" ∨ t.text = "%") : Blames (.divisionByZero t.line) t
  | overflow {t : Token} {op : Operator} (kind : t.kind = .arithmetic) (text : t.text = op.symbol) :
      Blames (.overflow op t.line) t
  | operand {t : Token} {found : Value.Kind} (kind : t.kind = .arithmetic)
      (other : found = .text ∨ found = .empty) : Blames (.typeMismatch t.text found t.line) t
  | firstOperand {t : Token} {found : Value.Kind} (kind : t.kind = .blockStart)
      (other : found = .text ∨ found = .empty) : Blames (.typeMismatch "(" found t.line) t
  | tooDeep {t : Token} : Blames (.nestingTooDeep t.line) t

/-- The error says that a phrase is nested too deep. -/
def EvalError.IsTooDeep (e : EvalError) : Prop := ∃ line, e = .nestingTooDeep line

/-- The tokens ran out, or the error blames one of them, and then, if it says that a phrase is too
deep, one behind at least `depth` others. -/
def Located (depth : Nat) (tokens : List Token) (e : EvalError) : Prop :=
  e = .ranOutOfCode ∨ ∃ front t rest, tokens = front ++ t :: rest ∧ e.Blames t ∧
    (e.IsTooDeep → depth ≤ front.length)

namespace Located

variable {depth : Nat} {t : Token} {tokens behind : List Token} {e : EvalError}

theorem here (h : e.Blames t) (shallow : ¬e.IsTooDeep) : Located depth (t :: behind) e :=
  .inr ⟨[], t, behind, rfl, h, fun deep => absurd deep shallow⟩

theorem of_suffix (h : Located depth behind e) (suffix : behind <:+ tokens) :
    Located depth tokens e := by
  obtain ⟨front, rfl⟩ := suffix
  rcases h with rfl | ⟨inner, t, rest, rfl, blames, deep⟩
  · exact .inl rfl
  · refine .inr ⟨front ++ inner, t, rest, by rw [List.append_assoc], blames, fun too => ?_⟩
    have := deep too
    rw [List.length_append]
    omega

theorem inside (h : Located depth behind e) (t : Token) : Located (depth + 1) (t :: behind) e := by
  rcases h with rfl | ⟨front, u, rest, rfl, blames, deep⟩
  · exact .inl rfl
  · refine .inr ⟨t :: front, u, rest, rfl, blames, fun too => ?_⟩
    have := deep too
    rw [List.length_cons]
    omega

end Located

/-! ### Operations on values -/

theorem blames_of_apply {t : Token} {op : Operator} (role : t.role = .operator op) {l r : Int64}
    {e : EvalError} (h : op.apply l r t.line = .error e) : e.Blames t ∧ ¬e.IsTooDeep := by
  obtain ⟨kind, text⟩ := Lexeme.role_eq_operator_iff.mp role
  rcases Operator.apply_error h with ⟨rfl, divides⟩ | rfl
  · refine ⟨.divisionByZero kind ?_, nofun⟩
    rcases divides with rfl | rfl
    · exact .inl text
    · exact .inr text
  · exact ⟨.overflow kind text, nofun⟩

theorem expectInteger_error {v : Value} {operation : String} {line : Nat} {e : EvalError}
    (h : v.expectInteger operation line = .error e) :
    ∃ found, (found = .text ∨ found = .empty) ∧ e = .typeMismatch operation found line := by
  cases v with
  | integer n => cases h
  | text content =>
    cases h
    exact ⟨.text, .inl rfl, rfl⟩
  | empty =>
    cases h
    exact ⟨.empty, .inr rfl, rfl⟩

theorem blames_of_literal {t : Token} {numeral : String} (role : t.role = .number numeral)
    {e : EvalError} (h : literal numeral t.line = .error e) : e.Blames t ∧ ¬e.IsTooDeep := by
  obtain ⟨kind, rfl⟩ := Lexeme.role_eq_number_iff.mp role
  have none : ∀ v : Int64, ¬Numeral.Denotes t.text.toList v.toInt := by
    intro v denotes
    rw [literal_eq_ok_iff.mpr denotes] at h
    cases h
  rw [literal_eq_error none] at h
  cases h
  refine ⟨.badLiteral kind ?_, nofun⟩
  rintro ⟨n, denotes, word⟩
  obtain ⟨v, rfl⟩ := isWord_iff_exists.mp word
  exact none v denotes

/-! ### Readers -/

namespace Reader

/-- Every error of the reader is located among the tokens. -/
def Locates (r : Reader) (depth : Nat) : Prop :=
  ∀ tokens e, (r.read tokens).result = .error e → Located depth tokens e

section Phrases

variable {depth : Nat} (locates : (within depth).Locates depth)
include locates

/-- An integer is missing because its phrase failed, or because the phrase has another value. -/
theorem integer_error {operation : String} {line : Nat} {tokens : List Token} {e : EvalError}
    (h : ((within depth).integer operation line tokens).result = .error e) :
    Located depth tokens e ∨
      ∃ found, (found = .text ∨ found = .empty) ∧ e = .typeMismatch operation found line := by
  unfold integer at h
  rcases Logged.result_bind_eq_error_iff.mp h with failed | ⟨⟨v, rest⟩, -, h⟩
  · exact .inl (locates tokens e failed)
  · rcases Logged.result_bind_eq_error_iff.mp h with refused | ⟨n, -, h⟩
    · exact .inr (expectInteger_error refused)
    · cases h

/-- An integer that an operator needs is missing for a reason among the tokens from the operator
on. -/
theorem operand_error {t : Token} {op : Operator} (role : t.role = .operator op)
    {behind rest : List Token} {e : EvalError} (suffix : rest <:+ behind)
    (h : ((within depth).integer op.symbol t.line rest).result = .error e) :
    Located (depth + 1) (t :: behind) e := by
  obtain ⟨kind, text⟩ := Lexeme.role_eq_operator_iff.mp role
  rcases integer_error locates h with inner | ⟨found, other, rfl⟩
  · exact (inner.of_suffix suffix).inside t
  · rw [← text]
    exact .here (.operand kind other) nofun

theorem fold_error (tokens : List Token) (total : Int64) {e : EvalError}
    (h : ((within depth).fold total tokens).result = .error e) : Located (depth + 1) tokens e := by
  induction tokens, total using block_induction (r := within depth) with
  | nil total =>
    rw [fold_nil] at h
    cases h
    exact .inl rfl
  | closing t behind total role =>
    rw [fold_closing role] at h
    cases h
  | operator t behind total op role ih =>
    rw [fold_operator role] at h
    rcases Logged.result_bind_eq_error_iff.mp h with failed | ⟨⟨n, rest⟩, read, h⟩
    · exact operand_error locates role List.suffix_rfl failed
    · rcases Logged.result_bind_eq_error_iff.mp h with failed | ⟨sum, -, h⟩
      · obtain ⟨blames, shallow⟩ := blames_of_apply role failed
        exact .here blames shallow
      · have suffix : rest <:+ behind := suffix_of_read (integer_eq_ok read)
        exact (ih n rest sum read h).of_suffix (suffix.trans (List.suffix_cons t behind))
  | other t behind total closes operates =>
    rw [fold_other closes operates] at h
    cases h
    exact .inl rfl

/-- One level of phrases around phrases whose errors are located. -/
theorem phrase_error {tokens : List Token} {e : EvalError}
    (h : ((within depth).phrase tokens).result = .error e) : Located (depth + 1) tokens e := by
  cases tokens with
  | nil =>
    cases h
    exact .inl rfl
  | cons t behind =>
    cases role : t.role with
    | call name =>
      obtain ⟨kind, rfl⟩ := Lexeme.role_eq_call_iff.mp role
      rw [phrase_call role] at h
      cases found : Builtin.find? t.text with
      | none =>
        rw [found] at h
        cases h
        refine .here (.unrecognized kind fun b known => ?_) nofun
        rw [Builtin.find?_eq_some_iff.mpr known] at found
        cases found
      | some function =>
        rw [found] at h
        rcases Logged.result_bind_eq_error_iff.mp h with failed | ⟨⟨v, rest⟩, -, h⟩
        · exact (locates behind e failed).inside t
        · cases function
          cases h
    | operator op =>
      rw [phrase_operator role] at h
      rcases Logged.result_bind_eq_error_iff.mp h with failed | ⟨⟨l, middle⟩, read, h⟩
      · exact operand_error locates role List.suffix_rfl failed
      rcases Logged.result_bind_eq_error_iff.mp h with failed | ⟨⟨r, rest⟩, -, h⟩
      · exact operand_error locates role (suffix_of_read (integer_eq_ok read)) failed
      rcases Logged.result_bind_eq_error_iff.mp h with failed | ⟨n, -, h⟩
      · obtain ⟨blames, shallow⟩ := blames_of_apply role failed
        exact .here blames shallow
      · cases h
    | opening =>
      rw [phrase_opening role] at h
      rcases Logged.result_bind_eq_error_iff.mp h with failed | ⟨⟨n, middle⟩, read, h⟩
      · rcases integer_error locates failed with inner | ⟨found, other, rfl⟩
        · exact inner.inside t
        · exact .here (.firstOperand (Lexeme.role_eq_opening_iff.mp role) other) nofun
      rcases Logged.result_bind_eq_error_iff.mp h with failed | ⟨⟨total, rest⟩, -, h⟩
      · have suffix : middle <:+ behind := suffix_of_read (integer_eq_ok read)
        exact (fold_error locates middle n failed).of_suffix
          (suffix.trans (List.suffix_cons t behind))
      · cases h
    | text content =>
      rw [phrase_text role] at h
      cases h
    | number numeral =>
      rw [phrase_number role] at h
      rcases Logged.result_bind_eq_error_iff.mp h with failed | ⟨n, -, h⟩
      · obtain ⟨blames, shallow⟩ := blames_of_literal role failed
        exact .here blames shallow
      · cases h
    | closing =>
      rw [phrase_idle (.inl role)] at h
      cases h
    | idle =>
      rw [phrase_idle (.inr role)] at h
      cases h

end Phrases

theorem within_locates (depth : Nat) : (within depth).Locates depth := by
  induction depth with
  | zero =>
    intro tokens e h
    cases tokens with
    | nil =>
      cases h
      exact .inl rfl
    | cons t behind =>
      cases h
      exact .inr ⟨[], t, behind, rfl, .tooDeep, fun _ => Nat.zero_le _⟩
  | succ depth ih => exact fun _ _ h => phrase_error ih h

end Reader

theorem run_error {tokens : List Token} {e : EvalError} (h : (run tokens).result = .error e) :
    Located maxNesting tokens e := by
  induction tokens using run.induct with
  | case1 =>
    rw [run_nil] at h
    cases h
  | case2 t behind ih =>
    rw [run_cons] at h
    rcases Logged.result_bind_eq_error_iff.mp h with failed | ⟨⟨v, rest⟩, read, h⟩
    · exact Reader.within_locates maxNesting _ e failed
    rcases Logged.result_bind_eq_error_iff.mp h with failed | ⟨w, -, h⟩
    · exact (ih v rest read failed).of_suffix (Reader.suffix_of_read read)
    · cases h

/-! ### Positions -/

/-- The error of phrases from `index` on blames token number `position`, and if it says that one of
the phrases is too deep, the token stands at least that many tokens further on. -/
structure PointsTo (tokens : List Token) (index : Nat) (e : EvalError) (position : Nat)
    (t : Token) : Prop where
  token : tokens[position]? = some t
  behind : index ≤ position
  blames : e.Blames t
  deep : e.IsTooDeep → index + maxNesting ≤ position

theorem Located.exists_pointsTo {tokens : List Token} {index : Nat} {e : EvalError}
    (h : Located maxNesting (tokens.drop index) e) (more : e ≠ .ranOutOfCode) :
    ∃ position t, PointsTo tokens index e position t := by
  rcases h with none | ⟨front, t, rest, whole, blames, deep⟩
  · exact absurd none more
  have token : tokens[index + front.length]? = some t := by
    rw [← List.getElem?_drop, whole]
    simp
  refine ⟨index + front.length, t, token, by omega, blames, fun too => ?_⟩
  have := deep too
  omega

theorem PointsTo.exists_standsBehind {text : String} {lexed : Lexed} {index position : Nat}
    {e : EvalError} {t : Token} (h : PointsTo lexed.tokens index e position t)
    (lexes : (Lexing.ofText text).result = .ok lexed) :
    ∃ front, StandsBehind text front position t.toLexeme ∧ t.line = 1 + front.count '\n' := by
  have tokens : (Lexing.ofText text).tokens = lexed.tokens :=
    congrArg Lexing.tokens (Lexing.eq_of_result lexes)
  exact exists_standsBehind_of_token (tokens ▸ h.token)

theorem evaluateAt_error {tokens : List Token} {index : Nat} {e : EvalError}
    (h : (evaluateAt tokens index).result = .error e) :
    Located maxNesting (tokens.drop index) e := by
  rcases Logged.result_bind_eq_error_iff.mp h with failed | ⟨⟨v, rest⟩, -, h⟩
  · exact Reader.within_locates maxNesting _ e failed
  · cases h

/-- Every error but that of missing tokens points to its cause.  If the evaluation at a position
fails, some token from there on has the reported line and is what the error says: an unknown name, a
text that denotes no 64-bit integer, an operator that divides, the operator that overflowed, or the
operator or opening token whose operand was a text or empty; a phrase too deep stands at least
`maxNesting` tokens further on.  The same holds of a script from its first token on, and if the
tokens are those of a text, the token stands there on the reported line. -/
theorem errors_point_to_causes :
    (∀ (tokens : List Token) (index : Nat) (e : EvalError),
      (evaluateAt tokens index).result = .error e → e ≠ .ranOutOfCode →
        ∃ position t, PointsTo tokens index e position t) ∧
    (∀ (tokens : List Token) (e : EvalError),
      (run tokens).result = .error e → e ≠ .ranOutOfCode →
        ∃ position t, PointsTo tokens 0 e position t) ∧
    ∀ (text : String) (lexed : Lexed) (e : EvalError), (Lexing.ofText text).result = .ok lexed →
      (run lexed.tokens).result = .error e → e ≠ .ranOutOfCode →
        ∃ position t front, PointsTo lexed.tokens 0 e position t ∧
          StandsBehind text front position t.toLexeme ∧ t.line = 1 + front.count '\n' := by
  have script (tokens : List Token) (e : EvalError) (h : (run tokens).result = .error e)
      (more : e ≠ .ranOutOfCode) : ∃ position t, PointsTo tokens 0 e position t := by
    have located : Located maxNesting (tokens.drop 0) e := run_error h
    exact located.exists_pointsTo more
  refine ⟨fun tokens index e h more => (evaluateAt_error h).exists_pointsTo more, script, ?_⟩
  intro text lexed e lexes h more
  obtain ⟨position, t, points⟩ := script lexed.tokens e h more
  obtain ⟨front, stands, line⟩ := points.exists_standsBehind lexes
  exact ⟨position, t, front, points, stands, line⟩

/-- An unknown name behind a number is found where it stands.  In a script with a comment on its
first line, the operator of `/ 2 'b'` is blamed for the text in the place of an integer, on the
second line. -/
theorem errors_point_to_name_and_operator :
    (∃ position t, PointsTo [⟨⟨.number, "2"⟩, 1⟩, ⟨⟨.reference, "lo"⟩, 4⟩] 1
      (.unrecognizedReference "lo" 4) position t) ∧
    ∃ lexed position t front, (Lexing.ofText "# a\n/ 2 'b'").result = .ok lexed ∧
      PointsTo lexed.tokens 0 (.typeMismatch "/" .text 2) position t ∧
      StandsBehind "# a\n/ 2 'b'" front position t.toLexeme ∧ t.line = 1 + front.count '\n' := by
  have lexes : (Lexing.ofText "# a\n/ 2 'b'").result =
      .ok ⟨[⟨⟨.arithmetic, "/"⟩, 2⟩, ⟨⟨.number, "2"⟩, 2⟩, ⟨⟨.string, "b"⟩, 2⟩], 1⟩ := by
    decide +kernel
  have fails : (run [⟨⟨.arithmetic, "/"⟩, 2⟩, ⟨⟨.number, "2"⟩, 2⟩, ⟨⟨.string, "b"⟩, 2⟩]).result =
      .error (.typeMismatch "/" .text 2) := by
    rw [run_cons]
    rfl
  refine ⟨errors_point_to_causes.1 _ 1 _ rfl (by simp), ?_⟩
  obtain ⟨position, t, front, points, stands, line⟩ :=
    errors_point_to_causes.2.2 _ _ _ lexes fails (by simp)
  exact ⟨_, position, t, front, lexes, points, stands, line⟩

end Abacus
