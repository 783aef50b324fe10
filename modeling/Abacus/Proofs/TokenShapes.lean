import Abacus.Proofs.Causes
import Abacus.Proofs.Resumption
import Abacus.Proofs.Writing

/-! The tokens that readings give, and what evaluation never meets in them.  Whatever a scanner has
read before, each token that it gives has the shape of its kind.  An arithmetic operator is therefore
one that evaluation knows, and a number is a run of digits.  What evaluation does with operators that
it does not know is then of no consequence: evaluation on the tokens of a text stays the same
whatever is done in that place.  And the only bad literals are numbers that are too large. -/

namespace Abacus

/-! ### The shape of every token read -/

namespace Cursor

theorem isShaped_of_next {s behind : Cursor} {t : Token} (h : s.next = (.ok (some t), behind)) :
    t.isShaped = true := by
  cases here : s.skipTrivia.rest with
  | nil =>
    rw [next_end here] at h
    cases h
  | cons c cs =>
    rw [next_cut here] at h
    cases found : (Cut.first c cs).found with
    | error e =>
      rw [found] at h
      cases h
    | ok l =>
      rw [found] at h
      cases h
      exact (Cut.first_spelled found).isShaped

theorem isShaped_of_readMany {n : Nat} {s : Cursor} {t : Token}
    (h : .ok (some t) ∈ (s.readMany n).1) : t.isShaped = true := by
  induction n generalizing s with
  | zero => cases h
  | succ n ih =>
    rcases List.mem_cons.mp h with first | later
    · exact isShaped_of_next (Prod.ext first.symm rfl)
    · exact ih later

theorem isShaped_of_lex (s : Cursor) : ∀ t ∈ s.lex.tokens, t.isShaped = true := by
  intro t member
  match outcome : s.next with
  | (.ok (some first), behind) =>
    have shorter := length_next_lt outcome
    rw [lex_token outcome] at member
    rcases List.mem_cons.mp member with rfl | later
    · exact isShaped_of_next outcome
    · exact isShaped_of_lex behind t later
  | (.ok none, last) =>
    rw [lex_end outcome] at member
    cases member
  | (.error e, last) =>
    rw [lex_failure outcome] at member
    cases member
termination_by s.rest.length

end Cursor

/-- What evaluation may rely on in a lexeme. -/
structure Lexeme.WellFormed (l : Lexeme) : Prop where
  arithmetic : l.kind = .arithmetic → ∃ op, Operator.ofSymbol? l.text = some op
  /-- Of the other kinds only a string may look like an operator. -/
  other : l.kind ≠ .arithmetic → l.kind ≠ .string → Operator.ofSymbol? l.text = none
  number : l.kind = .number → Numeral.IsDigits l.text.toList
  reference : l.kind = .reference →
    l.text.toList ≠ [] ∧ ∀ c ∈ l.text.toList, Unicode.isAlphabetic c = true
  string : l.kind = .string → '\x27' ∉ l.text.toList ∨ '\x22' ∉ l.text.toList

/-- The tables and evaluation agree on which spellings are operators on integers. -/
theorem Kind.isSome_ofSymbol?_of_mem_spellings (kind : Kind) :
    ∀ text ∈ kind.spellings, (Operator.ofSymbol? text).isSome = decide (kind = .arithmetic) := by
  cases kind <;> decide

theorem Operator.ofSymbol?_eq_none_of_run {p : Char → Bool}
    (apart : ∀ op : Operator, op.symbol.toList.any p = false) {text : String}
    (full : text.toList ≠ []) (run : ∀ c ∈ text.toList, p c = true) : ofSymbol? text = none := by
  cases known : ofSymbol? text with
  | none => rfl
  | some op =>
    rw [ofSymbol?_eq_some_iff.mp known] at full run
    obtain ⟨c, member⟩ := List.exists_mem_of_ne_nil _ full
    exact absurd (run c member) (List.any_eq_false.mp (apart op) c member)

theorem Lexeme.wellFormed_of_isShaped {l : Lexeme} (h : l.isShaped = true) : l.WellFormed := by
  obtain ⟨kind, text⟩ := l
  have table (known : text ∈ kind.spellings) :=
    kind.isSome_ofSymbol?_of_mem_spellings text known
  have digits (number : kind = .number) : Numeral.IsDigits text.toList := by
    subst number
    simpa [isShaped, Numeral.IsDigits] using h
  have letters (reference : kind = .reference) :
      text.toList ≠ [] ∧ ∀ c ∈ text.toList, Unicode.isAlphabetic c = true := by
    subst reference
    simpa [isShaped] using h
  refine ⟨fun arithmetic => ?_, fun other quoted => ?_, digits, letters, fun string => ?_⟩
  · cases arithmetic
    exact Option.isSome_iff_exists.mp (table (of_decide_eq_true h))
  · cases kind with
    | arithmetic => exact absurd rfl other
    | string => exact absurd rfl quoted
    | number =>
      have apart (op : Operator) : op.symbol.toList.any Char.isDigit = false := by
        cases op <;> decide
      exact Operator.ofSymbol?_eq_none_of_run apart (digits rfl).1 (digits rfl).2
    | reference =>
      have apart (op : Operator) : op.symbol.toList.any Unicode.isAlphabetic = false := by
        cases op <;> decide
      exact Operator.ofSymbol?_eq_none_of_run apart (letters rfl).1 (letters rfl).2
    | _ => simpa using table (of_decide_eq_true h)
  · cases string
    simpa [isShaped] using h

theorem wellFormed_of_lexed {text : String} {lexed : Lexed}
    (lexes : (Lexing.ofText text).result = .ok lexed) : ∀ t ∈ lexed.tokens, t.WellFormed := by
  intro t member
  have tokens : (Lexing.ofText text).tokens = lexed.tokens :=
    congrArg Lexing.tokens (Lexing.eq_of_result lexes)
  rw [← tokens] at member
  exact Lexeme.wellFormed_of_isShaped (Cursor.isShaped_of_lex _ t member)

/-! ### Operators of unknown spelling -/

/-- The lexeme is filed as an arithmetic operator, and no operator is spelled so. -/
def Lexeme.IsUnknownOperator (l : Lexeme) : Prop :=
  l.kind = .arithmetic ∧ Operator.ofSymbol? l.text = none

instance (l : Lexeme) : Decidable l.IsUnknownOperator := inferInstanceAs (Decidable (_ ∧ _))

theorem Lexeme.WellFormed.not_isUnknownOperator {l : Lexeme} (h : l.WellFormed) :
    ¬l.IsUnknownOperator := by
  rintro ⟨kind, unknown⟩
  obtain ⟨op, known⟩ := h.arithmetic kind
  rw [known] at unknown
  cases unknown

namespace Reader

/-- The reader of phrases around `r` that hands over to `fallback` where a phrase starts with an
operator of unknown spelling. -/
def divert (r fallback : Reader) : Reader where
  read
    | [] => r.phrase []
    | t :: behind =>
      if t.IsUnknownOperator then fallback.read (t :: behind) else r.phrase (t :: behind)
  shorter {tokens _ _} h := by
    cases tokens with
    | nil => exact length_phrase_lt h
    | cons t behind =>
      simp only at h
      split at h
      · exact fallback.shorter h
      · exact length_phrase_lt h

/-- Reads as `within` does, but hands phrases over to `fallback`. -/
def diverting (fallback : Reader) : (depth : Nat) → Reader
  | 0 => tooDeep
  | depth + 1 => (diverting fallback depth).divert fallback

/-- Where no operator is unknown, the fallback makes no difference. -/
theorem diverting_read (fallback : Reader) (depth : Nat) {tokens : List Token}
    (known : ∀ t ∈ tokens, ¬t.IsUnknownOperator) :
    (diverting fallback depth).read tokens = (within depth).read tokens := by
  induction depth generalizing tokens with
  | zero => rfl
  | succ depth ih =>
    cases tokens with
    | nil => rfl
    | cons t behind =>
      obtain ⟨first, later⟩ := List.forall_mem_cons.mp known
      have keeps : (within depth).Keeps fun list => ∀ t ∈ list, ¬t.IsUnknownOperator := by
        refine ⟨fun known => (List.forall_mem_cons.mp known).2, fun known read t member => ?_⟩
        exact known t ((suffix_of_read read).mem member)
      calc (diverting fallback (depth + 1)).read (t :: behind)
          = (diverting fallback depth).phrase (t :: behind) := if_neg first
        _ = (within depth).phrase (t :: behind) :=
          (phrase_congr keeps (fun _ known => (ih known).symm) t later).symm

end Reader

/-- Evaluates the phrase that starts at position `index` as `evaluateAt` does, but hands over to
`fallback` wherever a phrase starts with an operator of unknown spelling. -/
def evaluateDivertingAt (fallback : Reader) (tokens : List Token) (index : Nat) :
    Logged EvalError (Value × Nat) := do
  let (v, rest) ← (Reader.diverting fallback maxNesting).read (tokens.drop index)
  return (v, tokens.length - rest.length)

theorem evaluateDivertingAt_eq (fallback : Reader) {tokens : List Token}
    (known : ∀ t ∈ tokens, ¬t.IsUnknownOperator) (index : Nat) :
    evaluateDivertingAt fallback tokens index = evaluateAt tokens index := by
  have here : ∀ t ∈ tokens.drop index, ¬t.IsUnknownOperator :=
    fun t member => known t (List.mem_of_mem_drop member)
  rw [evaluateDivertingAt, Reader.diverting_read fallback maxNesting here]
  rfl

/-! ### Bad literals -/

/-- Among well-formed tokens a number is a bad literal only if it is too large. -/
theorem badLiteral_of_evaluateAt {tokens : List Token} (formed : ∀ t ∈ tokens, t.WellFormed)
    {index : Nat} {numeral : String} {line : Nat}
    (h : (evaluateAt tokens index).result = .error (.badLiteral numeral line)) :
    ⟨⟨.number, numeral⟩, line⟩ ∈ tokens ∧ Numeral.IsDigits numeral.toList ∧
      2 ^ 63 - 1 < Numeral.decimal numeral.toList := by
  rcases evaluateAt_error h with none | ⟨front, t, rest, split, blames, -⟩
  · cases none
  have member : t ∈ tokens := by
    refine List.mem_of_mem_drop (i := index) ?_
    rw [split]
    exact List.mem_append_right front List.mem_cons_self
  obtain ⟨⟨kind, text⟩, line⟩ := t
  cases blames with
  | badLiteral number bad =>
    cases number
    have digits := (formed _ member).number rfl
    refine ⟨member, digits, ?_⟩
    show 2 ^ 63 - 1 < Numeral.decimal text.toList
    refine Nat.lt_of_not_le fun small => bad ⟨_, .unsigned digits, ?_⟩
    show IsWord (Numeral.decimal text.toList)
    unfold IsWord
    omega

/-- The tokens of a text keep evaluation to the operators that it knows.  However often a scanner of
a text has been asked for a token, and whatever came of it, each token that it gave is well formed.
Hence, if a text has tokens, their evaluation at any position never comes to an operator of unknown
spelling, so that it is the same whatever is done there; and it fails with a bad literal only for a
run of digits that exceeds the largest word. -/
theorem readings_avoid_fallbacks :
    (∀ (text : String) (n : Nat), ∃ outcomes s,
      (Scanner.ofChars text.toList).readMany n = some (outcomes, s) ∧
      (Cursor.ofText text).readMany n = (outcomes, s.cursor) ∧
      ∀ t, .ok (some t) ∈ outcomes → t.WellFormed) ∧
    ∀ (text : String) (lexed : Lexed), (Lexing.ofText text).result = .ok lexed → ∀ index,
      (∀ fallback,
        evaluateDivertingAt fallback lexed.tokens index = evaluateAt lexed.tokens index) ∧
      ∀ numeral line,
        (evaluateAt lexed.tokens index).result = .error (.badLiteral numeral line) →
        ⟨⟨.number, numeral⟩, line⟩ ∈ lexed.tokens ∧ Numeral.IsDigits numeral.toList ∧
          2 ^ 63 - 1 < Numeral.decimal numeral.toList := by
  refine ⟨fun text n => ?_, fun text lexed lexes index => ?_⟩
  · obtain ⟨s, read, cursor⟩ := (Scanner.ofChars text.toList).moves_readMany n
    have same : (Scanner.ofChars text.toList).cursor = Cursor.ofText text := rfl
    refine ⟨_, s, read, by rw [cursor, same], fun t member => ?_⟩
    exact Lexeme.wellFormed_of_isShaped (Cursor.isShaped_of_readMany member)
  · have formed := wellFormed_of_lexed lexes
    refine ⟨fun fallback => ?_, fun numeral line => badLiteral_of_evaluateAt formed⟩
    exact evaluateDivertingAt_eq fallback
      (fun t member => (formed t member).not_isUnknownOperator) index

/-- Behind a character at fault the scanner of `~ ** '+'` gives an operator and a string that looks
like one.  The tokens of `+ 1 9223372036854775808` are evaluated alike with any fallback, and the
second number is a bad literal because it is too large.  The operator `//`, which no text has for a
token, does go to the fallback. -/
theorem readings_avoid_fallbacks_of_samples :
    (∃ outcomes s, (Scanner.ofChars "~ ** '+'".toList).readMany 3 = some (outcomes, s) ∧
      outcomes = [.error (.invalidCharacter '~'), .ok (some ⟨⟨.arithmetic, "**"⟩, 1⟩),
        .ok (some ⟨⟨.string, "+"⟩, 1⟩)] ∧
      ∀ t, .ok (some t) ∈ outcomes → t.WellFormed) ∧
    ∃ lexed, (Lexing.ofText "+ 1 9223372036854775808").result = .ok lexed ∧
      (∀ fallback, evaluateDivertingAt fallback lexed.tokens 0 = evaluateAt lexed.tokens 0) ∧
      (evaluateAt lexed.tokens 0).result = .error (.badLiteral "9223372036854775808" 1) ∧
      2 ^ 63 - 1 < Numeral.decimal "9223372036854775808".toList ∧
      evaluateAt [⟨⟨.arithmetic, "//"⟩, 3⟩] 0 = ⟨[], .ok (.empty, 1)⟩ ∧
      evaluateDivertingAt .tooDeep [⟨⟨.arithmetic, "//"⟩, 3⟩] 0 =
        ⟨[], .error (.nestingTooDeep 3)⟩ := by
  have lexes : (Lexing.ofText "+ 1 9223372036854775808").result =
      .ok ⟨[⟨⟨.arithmetic, "+"⟩, 1⟩, ⟨⟨.number, "1"⟩, 1⟩,
        ⟨⟨.number, "9223372036854775808"⟩, 1⟩], 0⟩ := by
    decide +kernel
  have fails : (evaluateAt [⟨⟨.arithmetic, "+"⟩, 1⟩, ⟨⟨.number, "1"⟩, 1⟩,
      ⟨⟨.number, "9223372036854775808"⟩, 1⟩] 0).result =
      .error (.badLiteral "9223372036854775808" 1) := by
    rfl
  obtain ⟨outcomes, s, read, cursor, formed⟩ := readings_avoid_fallbacks.1 "~ ** '+'" 3
  obtain ⟨indifferent, large⟩ := readings_avoid_fallbacks.2 _ _ lexes 0
  refine ⟨⟨outcomes, s, read, ?_, formed⟩, _, lexes, indifferent, fails, (large _ _ fails).2.2,
    rfl, rfl⟩
  exact (congrArg Prod.fst cursor).symm.trans (by decide +kernel)

end Abacus
