import Abacus.Proofs.LexicalGrammar

/-! The failures of the lexer.  Reading fails in front of a text that starts with no item, and there
are three such texts: one that starts with a character that starts no item at all, a string without
its closing quote, and the first character of an operator with nothing behind it.  What stands in
front of the failure has a layout, whose tokens are traced, and the newlines in it or in the whole
text give the place of the failure. -/

namespace Abacus

/-! ### The cuts that fail -/

namespace Cut

theorem string_error {q : Char} {cs : List Char} {e : LexError}
    (h : (string q cs).found = .error e) :
    e = .unterminatedString ∧ string q cs = ⟨.error e, q :: cs, []⟩ ∧ q ∉ cs := by
  have whole := List.takeWhile_append_dropWhile (p := (· != q)) (l := cs)
  unfold string at h ⊢
  cases behind : cs.dropWhile (· != q) with
  | cons close rest =>
    simp only [behind] at h
    cases h
  | nil =>
    simp only [behind] at h ⊢
    cases h
    rw [behind, List.append_nil] at whole
    refine ⟨rfl, by rw [whole], fun member => ?_⟩
    rw [← whole] at member
    have differs := List.all_eq_true.mp List.all_takeWhile q member
    simp at differs

theorem operator_error {p : Pairing} {c : Char} {cs : List Char} {e : LexError}
    (h : (operator p c cs).found = .error e) :
    e = .unexpectedEnd c ∧ operator p c cs = ⟨.error e, [c], []⟩ ∧ cs = [] := by
  cases cs with
  | nil => cases h; exact ⟨rfl, rfl, rfl⟩
  | cons d rest => cases pairs : p.kind? d <;> simp [operator, pairs] at h

/-- A cut fails at a character of no class, at a string that is not closed, or at an operator with
nothing behind it. -/
theorem first_error {c : Char} {cs : List Char} {e : LexError}
    (h : (first c cs).found = .error e) :
    (e = .invalidCharacter c ∧ first c cs = ⟨.error e, [c], cs⟩ ∧
      ∀ ds, (first c ds).found = .error (.invalidCharacter c)) ∨
    (e = .unterminatedString ∧ first c cs = ⟨.error e, c :: cs, []⟩ ∧ isQuote c = true ∧ c ∉ cs) ∨
    (e = .unexpectedEnd c ∧ first c cs = ⟨.error e, [c], []⟩ ∧ cs = [] ∧
      ∃ p, pairing? c = some p) := by
  unfold first at h ⊢
  cases quote : isQuote c with
  | true =>
    simp only [quote, if_true] at h ⊢
    obtain ⟨cause, cut, free⟩ := string_error h
    exact .inr (.inl ⟨cause, cut, trivial, free⟩)
  | false =>
    cases starts : pairing? c with
    | some p =>
      simp only [quote, starts] at h ⊢
      obtain ⟨cause, cut, last⟩ := operator_error h
      exact .inr (.inr ⟨cause, cut, last, p, rfl⟩)
    | none =>
      refine .inl ?_
      cases mark : mark? c with
      | some kind => simp [quote, starts, mark] at h
      | none =>
        cases digit : c.isDigit with
        | true => simp [quote, starts, mark, digit, run] at h
        | false =>
          cases letter : Unicode.isAlphabetic c with
          | true => simp [quote, starts, mark, digit, letter, run] at h
          | false =>
            simp only [quote, starts, mark, digit, letter, Bool.false_eq_true, if_false] at h ⊢
            cases h
            exact ⟨rfl, rfl, fun _ => trivial⟩

end Cut

/-! ### Where reading stops -/

/-- Behind the text `front`, reading stops with the failure in front of the text `rest`. -/
inductive Stops (front : List Char) : LexFailure → (rest : List Char) → Prop where
  /-- The first character starts no item. -/
  | invalidCharacter {c : Char} {rest : List Char}
    (starts : ∀ (item : Item) after, item.Fits after → item.text.head? ≠ some c) :
    Stops front ⟨front.count '\n', .invalidCharacter c⟩ (c :: rest)
  /-- A string runs to the end of the text without its closing quote. -/
  | unterminatedString {q : Char} {body : List Char} (quote : q ∈ quoteTable) (free : q ∉ body) :
    Stops front ⟨(front ++ q :: body).count '\n', .unterminatedString⟩ (q :: body)
  /-- The text ends right behind the first character of an operator. -/
  | unexpectedEnd {c : Char}
    (starts : c ∈ ['<', '>', '=', '!', '&', '|', '^', '+', '-', '*', '%', '/']) :
    Stops front ⟨(front ++ [c]).count '\n', .unexpectedEnd c⟩ [c]

theorem mem_starters_iff {c : Char} :
    c ∈ ['<', '>', '=', '!', '&', '|', '^', '+', '-', '*', '%', '/'] ↔
      ∃ p, pairing? c = some p := by
  unfold pairing?
  split <;> simp_all

theorem firstItem_cons_eq_none_iff {c : Char} {cs : List Char} :
    firstItem (c :: cs) = none ↔
      isBlank c = false ∧ c ≠ '#' ∧ ∃ e, (Cut.first c cs).found = .error e := by
  rw [firstItem]
  cases blank : isBlank c with
  | true => simp
  | false =>
    by_cases sign : c = '#'
    · simp only [sign]
      cases cs.dropWhile (· != '\n') <;> simp
    · cases found : (Cut.first c cs).found <;> simp [sign]

/-- A failing cut is the failure of the reading that comes to it. -/
theorem lex_of_cut {c : Char} {cs spelling rest : List Char} {e : LexError}
    (blank : isBlank c = false) (sign : c ≠ '#') (cut : Cut.first c cs = ⟨.error e, spelling, rest⟩)
    (lines : Nat) :
    (⟨c :: cs, lines⟩ : Cursor).lex = ⟨[], .error ⟨lines + spelling.count '\n', e⟩⟩ := by
  have stuck := firstItem_cons_eq_none_iff.mpr ⟨blank, sign, e, congrArg Cut.found cut⟩
  obtain ⟨e', found, failure⟩ := Cursor.lex_stuck stuck lines
  rw [cut] at found failure
  cases found
  exact failure

/-- A character that starts no item is found to be invalid. -/
theorem invalid_of_no_item {c : Char}
    (starts : ∀ (item : Item) after, item.Fits after → item.text.head? ≠ some c)
    (rest : List Char) :
    isBlank c = false ∧ c ≠ '#' ∧
      Cut.first c rest = ⟨.error (.invalidCharacter c), [c], rest⟩ := by
  have stuck : firstItem (c :: rest) = none := by
    rw [Option.eq_none_iff_forall_ne_some]
    rintro ⟨item, after⟩ first
    obtain ⟨text, fits⟩ := fits_of_firstItem first
    obtain ⟨d, ds, spelled⟩ := List.exists_cons_of_ne_nil (Item.text_ne_nil fits)
    rw [spelled, List.cons_append] at text
    cases text
    exact starts item after fits (by rw [spelled]; rfl)
  obtain ⟨blank, sign, e, found⟩ := firstItem_cons_eq_none_iff.mp stuck
  rcases Cut.first_error found with ⟨rfl, cut, -⟩ | ⟨-, -, quote, -⟩ | ⟨-, -, -, p, pairing⟩
  · exact ⟨blank, sign, cut⟩
  · -- A quote starts the empty string.
    have fits : (Item.lexeme ⟨.string, String.ofList []⟩ [c, c]).Fits [] :=
      @Spelled.string c [] [] (isQuote_iff.mp quote) (by simp)
    exact absurd rfl (starts _ [] fits)
  · -- An operator stands alone in front of a blank.
    have differs : p.kind? ' ' = none := by
      unfold pairing? at pairing
      split at pairing <;> cases pairing <;> rfl
    have fits : (Item.lexeme ⟨p.alone, String.ofList [c]⟩ [c]).Fits [' '] :=
      .alone (mem_singleTable_iff.mpr ⟨p, pairing, rfl⟩)
        ((forall_not_mem_doubleTable_iff pairing).mpr differs)
    exact absurd rfl (starts _ [' '] fits)

theorem no_item_of_invalid {c : Char} (blank : isBlank c = false) (sign : c ≠ '#')
    (invalid : ∀ rest, (Cut.first c rest).found = .error (.invalidCharacter c)) (item : Item)
    (after : List Char) (fits : item.Fits after) : item.text.head? ≠ some c := by
  intro head
  obtain ⟨ds, spelled⟩ := List.head?_eq_some_iff.mp head
  have first := firstItem_of_fits fits
  rw [spelled, List.cons_append,
    firstItem_cons_eq_none_iff.mpr ⟨blank, sign, _, invalid (ds ++ after)⟩] at first
  cases first

/-- Reading fails where it stops. -/
theorem lex_of_stops {front rest : List Char} {failure : LexFailure}
    (h : Stops front failure rest) :
    (⟨rest, front.count '\n'⟩ : Cursor).lex = ⟨[], .error failure⟩ := by
  cases h with
  | @invalidCharacter c rest starts =>
    obtain ⟨blank, sign, cut⟩ := invalid_of_no_item starts rest
    have newline : c ≠ '\n' := by
      rintro rfl
      cases cut
    rw [lex_of_cut blank sign cut]
    simp [newline]
  | @unterminatedString q body quote free =>
    have other : isBlank q = false ∧ q ≠ '#' := by
      simp only [quoteTable, List.mem_cons, List.not_mem_nil, or_false] at quote
      rcases quote with rfl | rfl <;> decide
    have run : ∀ d ∈ body, (d != q) = true := fun d member => bne_iff_ne.mpr fun same =>
      free (same ▸ member)
    have cut : Cut.first q body = ⟨.error .unterminatedString, q :: body, []⟩ := by
      have whole := @takeWhile_append_stop _ body [] run (by simp)
      rw [List.append_nil] at whole
      simp [Cut.first, isQuote_iff.mpr quote, Cut.string, whole.1, whole.2]
    rw [lex_of_cut other.1 other.2 cut, List.count_append]
  | @unexpectedEnd c starts =>
    obtain ⟨p, pairing⟩ := mem_starters_iff.mp starts
    have other : isBlank c = false ∧ c ≠ '#' := by
      simp only [List.mem_cons, List.not_mem_nil, or_false] at starts
      rcases starts with rfl | rfl | rfl | rfl | rfl | rfl | rfl | rfl | rfl | rfl | rfl | rfl <;>
        decide
    have cut : Cut.first c [] = ⟨.error (.unexpectedEnd c), [c], []⟩ := by
      simp [Cut.first, isQuote_eq_false_of_pairing pairing, pairing, Cut.operator]
    rw [lex_of_cut other.1 other.2 cut, List.count_append]

/-- Reading stops in front of every text that starts with no item. -/
theorem exists_stops {c : Char} {cs : List Char} (h : firstItem (c :: cs) = none)
    (front : List Char) : ∃ failure, Stops front failure (c :: cs) := by
  obtain ⟨blank, sign, e, found⟩ := firstItem_cons_eq_none_iff.mp h
  rcases Cut.first_error found with ⟨-, -, invalid⟩ | ⟨-, -, quote, free⟩ | ⟨-, -, rfl, pairing⟩
  · exact ⟨_, .invalidCharacter (no_item_of_invalid blank sign invalid)⟩
  · exact ⟨_, .unterminatedString (isQuote_iff.mp quote) free⟩
  · exact ⟨_, .unexpectedEnd (mem_starters_iff.mpr pairing)⟩

/-! ### Failures -/

/-- In front of more text, every comment has its newline. -/
theorem lastComment_not_mem {items : List Item} {after : List Char} (h : Layout items after)
    (more : after ≠ []) (body : List Char) : Item.lastComment body ∉ items := by
  induction items with
  | nil => simp
  | cons item items ih =>
    obtain ⟨fits, rest⟩ := h
    rintro (_ | ⟨_, member⟩)
    · exact more (List.append_eq_nil_iff.mp fits.2).2
    · exact ih rest member

theorem ofText_of_stops {text : String} {items : List Item} {rest : List Char}
    {failure : LexFailure} (whole : textOf items ++ rest = text.toList) (layout : Layout items rest)
    (stops : Stops (textOf items) failure rest) :
    Lexing.ofText text = ⟨tokensOf items 0, .error failure⟩ := by
  rw [Lexing.ofText, Cursor.ofText, ← whole, lex_layout layout, Nat.zero_add, lex_of_stops stops]
  simp [Lexing.prepend]

/-- A text fails to lex exactly if it is laid out up to a place where reading stops.  The failure is
the one that stops reading there, and the trace shows the tokens in front of it. -/
theorem lexing_fails_iff_stops (text : String) (trace : List String) (failure : LexFailure) :
    (Lexing.ofText text).trace = trace ∧ (Lexing.ofText text).result = .error failure ↔
      ∃ items rest, textOf items ++ rest = text.toList ∧ rest ≠ [] ∧ Layout items rest ∧
        (∀ body, Item.lastComment body ∉ items) ∧
        trace = (tokensOf items 0).map Token.trace ∧ Stops (textOf items) failure rest := by
  constructor
  · rintro ⟨rfl, failed⟩
    obtain ⟨items, after, layout, whole, stuck⟩ := exists_layout text.toList
    cases after with
    | nil =>
      rw [List.append_nil] at whole
      rw [result_of_laysOut ⟨layout, whole⟩] at failed
      cases failed
    | cons c cs =>
      obtain ⟨found, stops⟩ := exists_stops stuck (textOf items)
      have lexing := ofText_of_stops whole layout stops
      have nonempty : c :: cs ≠ [] := List.cons_ne_nil c cs
      rw [lexing] at failed
      cases failed
      exact ⟨items, c :: cs, whole, nonempty, layout, lastComment_not_mem layout nonempty,
        by rw [lexing]; rfl, stops⟩
  · rintro ⟨items, rest, whole, -, layout, -, rfl, stops⟩
    rw [ofText_of_stops whole layout stops]
    exact ⟨rfl, rfl⟩

/-- The newline inside a string that is never closed counts, and the token in front of the string is
in the trace. -/
theorem lexing_fails_in_open_string :
    (Lexing.ofText "; 'a\nb").trace = ["InstructionEnd: ;"] ∧
      (Lexing.ofText "; 'a\nb").result = .error ⟨1, .unterminatedString⟩ := by
  have layout : Layout [.lexeme ⟨.instructionEnd, ";"⟩ [';'], .blank ' '] ['\'', 'a', '\n', 'b'] :=
    ⟨.mark (by decide), .head _, trivial⟩
  have free : '\'' ∉ ['a', '\n', 'b'] := by decide
  have stops : Stops [';', ' '] ⟨1, .unterminatedString⟩ ['\'', 'a', '\n', 'b'] :=
    .unterminatedString (.head _) free
  exact (lexing_fails_iff_stops _ _ _).mpr
    ⟨_, _, rfl, by decide, layout, by simp, by decide +kernel, stops⟩

end Abacus
