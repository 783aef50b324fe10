import Abacus.Layout
import Mathlib.Logic.ExistsUnique

/-! The lexer against the lexical grammar.  `firstItem` finds the item that a text starts with, and
finds it exactly if the item fits in front of the rest, so a text is laid out in one way at most.
Reading past an item takes its token, if it is a lexeme, and counts its newlines; so reading a whole
layout takes its lexemes in order.  Since reading also stops where no item fits, a text lexes exactly
if it has a layout. -/

namespace Abacus

/-! ### The first item of a text -/

/-- The item that a text starts with, and the text behind it.  A text that is empty or starts with
no lexeme has none. -/
def firstItem : List Char → Option (Item × List Char)
  | [] => none
  | c :: cs =>
    if isBlank c then some (.blank c, cs)
    else if c = '#' then
      match cs.dropWhile (· != '\n') with
      | [] => some (.lastComment cs, [])
      | _ :: after => some (.comment (cs.takeWhile (· != '\n')), after)
    else
      match (Cut.first c cs).found with
      | .ok l => some (.lexeme l (Cut.first c cs).spelling, (Cut.first c cs).rest)
      | .error _ => none

theorem found_of_trivia {c : Char} (h : isBlank c = true ∨ c = '#') (cs : List Char) :
    (Cut.first c cs).found = .error (.invalidCharacter c) := by
  simp only [isBlank, Bool.or_eq_true, decide_eq_true_eq] at h
  rcases h with ((rfl | rfl) | rfl) | rfl <;> rfl

theorem Spelled.cons {l : Lexeme} {spelling after : List Char} (h : Spelled l spelling after) :
    ∃ c cs, spelling ++ after = c :: cs ∧ isBlank c = false ∧ c ≠ '#' ∧
      Cut.first c cs = ⟨.ok l, spelling, after⟩ := by
  obtain ⟨c, cs, text, cut⟩ := Cut.first_of_spelled h
  have other : ¬(isBlank c = true ∨ c = '#') := by
    intro trivia
    have found := found_of_trivia trivia cs
    rw [cut] at found
    cases found
  rw [not_or, Bool.not_eq_true] at other
  exact ⟨c, cs, text, other.1, other.2, cut⟩

theorem all_ne_newline {body : List Char} (h : '\n' ∉ body) :
    ∀ d ∈ body, (d != '\n') = true := by
  intro d member
  rw [bne_iff_ne]
  rintro rfl
  exact h member

theorem newline_not_mem_takeWhile (cs : List Char) : '\n' ∉ cs.takeWhile (· != '\n') := by
  intro member
  have differs := List.all_eq_true.mp List.all_takeWhile '\n' member
  simp at differs

theorem firstItem_of_fits {item : Item} {after : List Char} (h : item.Fits after) :
    firstItem (item.text ++ after) = some (item, after) := by
  cases item with
  | blank c =>
    have blank := isBlank_iff.mpr h
    simp [Item.text, firstItem, blank]
  | comment body =>
    have stop : ∀ d ∈ ('\n' :: after).head?, (d != '\n') = false := by simp
    have cut := takeWhile_append_stop (all_ne_newline h) stop
    simp [Item.text, firstItem, isBlank, cut.1, cut.2]
  | lastComment body =>
    obtain ⟨free, rfl⟩ := h
    have stop : ∀ d ∈ ([] : List Char).head?, (d != '\n') = false := by simp
    have cut := takeWhile_append_stop (all_ne_newline free) stop
    rw [List.append_nil] at cut
    simp [Item.text, firstItem, isBlank, cut.2]
  | lexeme l spelling =>
    obtain ⟨c, cs, text, blank, sign, cut⟩ := Spelled.cons h
    rw [Item.text, text]
    simp [firstItem, blank, sign, cut]

theorem fits_of_firstItem {cs after : List Char} {item : Item}
    (h : firstItem cs = some (item, after)) : item.text ++ after = cs ∧ item.Fits after := by
  cases cs with
  | nil => cases h
  | cons c cs =>
    rw [firstItem] at h
    split at h
    · rename_i blank
      cases h
      exact ⟨rfl, isBlank_iff.mp blank⟩
    · split at h
      · rename_i sign
        subst sign
        -- A comment is cut at the first newline, if there is one.
        have whole := List.takeWhile_append_dropWhile (p := (· != '\n')) (l := cs)
        have stop := List.head?_dropWhile_not (· != '\n') cs
        split at h
        · rename_i rest
          cases h
          rw [rest, List.append_nil] at whole
          refine ⟨by simp [Item.text], ?_, rfl⟩
          rw [← whole]
          exact newline_not_mem_takeWhile cs
        · rename_i d behind rest
          cases h
          rw [rest] at whole stop
          have newline : d = '\n' := by simpa using stop
          subst newline
          refine ⟨?_, newline_not_mem_takeWhile cs⟩
          simp [Item.text, whole]
      · split at h
        · rename_i l found
          cases h
          exact ⟨Cut.first_append c cs, Cut.first_spelled found⟩
        · cases h

/-- The first item of a text is the one that fits in front of the rest. -/
theorem firstItem_eq_some_iff {cs after : List Char} {item : Item} :
    firstItem cs = some (item, after) ↔ item.text ++ after = cs ∧ item.Fits after := by
  constructor
  · exact fits_of_firstItem
  · rintro ⟨rfl, fits⟩
    exact firstItem_of_fits fits

/-! ### Reading past an item -/

/-- The token that an item is behind `lines` newlines, if it is a lexeme. -/
def Item.token? (item : Item) (lines : Nat) : Option Token :=
  item.lexeme?.map fun l => ⟨l, lines + 1⟩

def Lexing.prepend (tokens : List Token) (l : Lexing) : Lexing :=
  { l with tokens := tokens ++ l.tokens }

namespace Cursor

/-- A lexing depends only on what stands behind the blanks and comments. -/
theorem lex_congr {s t : Cursor} (h : s.skipTrivia = t.skipTrivia) : s.lex = t.lex := by
  have next : s.next = t.next := by
    unfold next
    rw [h]
  match outcome : t.next with
  | (.ok (some token), behind) =>
    rw [lex_token outcome, lex_token (next.trans outcome)]
  | (.ok none, last) =>
    rw [lex_end outcome, lex_end (next.trans outcome)]
  | (.error e, last) =>
    rw [lex_failure outcome, lex_failure (next.trans outcome)]

theorem skipFrom_comment {body : List Char} (h : '\n' ∉ body) (after : List Char) (lines : Nat) :
    skipFrom true (body ++ '\n' :: after) lines = skipFrom false after (lines + 1) := by
  induction body with
  | nil => rfl
  | cons c body ih =>
    rw [List.mem_cons, not_or] at h
    rw [List.cons_append, skipFrom, if_neg (Ne.symm h.1)]
    exact ih h.2

theorem skipFrom_lastComment {body : List Char} (h : '\n' ∉ body) (lines : Nat) :
    skipFrom true body lines = ⟨[], lines⟩ := by
  induction body with
  | nil => rfl
  | cons c body ih =>
    rw [List.mem_cons, not_or] at h
    rw [skipFrom, if_neg (Ne.symm h.1)]
    exact ih h.2

theorem skipTrivia_eq_self {c : Char} (blank : isBlank c = false) (sign : c ≠ '#') (cs : List Char)
    (lines : Nat) : (⟨c :: cs, lines⟩ : Cursor).skipTrivia = ⟨c :: cs, lines⟩ := by
  simp [skipTrivia, skipFrom, blank, sign]

theorem skipTrivia_item {item : Item} {after : List Char} (fits : item.Fits after)
    (trivia : item.lexeme? = none) (lines : Nat) :
    (⟨item.text ++ after, lines⟩ : Cursor).skipTrivia =
      (⟨after, lines + item.text.count '\n'⟩ : Cursor).skipTrivia := by
  cases item with
  | blank c =>
    have other := ne_of_mem_of_not_mem fits newline_not_mem_blankTable
    simp [skipTrivia, skipFrom, Item.text, isBlank_iff.mpr fits, other]
  | comment body =>
    have count : body.count '\n' = 0 := List.count_eq_zero.mpr fits
    simp [skipTrivia, skipFrom, Item.text, isBlank, skipFrom_comment fits, count]
  | lastComment body =>
    obtain ⟨free, rfl⟩ := fits
    have count : body.count '\n' = 0 := List.count_eq_zero.mpr free
    simp [skipTrivia, skipFrom, Item.text, isBlank, skipFrom_lastComment free, count]
  | lexeme l spelling => cases trivia

/-- Reading past an item takes its token and counts its newlines. -/
theorem lex_item {item : Item} {after : List Char} (fits : item.Fits after) (lines : Nat) :
    (⟨item.text ++ after, lines⟩ : Cursor).lex =
      (⟨after, lines + item.text.count '\n'⟩ : Cursor).lex.prepend (item.token? lines).toList := by
  cases item with
  | blank c | comment body | lastComment body => exact lex_congr (skipTrivia_item fits rfl lines)
  | lexeme l spelling =>
    obtain ⟨c, cs, text, blank, sign, cut⟩ := Spelled.cons fits
    have here := skipTrivia_eq_self blank sign cs lines
    rw [Item.text, text]
    refine (lex_token (t := ⟨l, lines + 1⟩) ?_).trans rfl
    simp [next, here, cut, Except.map]

theorem lex_nil (lines : Nat) : (⟨[], lines⟩ : Cursor).lex = ⟨[], .ok lines⟩ := by
  have ending : (⟨[], lines⟩ : Cursor).next = (.ok none, ⟨[], lines⟩) := rfl
  exact lex_end ending

theorem lex_stuck {c : Char} {cs : List Char} (h : firstItem (c :: cs) = none) (lines : Nat) :
    ∃ e, (Cut.first c cs).found = .error e ∧ (⟨c :: cs, lines⟩ : Cursor).lex =
      ⟨[], .error ⟨lines + (Cut.first c cs).spelling.count '\n', e⟩⟩ := by
  rw [firstItem] at h
  split at h
  · cases h
  · rename_i blank
    split at h
    · split at h <;> cases h
    · rename_i sign
      split at h
      · cases h
      · rename_i e found
        rw [Bool.not_eq_true] at blank
        have failure : (⟨c :: cs, lines⟩ : Cursor).next = (.error e,
            ⟨(Cut.first c cs).rest, lines + (Cut.first c cs).spelling.count '\n'⟩) := by
          simp [next, skipTrivia_eq_self blank sign, found, Except.map]
        exact ⟨e, found, lex_failure failure⟩

end Cursor

/-! ### Layouts -/

/-- The tokens of a sequence of items behind `lines` newlines. -/
def tokensOf : List Item → (lines : Nat) → List Token
  | [], _ => []
  | item :: items, lines =>
    (item.token? lines).toList ++ tokensOf items (lines + item.text.count '\n')

theorem lexemes_tokensOf (items : List Item) (lines : Nat) :
    (tokensOf items lines).map Token.toLexeme = lexemesOf items := by
  induction items generalizing lines with
  | nil => rfl
  | cons item items ih =>
    rw [tokensOf, List.map_append, ih]
    cases item <;> rfl

theorem textOf_cons (item : Item) (items : List Item) :
    textOf (item :: items) = item.text ++ textOf items := by
  rw [textOf, List.flatMap_cons, textOf]

/-- Reading past a layout takes its tokens in order and counts its newlines. -/
theorem lex_layout {items : List Item} {after : List Char} (h : Layout items after) (lines : Nat) :
    (⟨textOf items ++ after, lines⟩ : Cursor).lex =
      (⟨after, lines + (textOf items).count '\n'⟩ : Cursor).lex.prepend (tokensOf items lines) := by
  induction items generalizing lines with
  | nil => rfl
  | cons item items ih =>
    obtain ⟨fits, rest⟩ := h
    rw [textOf_cons, List.append_assoc, Cursor.lex_item fits, ih rest, List.count_append,
      Nat.add_assoc, tokensOf]
    simp only [Lexing.prepend, List.append_assoc]

theorem Item.text_ne_nil {item : Item} {after : List Char} (h : item.Fits after) :
    item.text ≠ [] := by
  cases item with
  | blank c | comment body | lastComment body => simp [Item.text]
  | lexeme l spelling =>
    rw [Item.text]
    cases h <;> simp

/-- Every text is laid out up to a place where no item fits. -/
theorem exists_layout (cs : List Char) :
    ∃ items after, Layout items after ∧ textOf items ++ after = cs ∧ firstItem after = none := by
  match first : firstItem cs with
  | none => exact ⟨[], cs, trivial, rfl, first⟩
  | some (item, behind) =>
    obtain ⟨text, fits⟩ := firstItem_eq_some_iff.mp first
    have shorter : behind.length < cs.length := by
      have positive := List.length_pos_iff.mpr (Item.text_ne_nil fits)
      rw [← text, List.length_append]
      omega
    obtain ⟨items, after, layout, rest, stuck⟩ := exists_layout behind
    refine ⟨item :: items, after, ⟨?_, layout⟩, ?_, stuck⟩
    · rw [rest]
      exact fits
    · rw [textOf_cons, List.append_assoc, rest, text]
termination_by cs.length

/-- A text is laid out in one way at most. -/
theorem layout_unique {items others : List Item} (h : Layout items []) (h' : Layout others [])
    (same : textOf items = textOf others) : items = others := by
  induction items generalizing others with
  | nil =>
    cases others with
    | nil => rfl
    | cons other others =>
      have nonempty := Item.text_ne_nil h'.1
      rw [textOf_cons] at same
      exact absurd (List.append_eq_nil_iff.mp same.symm).1 nonempty
  | cons item items ih =>
    cases others with
    | nil =>
      have nonempty := Item.text_ne_nil h.1
      rw [textOf_cons] at same
      exact absurd (List.append_eq_nil_iff.mp same).1 nonempty
    | cons other others =>
      have first := firstItem_of_fits h.1
      have second := firstItem_of_fits h'.1
      rw [List.append_nil] at first second
      rw [textOf_cons, textOf_cons] at same
      -- Both are the first item of the same text.
      rw [same, second] at first
      obtain ⟨head, tail⟩ := Prod.mk.inj (Option.some.inj first)
      rw [head, ih h.2 h'.2 tail.symm]

/-! ### Positions -/

/-- The character at position `i` of the text belongs to the item `k`. -/
def Covers (items : List Item) (k i : Nat) : Prop :=
  k < items.length ∧ (textOf (items.take k)).length ≤ i ∧ i < (textOf (items.take (k + 1))).length

theorem covers_cons_zero {item : Item} {items : List Item} {i : Nat} :
    Covers (item :: items) 0 i ↔ i < item.text.length := by
  simp [Covers, textOf]

theorem covers_cons_succ {item : Item} {items : List Item} {k i : Nat} :
    Covers (item :: items) (k + 1) i ↔
      item.text.length ≤ i ∧ Covers items k (i - item.text.length) := by
  simp only [Covers, List.length_cons, List.take_succ_cons, textOf_cons, List.length_append]
  omega

theorem existsUnique_covers (items : List Item) (i : Nat) (inside : i < (textOf items).length) :
    ∃! k, Covers items k i := by
  induction items generalizing i with
  | nil => simp [textOf] at inside
  | cons item items ih =>
    rw [textOf_cons, List.length_append] at inside
    by_cases first : i < item.text.length
    · refine ⟨0, covers_cons_zero.mpr first, ?_⟩
      intro k covers
      cases k with
      | zero => rfl
      | succ k =>
        have behind := (covers_cons_succ.mp covers).1
        omega
    · obtain ⟨k, covers, unique⟩ := ih (i - item.text.length) (by omega)
      refine ⟨k + 1, covers_cons_succ.mpr ⟨by omega, covers⟩, ?_⟩
      intro other covers'
      cases other with
      | zero => exact absurd (covers_cons_zero.mp covers') first
      | succ other => rw [unique other (covers_cons_succ.mp covers').2]

/-! ### Acceptance -/

/-- The items make up the whole text. -/
def LaysOut (items : List Item) (text : String) : Prop :=
  Layout items [] ∧ textOf items = text.toList

theorem result_of_laysOut {items : List Item} {text : String} (h : LaysOut items text) :
    (Lexing.ofText text).result = .ok ⟨tokensOf items 0, text.toList.count '\n'⟩ := by
  obtain ⟨layout, whole⟩ := h
  have reading := lex_layout layout 0
  rw [List.append_nil, whole] at reading
  rw [Lexing.ofText, Cursor.ofText, reading, Cursor.lex_nil]
  simp [Lexing.prepend, Lexing.result, Except.map]

theorem exists_laysOut_of_result {text : String} {lexed : Lexed}
    (h : (Lexing.ofText text).result = .ok lexed) : ∃ items, LaysOut items text := by
  obtain ⟨items, after, layout, whole, stuck⟩ := exists_layout text.toList
  cases after with
  | nil =>
    rw [List.append_nil] at whole
    exact ⟨items, layout, whole⟩
  | cons c cs =>
    -- Reading comes to `c` and fails there, so the text does not lex.
    have reading := lex_layout layout 0
    obtain ⟨e, -, failure⟩ := Cursor.lex_stuck stuck (0 + (textOf items).count '\n')
    rw [Lexing.ofText, Cursor.ofText, ← whole, reading, failure] at h
    cases h

/-- A text lexes into given lexemes exactly if it is laid out with them; it is laid out in one way
at most; and each of its characters belongs to exactly one item of its layout. -/
theorem lexemes_eq_iff_laysOut (text : String) (lexemes : List Lexeme) :
    ((∃ lexed, (Lexing.ofText text).result = .ok lexed ∧
        lexed.tokens.map Token.toLexeme = lexemes) ↔
      ∃ items, LaysOut items text ∧ lexemesOf items = lexemes) ∧
    (∀ items others, LaysOut items text → LaysOut others text → items = others) ∧
    (∀ items, LaysOut items text → ∀ i < text.toList.length, ∃! k, Covers items k i) := by
  refine ⟨⟨?_, ?_⟩, ?_, ?_⟩
  · rintro ⟨lexed, result, rfl⟩
    obtain ⟨items, laid⟩ := exists_laysOut_of_result result
    rw [result_of_laysOut laid] at result
    cases result
    exact ⟨items, laid, (lexemes_tokensOf items 0).symm⟩
  · rintro ⟨items, laid, rfl⟩
    exact ⟨_, result_of_laysOut laid, lexemes_tokensOf items 0⟩
  · intro items others laid laid'
    exact layout_unique laid.1 laid'.1 (laid.2.trans laid'.2.symm)
  · intro items laid i inside
    rw [← laid.2] at inside
    exact existsUnique_covers items i inside

/-- Two adjacent operators are told apart by the longest match: the text is `**`, `=` and a newline,
not `*` and `*=`. -/
theorem lexemes_of_power_assign :
    ∃ lexed, (Lexing.ofText "**=\n").result = .ok lexed ∧ lexed.tokens.map Token.toLexeme =
      [⟨.arithmetic, "**"⟩, ⟨.assignment, "="⟩, ⟨.instructionEnd, "\n"⟩] := by
  refine (lexemes_eq_iff_laysOut _ _).1.mpr
    ⟨[.lexeme _ ['*', '*'], .lexeme _ ['='], .lexeme _ ['\n']], ⟨⟨?_, ?_, ?_, trivial⟩, rfl⟩, rfl⟩
  · exact .pair (by decide)
  · exact .alone (d := '\n') (by decide) (by simp [doubleTable])
  · exact .mark (by decide)

end Abacus
