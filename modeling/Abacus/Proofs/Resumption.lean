import Abacus.Proofs.LexFailures
import Abacus.Scanner

/-! Readings one after another.  A cursor holds the rest of a text and the number of newlines before
it, and a reading uses the second only to number lines.  So whatever a scanner has read, and
whatever came of it, it goes on as a fresh scanner on the characters still pending would, with every
line number raised by the number of newlines passed. -/

namespace Abacus

/-! ### Readings further down -/

/-- The token `n` lines further down. -/
def Token.shift (n : Nat) (t : Token) : Token := { t with line := t.line + n }

/-- The outcome of the same reading `n` lines further down. -/
def shiftOutcome (n : Nat) (outcome : Except LexError (Option Token)) :
    Except LexError (Option Token) :=
  outcome.map (Option.map (Token.shift n))

/-- The lexing of the same text `n` lines further down. -/
def Lexing.shift (n : Nat) (l : Lexing) : Lexing where
  tokens := l.tokens.map (Token.shift n)
  ending :=
    match l.ending with
    | .ok lines => .ok (lines + n)
    | .error failure => .error ⟨failure.lines + n, failure.error⟩

namespace Cursor

def shift (n : Nat) (s : Cursor) : Cursor := { s with lines := s.lines + n }

theorem skipFrom_shift (inComment : Bool) (cs : List Char) (lines n : Nat) :
    skipFrom inComment cs (lines + n) = (skipFrom inComment cs lines).shift n := by
  fun_induction skipFrom inComment cs lines with
  | case1 inComment lines => cases inComment <;> rfl
  | case2 lines cs ih =>
    rw [skipFrom, if_pos rfl, ← ih]
    congr 1
    omega
  | case3 lines c cs other ih => rw [skipFrom, if_neg other, ih]
  | case4 lines c cs blank ih => rw [skipFrom, if_pos blank, ih]
  | case5 lines cs blank ih => rw [skipFrom, if_neg blank, if_pos rfl, ih]
  | case6 lines c cs blank sign => rw [skipFrom, if_neg blank, if_neg sign]; rfl

theorem next_end {s : Cursor} (h : s.skipTrivia.rest = []) : s.next = (.ok none, s.skipTrivia) := by
  simp only [next, h]

theorem next_cut {s : Cursor} {c : Char} {cs : List Char} (h : s.skipTrivia.rest = c :: cs) :
    s.next = ((Cut.first c cs).found.map fun lexeme => some ⟨lexeme, s.skipTrivia.lines + 1⟩,
      ⟨(Cut.first c cs).rest,
        s.skipTrivia.lines + (Cut.first c cs).spelling.count '\n'⟩) := by
  simp only [next, h]

theorem next_shift (s : Cursor) (n : Nat) :
    (s.shift n).next = (shiftOutcome n s.next.1, s.next.2.shift n) := by
  have skip : (s.shift n).skipTrivia = s.skipTrivia.shift n :=
    skipFrom_shift false s.rest s.lines n
  have rest : (s.shift n).skipTrivia.rest = s.skipTrivia.rest := by rw [skip]; rfl
  cases here : s.skipTrivia.rest with
  | nil =>
    rw [next_end here, next_end (rest.trans here), skip]
    rfl
  | cons c cs =>
    rw [next_cut here, next_cut (rest.trans here), skip]
    refine Prod.ext ?_ ?_
    · cases (Cut.first c cs).found with
      | error e => rfl
      | ok l => simp [shiftOutcome, Except.map, Token.shift, shift, Nat.add_right_comm]
    · simp [shift, Nat.add_right_comm]

theorem readMany_shift (m : Nat) (s : Cursor) (n : Nat) :
    (s.shift n).readMany m =
      ((s.readMany m).1.map (shiftOutcome n), (s.readMany m).2.shift n) := by
  induction m generalizing s with
  | zero => rfl
  | succ m ih =>
    rw [readMany, next_shift]
    simp only [ih]
    rfl

theorem lex_shift (s : Cursor) (n : Nat) : (s.shift n).lex = s.lex.shift n := by
  have moved := s.next_shift n
  match outcome : s.next with
  | (.ok (some t), behind) =>
    rw [outcome] at moved
    have shorter := length_next_lt outcome
    have token : (s.shift n).next = (.ok (some (t.shift n)), behind.shift n) := moved
    rw [lex_token outcome, lex_token token, lex_shift behind n]
    rfl
  | (.ok none, last) =>
    rw [outcome] at moved
    have ending : (s.shift n).next = (.ok none, last.shift n) := moved
    rw [lex_end outcome, lex_end ending]
    rfl
  | (.error e, last) =>
    rw [outcome] at moved
    have failure : (s.shift n).next = (.error e, last.shift n) := moved
    rw [lex_failure outcome, lex_failure failure]
    rfl
termination_by s.rest.length

/-! ### What a reading passes -/

theorem exists_trivia_item {c : Char} (h : isBlank c = true ∨ c = '#') (cs : List Char) :
    ∃ (item : Item) (after : List Char),
      item.lexeme? = none ∧ item.Fits after ∧ item.text ++ after = c :: cs := by
  match first : firstItem (c :: cs) with
  | none =>
    obtain ⟨blank, sign, -⟩ := firstItem_cons_eq_none_iff.mp first
    rcases h with h | h
    · simp [blank] at h
    · exact absurd h sign
  | some (item, after) =>
    obtain ⟨text, fits⟩ := fits_of_firstItem first
    cases item with
    | blank d | comment body | lastComment body => exact ⟨_, after, rfl, fits, text⟩
    | lexeme l spelling =>
      obtain ⟨d, ds, front, blank, sign, -⟩ := Spelled.cons fits
      rw [Item.text, front] at text
      cases text
      rcases h with h | h
      · simp [blank] at h
      · exact absurd h sign

/-- A cursor passes the blanks and comments before it, and counts their newlines. -/
theorem exists_trivia (s : Cursor) :
    ∃ items, lexemesOf items = [] ∧ Layout items s.skipTrivia.rest ∧
      textOf items ++ s.skipTrivia.rest = s.rest ∧
      s.skipTrivia.lines = s.lines + (textOf items).count '\n' := by
  by_cases still : s.skipTrivia = s
  · rw [still]
    exact ⟨[], rfl, trivial, rfl, rfl⟩
  · obtain ⟨rest, lines⟩ := s
    obtain ⟨item, after, none, fits, rfl⟩ : ∃ (item : Item) (after : List Char),
        item.lexeme? = none ∧ item.Fits after ∧ item.text ++ after = rest := by
      cases rest with
      | nil => exact absurd rfl still
      | cons c cs =>
        refine exists_trivia_item ?_ cs
        by_cases blank : isBlank c = true
        · exact .inl blank
        · refine .inr (Classical.byContradiction fun sign => still ?_)
          exact skipTrivia_eq_self (Bool.not_eq_true _ ▸ blank) sign cs lines
    have shorter : after.length < (item.text ++ after).length := by
      have positive := List.length_pos_iff.mpr (Item.text_ne_nil fits)
      rw [List.length_append]
      omega
    obtain ⟨items, lexemes, layout, whole, count⟩ :=
      exists_trivia ⟨after, lines + item.text.count '\n'⟩
    rw [skipTrivia_item fits none]
    refine ⟨item :: items, ?_, ⟨?_, layout⟩, ?_, ?_⟩
    · rw [lexemesOf, List.filterMap_cons_none none]
      exact lexemes
    · rw [whole]
      exact fits
    · rw [textOf_cons, List.append_assoc, whole]
    · rw [count, textOf_cons, List.count_append, Nat.add_assoc]
termination_by s.rest.length

/-- What a reading leaves is a suffix of the text, and the newlines before it are counted. -/
theorem next_splits (s : Cursor) :
    ∃ front, front ++ s.next.2.rest = s.rest ∧ s.next.2.lines = s.lines + front.count '\n' := by
  obtain ⟨items, -, -, whole, count⟩ := s.exists_trivia
  cases here : s.skipTrivia.rest with
  | nil =>
    rw [next_end here]
    exact ⟨textOf items, whole, count⟩
  | cons c cs =>
    have cut := Cut.first_append c cs
    rw [next_cut here]
    refine ⟨textOf items ++ (Cut.first c cs).spelling, ?_, ?_⟩
    · rw [List.append_assoc, cut, ← here, whole]
    · change s.skipTrivia.lines + _ = _
      rw [count, List.count_append, Nat.add_assoc]

theorem readMany_splits (n : Nat) (s : Cursor) :
    ∃ front, front ++ (s.readMany n).2.rest = s.rest ∧
      (s.readMany n).2.lines = s.lines + front.count '\n' := by
  induction n generalizing s with
  | zero => exact ⟨[], rfl, rfl⟩
  | succ n ih =>
    obtain ⟨first, whole, count⟩ := s.next_splits
    obtain ⟨later, rest, lines⟩ := ih s.next.2
    refine ⟨first ++ later, ?_, ?_⟩
    · rw [List.append_assoc, ← whole, ← rest]
      rfl
    · rw [List.count_append, ← Nat.add_assoc, ← count, ← lines]
      rfl

end Cursor

/-! ### What a reading leaves -/

/-- What a reading of the text `before` leaves of it, by its outcome. -/
inductive Leaves (before : List Char) : Except LexError (Option Token) → List Char → Prop where
  | token {t : Token} {after : List Char} (shorter : after.length < before.length) :
    Leaves before (.ok (some t)) after
  /-- The text behind the character that is at fault, which only blanks and comments precede. -/
  | invalidCharacter {c : Char} {after : List Char} {trivia : List Item}
    (shorter : after.length < before.length) (idle : lexemesOf trivia = [])
    (layout : Layout trivia (c :: after)) (whole : textOf trivia ++ c :: after = before) :
    Leaves before (.error (.invalidCharacter c)) after
  | ending : Leaves before (.ok none) []
  | unterminatedString : Leaves before (.error .unterminatedString) []
  | unexpectedEnd {c : Char} : Leaves before (.error (.unexpectedEnd c)) []

theorem leaves_next (s : Cursor) : Leaves s.rest s.next.1 s.next.2.rest := by
  obtain ⟨trivia, idle, layout, whole, -⟩ := s.exists_trivia
  cases here : s.skipTrivia.rest with
  | nil =>
    rw [Cursor.next_end here, here]
    exact .ending
  | cons c cs =>
    have shorter : (Cut.first c cs).rest.length < s.rest.length := by
      have first := Cut.length_first_rest_lt c cs
      have skipped := s.length_skipTrivia_le
      rw [here] at skipped
      omega
    rw [Cursor.next_cut here]
    cases found : (Cut.first c cs).found with
    | ok l => exact .token shorter
    | error e =>
      rcases Cut.first_error found with ⟨rfl, cut, -⟩ | ⟨rfl, cut, -⟩ | ⟨rfl, cut, -⟩
      · rw [cut] at shorter ⊢
        rw [here] at layout whole
        exact .invalidCharacter shorter idle layout whole
      · rw [cut]
        exact .unterminatedString
      · rw [cut]
        exact .unexpectedEnd

theorem readMany_of_rest_nil {s : Cursor} (h : s.rest = []) (n : Nat) :
    s.readMany n = (List.replicate n (.ok none), s) := by
  obtain ⟨rest, lines⟩ := s
  cases h
  induction n with
  | zero => rfl
  | succ n ih =>
    have ending : (⟨[], lines⟩ : Cursor).next = (.ok none, ⟨[], lines⟩) := rfl
    rw [Cursor.readMany, ending]
    simp only [ih]
    rfl

/-! ### Scanners -/

/-- What a scanner gives from now on: the outcomes of `n` readings, and then the lexing of what is
left. -/
def Scanner.observe (s : Scanner) (n : Nat) :
    Option (List (Except LexError (Option Token)) × Lexing) := do
  let (outcomes, last) ← s.readMany n
  let lexing ← last.lex
  return (outcomes, lexing)

theorem Scanner.observe_eq (s : Scanner) (n : Nat) :
    s.observe n = some ((s.cursor.readMany n).1, (s.cursor.readMany n).2.lex) := by
  obtain ⟨last, read, cursor⟩ := s.moves_readMany n
  simp [observe, read, last.lex_eq_some, cursor]

/-- After any number of readings, whatever came of them, a scanner of a text has never put a
character back into a full slot, and has done what the cursor of the text does; what is pending is a
suffix of the text, and the lines passed are those before it; further readings are those of a fresh
scanner on what is pending, that many lines further down; and what the next reading leaves follows
from its outcome, and nothing can be read from nothing. -/
theorem scanner_resumes_afresh (text : String) (n : Nat) :
    ∃ outcomes s, (Scanner.ofChars text.toList).readMany n = some (outcomes, s) ∧
      (Cursor.ofText text).readMany n = (outcomes, s.cursor) ∧
      (∃ front, front ++ s.pending = text.toList ∧ s.lines = front.count '\n') ∧
      (∀ m, ∃ later lexing, (Scanner.ofChars s.pending).observe m = some (later, lexing) ∧
        s.observe m = some (later.map (shiftOutcome s.lines), lexing.shift s.lines)) ∧
      ∃ outcome behind, s.next = some (outcome, behind) ∧
        Leaves s.pending outcome behind.pending ∧
        (behind.pending = [] → ∀ m, ∃ last,
          behind.readMany m = some (List.replicate m (.ok none), last)) := by
  obtain ⟨s, read, cursor⟩ := (Scanner.ofChars text.toList).moves_readMany n
  have same : (Scanner.ofChars text.toList).cursor = Cursor.ofText text := by
    simp [Scanner.cursor, Scanner.ofChars, Scanner.pending, Cursor.ofText]
  refine ⟨_, s, read, by rw [cursor, same], ?_, fun m => ?_, ?_⟩
  · obtain ⟨front, whole, count⟩ :=
      Cursor.readMany_splits n (Scanner.ofChars text.toList).cursor
    rw [← cursor] at whole count
    exact ⟨front, whole, count.trans (Nat.zero_add _)⟩
  · have fresh : s.cursor = (Scanner.ofChars s.pending).cursor.shift s.lines := by
      simp [Scanner.cursor, Scanner.ofChars, Scanner.pending, Cursor.shift]
    refine ⟨_, _, Scanner.observe_eq _ m, ?_⟩
    rw [Scanner.observe_eq, fresh, Cursor.readMany_shift, Cursor.lex_shift]
  · obtain ⟨behind, next, cursor⟩ := s.moves_next
    refine ⟨_, behind, next, ?_, fun nothing m => ?_⟩
    · have leaves := leaves_next s.cursor
      rw [← cursor] at leaves
      exact leaves
    · obtain ⟨last, later, -⟩ := behind.moves_readMany m
      have rest : behind.cursor.rest = [] := nothing
      rw [readMany_of_rest_nil rest] at later
      exact ⟨last, later⟩

end Abacus
