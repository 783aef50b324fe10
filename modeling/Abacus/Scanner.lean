import Abacus.Lexing

/-! The reading of a text character by character.  A scanner takes one character at a time, and a
character that ends a run or follows an operator is put back into a slot, which holds one character
and refuses a second.  Putting back is therefore partial, and so is every step that may put a
character back.  The main statement is that no step of a scanner meets a full slot, and that each
reading of a scanner is the reading of the cursor at the character in the slot and the characters
behind it. -/

namespace Abacus

/-- The character that was put back, the characters behind it, and the number of newlines passed. -/
structure Scanner where
  slot : Option Char := none
  unread : List Char
  lines : Nat := 0
  deriving Repr, DecidableEq

namespace Scanner

/-- The scanner at the start of the characters of a text. -/
def ofChars (cs : List Char) : Scanner := { unread := cs }

/-- The characters still to be taken. -/
def pending (s : Scanner) : List Char := s.slot.toList ++ s.unread

def cursor (s : Scanner) : Cursor := ⟨s.pending, s.lines⟩

/-- Takes the next character, from the slot if it is full. -/
def bump (s : Scanner) : Option (Char × Scanner) :=
  match s.slot, s.unread with
  | some c, _ => some (c, { s with slot := none })
  | none, c :: cs => some (c, { s with unread := cs })
  | none, [] => none

/-- Puts a character back, unless the slot is full. -/
def pushBack (s : Scanner) (c : Char) : Option Scanner :=
  if s.slot.isNone then some { s with slot := some c } else none

/-- The scanner after a newline, if `c` is one. -/
def pass (s : Scanner) (c : Char) : Scanner :=
  if c = '\n' then { s with lines := s.lines + 1 } else s

theorem pending_of_bump {s behind : Scanner} {c : Char} (h : s.bump = some (c, behind)) :
    s.pending = c :: behind.pending ∧ behind.slot = none ∧ behind.lines = s.lines := by
  obtain ⟨slot, unread, lines⟩ := s
  cases slot with
  | some d => cases h; exact ⟨rfl, rfl, rfl⟩
  | none =>
    cases unread with
    | nil => cases h
    | cons d cs => cases h; exact ⟨rfl, rfl, rfl⟩

theorem pending_of_bump_none {s : Scanner} (h : s.bump = none) : s.pending = [] := by
  obtain ⟨slot, unread, lines⟩ := s
  cases slot with
  | some d => cases h
  | none =>
    cases unread with
    | nil => rfl
    | cons d cs => cases h

theorem length_pending_of_bump {s behind : Scanner} {c : Char} (h : s.bump = some (c, behind)) :
    behind.pending.length < s.pending.length := by
  rw [(pending_of_bump h).1, List.length_cons]
  omega

@[simp] theorem pending_pass (s : Scanner) (c : Char) : (s.pass c).pending = s.pending := by
  unfold pass
  split <;> rfl

theorem lines_pass (s : Scanner) (c : Char) : (s.pass c).lines = s.lines + [c].count '\n' := by
  unfold pass
  split <;> simp_all

/-! ### The parts of a reading -/

/-- Takes characters as long as they satisfy `p`, behind the characters `word`. -/
def collectWhile (p : Char → Bool) (s : Scanner) (word : List Char) :
    Option (List Char × Scanner) :=
  match _h : s.bump with
  | none => some (word, s)
  | some (c, behind) =>
    if p c then collectWhile p behind (word ++ [c]) else (behind.pushBack c).map (word, ·)
termination_by s.pending.length
decreasing_by exact length_pending_of_bump _h

/-- Takes the rest of a string, up to its closing quote `q`, behind the characters `body`. -/
def takeString (q : Char) (s : Scanner) (body : List Char) : Except LexError Lexeme × Scanner :=
  match _h : s.bump with
  | none => (.error .unterminatedString, s)
  | some (c, behind) =>
    if c = q then (.ok ⟨.string, String.ofList body⟩, behind)
    else takeString q (behind.pass c) (body ++ [c])
termination_by s.pending.length
decreasing_by
  rw [pending_pass]
  exact length_pending_of_bump _h

/-- Takes the rest of a comment with its newline, if it has one. -/
def skipComment (s : Scanner) : Scanner :=
  match _h : s.bump with
  | none => s
  | some (c, behind) => if c = '\n' then behind.pass c else skipComment behind
termination_by s.pending.length
decreasing_by exact length_pending_of_bump _h

/-- Takes the second character of an operator that starts with `c`, or puts it back. -/
def takeOperator (p : Pairing) (c : Char) (s : Scanner) :
    Option (Except LexError Lexeme × Scanner) :=
  match s.bump with
  | none => some (.error (.unexpectedEnd c), s)
  | some (d, behind) =>
    match p.kind? d with
    | some kind => some (.ok ⟨kind, String.ofList [c, d]⟩, behind)
    | none => (behind.pushBack d).map (.ok ⟨p.alone, String.ofList [c]⟩, ·)

def takeRun (kind : Kind) (p : Char → Bool) (c : Char) (s : Scanner) :
    Option (Except LexError Lexeme × Scanner) :=
  (s.collectWhile p [c]).map fun (word, behind) => (.ok ⟨kind, String.ofList word⟩, behind)

/-- Takes the rest of the lexeme that starts with `c`. -/
def takeLexeme (c : Char) (s : Scanner) : Option (Except LexError Lexeme × Scanner) :=
  if isQuote c then some (s.takeString c [])
  else
    match pairing? c with
    | some p => s.takeOperator p c
    | none =>
      match mark? c with
      | some kind => some (.ok ⟨kind, String.ofList [c]⟩, s.pass c)
      | none =>
        if c.isDigit then s.takeRun .number Char.isDigit c
        else if Unicode.isAlphabetic c then s.takeRun .reference Unicode.isAlphabetic c
        else some (.error (.invalidCharacter c), s)

theorem length_pending_skipComment_le (s : Scanner) :
    s.skipComment.pending.length ≤ s.pending.length := by
  fun_induction skipComment s with
  | case1 s h => exact Nat.le_refl _
  | case2 s behind h =>
    rw [pending_pass]
    exact Nat.le_of_lt (length_pending_of_bump h)
  | case3 s c behind h other ih =>
    have shorter := length_pending_of_bump h
    omega

/-- Reads one token, as a cursor does. -/
def next (s : Scanner) : Option (Except LexError (Option Token) × Scanner) :=
  match _h : s.bump with
  | none => some (.ok none, s)
  | some (c, behind) =>
    if isBlank c then behind.next
    else if c = '#' then behind.skipComment.next
    else (behind.takeLexeme c).map fun (found, last) =>
      (found.map fun lexeme => some ⟨lexeme, s.lines + 1⟩, last)
termination_by s.pending.length
decreasing_by
  · exact length_pending_of_bump _h
  · exact Nat.lt_of_le_of_lt (length_pending_skipComment_le behind) (length_pending_of_bump _h)

/-! ### A scanner moves a cursor -/

/-- A step of a scanner is never refused, and has the outcome and the cursor behind it that are
given. -/
def Moves {α : Type} (step : Option (α × Scanner)) (outcome : α) (behind : Cursor) : Prop :=
  ∃ last, step = some (outcome, last) ∧ last.cursor = behind

/-- A character is put back only right behind its taking, when the slot is empty. -/
theorem moves_pushBack {s behind : Scanner} {c : Char} {α : Type} (outcome : α)
    (h : s.bump = some (c, behind)) :
    Moves ((behind.pushBack c).map (outcome, ·)) outcome s.cursor := by
  obtain ⟨pending, slot, lines⟩ := pending_of_bump h
  refine ⟨{ behind with slot := some c }, by simp [pushBack, slot], ?_⟩
  have unread : behind.pending = behind.unread := by simp [Scanner.pending, slot]
  rw [cursor, cursor, pending, unread, ← lines]
  rfl

theorem moves_collectWhile (p : Char → Bool) (s : Scanner) (word : List Char) :
    Moves (s.collectWhile p word) (word ++ s.pending.takeWhile p)
      ⟨s.pending.dropWhile p, s.lines⟩ := by
  fun_induction collectWhile p s word with
  | case1 s word h =>
    refine ⟨s, ?_, ?_⟩ <;> simp [pending_of_bump_none h, cursor]
  | case2 s word c behind h holds ih =>
    obtain ⟨pending, -, lines⟩ := pending_of_bump h
    rw [pending, List.takeWhile_cons_of_pos holds, List.dropWhile_cons_of_pos holds, ← lines]
    rwa [List.append_assoc, List.singleton_append] at ih
  | case3 s word c behind h fails =>
    obtain ⟨pending, -, lines⟩ := pending_of_bump h
    have back := moves_pushBack word h
    rw [pending, List.takeWhile_cons_of_neg fails, List.dropWhile_cons_of_neg fails, ← pending,
      List.append_nil]
    exact back

theorem skipFrom_skipComment (s : Scanner) :
    Cursor.skipFrom false s.skipComment.pending s.skipComment.lines =
      Cursor.skipFrom true s.pending s.lines := by
  fun_induction skipComment s with
  | case1 s h => simp [pending_of_bump_none h, Cursor.skipFrom]
  | case2 s behind h =>
    obtain ⟨pending, -, lines⟩ := pending_of_bump h
    rw [pending, pending_pass, lines_pass, lines]
    simp [Cursor.skipFrom]
  | case3 s c behind h other ih =>
    obtain ⟨pending, -, lines⟩ := pending_of_bump h
    rw [ih, pending, Cursor.skipFrom, if_neg other, lines]

/-- The rest of a lexeme that a scanner takes is what the cut of the text says. -/
def Takes (step : Option (Except LexError Lexeme × Scanner)) (cut : Cut) (lines : Nat) : Prop :=
  Moves step cut.found ⟨cut.rest, lines + cut.spelling.count '\n'⟩

theorem takeString_eq (q : Char) (s : Scanner) (body : List Char) :
    ∃ last, s.takeString q body =
        (match s.pending.dropWhile (· != q) with
          | [] => .error .unterminatedString
          | _ :: _ => .ok ⟨.string, String.ofList (body ++ s.pending.takeWhile (· != q))⟩, last) ∧
      last.cursor = ⟨(s.pending.dropWhile (· != q)).tail,
        s.lines + (s.pending.takeWhile (· != q)).count '\n'⟩ := by
  fun_induction takeString q s body with
  | case1 s body h =>
    refine ⟨s, ?_, ?_⟩ <;> simp [pending_of_bump_none h, cursor]
  | case2 s body behind h =>
    obtain ⟨pending, -, lines⟩ := pending_of_bump h
    refine ⟨behind, ?_, ?_⟩ <;> simp [pending, cursor, lines]
  | case3 s body c behind h other ih =>
    obtain ⟨pending, -, lines⟩ := pending_of_bump h
    have differs : (c != q) = true := bne_iff_ne.mpr other
    obtain ⟨last, found, rest⟩ := ih
    rw [pending_pass] at found rest
    refine ⟨last, ?_, ?_⟩
    · rw [found, pending]
      simp [differs]
    · rw [rest, pending, lines_pass, lines, Nat.add_assoc, ← List.count_append]
      simp [differs]

theorem takes_takeString {q : Char} (quote : isQuote q = true) (s : Scanner) :
    Takes (some (s.takeString q [])) (Cut.string q s.pending) s.lines := by
  have other : q ≠ '\n' := by
    rintro rfl
    cases quote
  have stop := List.head?_dropWhile_not (· != q) s.pending
  obtain ⟨last, found, rest⟩ := takeString_eq q s []
  refine ⟨last, ?_, ?_⟩
  · rw [found, Cut.string]
    cases s.pending.dropWhile (· != q) <;> simp
  · rw [rest, Cut.string]
    cases behind : s.pending.dropWhile (· != q) with
    | nil => simp [other]
    | cons close after =>
      rw [behind] at stop
      have closes : close = q := by simpa using stop
      simp [closes, other]

theorem takes_takeOperator {c : Char} {p : Pairing} (starts : pairing? c = some p) (s : Scanner) :
    Takes (s.takeOperator p c) (Cut.operator p c s.pending) s.lines := by
  -- No operator holds a newline.
  have other : c ≠ '\n' ∧ p.kind? '\n' = none := by
    unfold pairing? at starts
    split at starts <;> cases starts <;> decide
  unfold takeOperator
  split
  · rename_i h
    refine ⟨s, ?_, ?_⟩ <;> simp [pending_of_bump_none h, Cut.operator, cursor, other]
  · rename_i d behind h
    obtain ⟨pending, -, lines⟩ := pending_of_bump h
    cases pairs : p.kind? d with
    | some kind =>
      have second : d ≠ '\n' := by
        rintro rfl
        rw [other.2] at pairs
        cases pairs
      refine ⟨behind, ?_, ?_⟩ <;>
        simp [pending, Cut.operator, pairs, cursor, lines, other.1, second]
    | none =>
      have back := moves_pushBack (.ok ⟨p.alone, String.ofList [c]⟩ : Except LexError Lexeme) h
      simpa [Takes, Cut.operator, pairs, cursor, pending, other.1] using back

theorem takes_takeRun (kind : Kind) {p : Char → Bool} {c : Char} (holds : p c = true)
    (newline : p '\n' = false) (s : Scanner) :
    Takes (s.takeRun kind p c) (Cut.run kind p c s.pending) s.lines := by
  obtain ⟨last, found, rest⟩ := moves_collectWhile p s [c]
  refine ⟨last, ?_, ?_⟩
  · rw [takeRun, found]
    rfl
  · have inside : '\n' ∉ c :: s.pending.takeWhile p := by
      intro member
      rcases List.mem_cons.mp member with rfl | member
      · simp [newline] at holds
      · have holds := List.all_eq_true.mp List.all_takeWhile '\n' member
        simp [newline] at holds
    rw [rest, Cut.run, List.count_eq_zero.mpr inside]
    rfl

theorem takes_takeLexeme (c : Char) (s : Scanner) :
    Takes (s.takeLexeme c) (Cut.first c s.pending) s.lines := by
  unfold takeLexeme Cut.first
  cases quote : isQuote c with
  | true => exact takes_takeString quote s
  | false =>
    cases starts : pairing? c with
    | some p => exact takes_takeOperator starts s
    | none =>
      cases mark : mark? c with
      | some kind =>
        refine ⟨s.pass c, rfl, ?_⟩
        rw [cursor, pending_pass, lines_pass]
        rfl
      | none =>
        have other : c ≠ '\n' := by
          rintro rfl
          cases mark
        cases digit : c.isDigit with
        | true => exact takes_takeRun .number digit rfl s
        | false =>
          cases letter : Unicode.isAlphabetic c with
          | true => exact takes_takeRun .reference letter (by decide) s
          | false =>
            refine ⟨s, rfl, ?_⟩
            simp [cursor, other]

/-- A scanner never meets a full slot, and reads what its cursor reads. -/
theorem moves_next (s : Scanner) : Moves s.next s.cursor.next.1 s.cursor.next.2 := by
  fun_induction next s with
  | case1 s h =>
    have ending : s.cursor.next = (.ok none, s.cursor) := by
      simp [Cursor.next, Cursor.skipTrivia, cursor, pending_of_bump_none h, Cursor.skipFrom]
    rw [ending]
    exact ⟨s, rfl, rfl⟩
  | case2 s c behind h blank ih =>
    obtain ⟨pending, -, lines⟩ := pending_of_bump h
    have skip : s.cursor.skipTrivia = behind.cursor.skipTrivia := by
      simp [Cursor.skipTrivia, cursor, pending, Cursor.skipFrom, blank, lines]
    have next : s.cursor.next = behind.cursor.next := by
      unfold Cursor.next
      rw [skip]
    rw [next]
    exact ih
  | case3 s behind h blank ih =>
    obtain ⟨pending, -, lines⟩ := pending_of_bump h
    have skip : s.cursor.skipTrivia = behind.skipComment.cursor.skipTrivia := by
      simp [Cursor.skipTrivia, cursor, pending, Cursor.skipFrom, blank, ← lines,
        skipFrom_skipComment]
    have next : s.cursor.next = behind.skipComment.cursor.next := by
      unfold Cursor.next
      rw [skip]
    rw [next]
    exact ih
  | case4 s c behind h blank sign =>
    obtain ⟨pending, -, lines⟩ := pending_of_bump h
    obtain ⟨last, found, rest⟩ := takes_takeLexeme c behind
    have skip : s.cursor.skipTrivia = ⟨c :: behind.pending, s.lines⟩ := by
      simp [Cursor.skipTrivia, cursor, pending, Cursor.skipFrom, blank, sign]
    refine ⟨last, ?_, ?_⟩
    · simp [found, Cursor.next, skip]
    · simp [rest, Cursor.next, skip, lines]

/-! ### Many readings -/

/-- Reads `n` times in a row, whatever the outcomes. -/
def readMany : Nat → Scanner → Option (List (Except LexError (Option Token)) × Scanner)
  | 0, s => some ([], s)
  | n + 1, s => do
    let (outcome, behind) ← s.next
    let (outcomes, last) ← readMany n behind
    return (outcome :: outcomes, last)

theorem moves_readMany (n : Nat) (s : Scanner) :
    Moves (s.readMany n) (s.cursor.readMany n).1 (s.cursor.readMany n).2 := by
  induction n generalizing s with
  | zero => exact ⟨s, rfl, rfl⟩
  | succ n ih =>
    obtain ⟨behind, first, cursor⟩ := moves_next s
    obtain ⟨last, later, rest⟩ := ih behind
    refine ⟨last, ?_, ?_⟩
    · simp [readMany, Cursor.readMany, first, later, ← cursor]
    · rw [rest, cursor]
      rfl

theorem length_pending_of_next {s behind : Scanner} {t : Token}
    (h : s.next = some (.ok (some t), behind)) : behind.pending.length < s.pending.length := by
  obtain ⟨last, first, cursor⟩ := moves_next s
  rw [h] at first
  obtain ⟨outcome, rfl⟩ := Prod.mk.inj (Option.some.inj first)
  have shorter : behind.cursor.rest.length < s.cursor.rest.length :=
    Cursor.length_next_lt (t := t) (Prod.ext outcome.symm cursor.symm)
  exact shorter

/-- Reads to the end of the text or to the first failure, as a cursor does. -/
def lex (s : Scanner) : Option Lexing :=
  match _h : s.next with
  | some (.ok (some t), behind) => behind.lex.map (.cons t)
  | some (.ok none, last) => some ⟨[], .ok last.lines⟩
  | some (.error e, last) => some ⟨[], .error ⟨last.lines, e⟩⟩
  | none => none
termination_by s.pending.length
decreasing_by exact length_pending_of_next _h

theorem lex_token {s behind : Scanner} {t : Token} (h : s.next = some (.ok (some t), behind)) :
    s.lex = behind.lex.map (.cons t) := by
  rw [lex]
  split <;> simp_all

theorem lex_eq_some (s : Scanner) : s.lex = some s.cursor.lex := by
  obtain ⟨behind, first, cursor⟩ := moves_next s
  match outcome : s.cursor.next with
  | (.ok (some t), last) =>
    rw [outcome] at first cursor
    have shorter := length_pending_of_next first
    rw [lex_token first, Cursor.lex_token outcome, lex_eq_some behind, cursor]
    rfl
  | (.ok none, last) =>
    rw [outcome] at first cursor
    have lines : behind.lines = last.lines := congrArg Cursor.lines cursor
    rw [lex, Cursor.lex_end outcome, ← lines]
    split <;> simp_all
  | (.error e, last) =>
    rw [outcome] at first cursor
    have lines : behind.lines = last.lines := congrArg Cursor.lines cursor
    rw [lex, Cursor.lex_failure outcome, ← lines]
    split <;> simp_all
termination_by s.pending.length

end Scanner

end Abacus
