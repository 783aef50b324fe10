import Abacus.Lexing

/-! The lexical grammar.  A text is laid out as a sequence of items: blanks, comments, and lexemes
in their spellings.  Whether an item may stand in a place depends on the text behind it, because a
run of digits or letters takes in all that follow, an operator takes a second character if it can,
and only the last comment may lack its newline.  The grammar is stated without reading: it says
which items make up a text, not how to find them, and it has its own tables of the quotes, the
blanks, the marks and the operators. -/

namespace Abacus

/-- The characters that open and close strings. -/
def quoteTable : List Char := ['\x27', '\x22']

/-- The characters that may stand between lexemes and mean nothing. -/
def blankTable : List Char := [' ', '\t', '\r']

/-- The characters that are lexemes whatever follows, each with its kind. -/
def markTable : List (Char × Kind) :=
  [('\n', .instructionEnd), (';', .instructionEnd), ('(', .blockStart), (')', .blockEnd)]

/-- The operators of one character, each with its kind. -/
def singleTable : List (Char × Kind) :=
  [('<', .comparator), ('>', .comparator), ('=', .assignment), ('!', .logical), ('&', .bitwise),
   ('|', .bitwise), ('^', .bitwise), ('+', .arithmetic), ('-', .arithmetic), ('*', .arithmetic),
   ('/', .arithmetic), ('%', .arithmetic)]

/-- The operators of two characters, each with its kind. -/
def doubleTable : List (Char × Char × Kind) :=
  [('<', '=', .comparator), ('>', '=', .comparator), ('=', '=', .comparator),
   ('!', '=', .comparator), ('&', '&', .logical), ('|', '|', .logical), ('^', '^', .logical),
   ('+', '+', .assignment), ('+', '=', .assignment), ('-', '-', .assignment),
   ('-', '=', .assignment), ('*', '*', .arithmetic), ('*', '=', .assignment),
   ('/', '=', .assignment), ('%', '=', .assignment)]

/-- A lexeme, its spelling, and a text behind which the spelling is complete. -/
inductive Spelled : Lexeme → (spelling after : List Char) → Prop where
  /-- A string is a body between two quotes that do not occur in it. -/
  | string {q : Char} {body after : List Char} (quote : q ∈ quoteTable) (free : q ∉ body) :
    Spelled ⟨.string, String.ofList body⟩ (q :: (body ++ [q])) after
  /-- A number is a run of digits that no digit follows. -/
  | number {c : Char} {cs after : List Char} (run : ∀ d ∈ c :: cs, d.isDigit = true)
    (stop : ∀ d ∈ after.head?, d.isDigit = false) :
    Spelled ⟨.number, String.ofList (c :: cs)⟩ (c :: cs) after
  /-- A name is a run of alphabetic characters that no alphabetic character follows. -/
  | reference {c : Char} {cs after : List Char}
    (run : ∀ d ∈ c :: cs, Unicode.isAlphabetic d = true)
    (stop : ∀ d ∈ after.head?, Unicode.isAlphabetic d = false) :
    Spelled ⟨.reference, String.ofList (c :: cs)⟩ (c :: cs) after
  /-- A newline, a semicolon or a parenthesis stands for itself. -/
  | mark {c : Char} {kind : Kind} {after : List Char} (mark : (c, kind) ∈ markTable) :
    Spelled ⟨kind, String.ofList [c]⟩ [c] after
  /-- Two characters that pair are one operator. -/
  | pair {c d : Char} {kind : Kind} {after : List Char} (pairs : (c, d, kind) ∈ doubleTable) :
    Spelled ⟨kind, String.ofList [c, d]⟩ [c, d] after
  /-- An operator of one character has a character behind it that it does not pair with. -/
  | alone {c d : Char} {kind : Kind} {after : List Char} (single : (c, kind) ∈ singleTable)
    (differs : ∀ paired, (c, d, paired) ∉ doubleTable) :
    Spelled ⟨kind, String.ofList [c]⟩ [c] (d :: after)

/-- A piece of a text. -/
inductive Item where
  | blank (c : Char)
  /-- A comment with its newline. -/
  | comment (body : List Char)
  /-- A comment that runs to the end of the text. -/
  | lastComment (body : List Char)
  | lexeme (lexeme : Lexeme) (spelling : List Char)

namespace Item

/-- The characters of an item. -/
def text : Item → List Char
  | .blank c => [c]
  | .comment body => '#' :: (body ++ ['\n'])
  | .lastComment body => '#' :: body
  | .lexeme _ spelling => spelling

/-- The lexeme that an item is, if it is one. -/
def lexeme? : Item → Option Lexeme
  | .lexeme l _ => some l
  | _ => none

/-- The item may stand in front of the text `after`. -/
def Fits : Item → (after : List Char) → Prop
  | .blank c, _ => c ∈ blankTable
  | .comment body, _ => '\n' ∉ body
  | .lastComment body, after => '\n' ∉ body ∧ after = []
  | .lexeme l spelling, after => Spelled l spelling after

end Item

/-- The characters of a sequence of items. -/
def textOf (items : List Item) : List Char := items.flatMap Item.text

/-- The lexemes of a sequence of items. -/
def lexemesOf (items : List Item) : List Lexeme := items.filterMap Item.lexeme?

/-- Each of the items may stand where it stands, when the text `after` follows the last. -/
def Layout : List Item → (after : List Char) → Prop
  | [], _ => True
  | item :: items, after => item.Fits (textOf items ++ after) ∧ Layout items after

/-! ### The tables are those of the reading -/

theorem newline_not_mem_quoteTable : '\n' ∉ quoteTable := by decide

theorem newline_not_mem_blankTable : '\n' ∉ blankTable := by decide

theorem isQuote_iff {c : Char} : isQuote c = true ↔ c ∈ quoteTable := by
  simp [isQuote, quoteTable]

theorem isBlank_iff {c : Char} : isBlank c = true ↔ c ∈ blankTable := by
  simp [isBlank, blankTable, or_assoc]

theorem mark?_eq_some_iff {c : Char} {kind : Kind} :
    mark? c = some kind ↔ (c, kind) ∈ markTable := by
  unfold mark?
  split <;> simp_all [markTable, eq_comm]

theorem mem_singleTable_iff {c : Char} {kind : Kind} :
    (c, kind) ∈ singleTable ↔ ∃ p, pairing? c = some p ∧ p.alone = kind := by
  unfold pairing?
  split <;> simp_all [singleTable, eq_comm]

theorem mem_doubleTable_iff {c d : Char} {kind : Kind} :
    (c, d, kind) ∈ doubleTable ↔ ∃ p, pairing? c = some p ∧ p.kind? d = some kind := by
  unfold pairing?
  split <;> simp_all [doubleTable, Pairing.kind?, List.lookup_cons] <;> grind

/-- A character pairs with no other exactly if its pairing says so. -/
theorem forall_not_mem_doubleTable_iff {c d : Char} {p : Pairing} (starts : pairing? c = some p) :
    (∀ kind, (c, d, kind) ∉ doubleTable) ↔ p.kind? d = none := by
  simp only [mem_doubleTable_iff, starts, Option.some.injEq, exists_eq_left']
  cases p.kind? d <;> simp

/-! ### The classes of first characters are disjoint -/

theorem pairing?_eq_none_of_isQuote {c : Char} (h : isQuote c = true) : pairing? c = none := by
  unfold pairing?
  split <;> simp_all +decide

theorem isQuote_eq_false_of_pairing {c : Char} {p : Pairing} (h : pairing? c = some p) :
    isQuote c = false := by
  cases quote : isQuote c with
  | false => rfl
  | true => simp [pairing?_eq_none_of_isQuote quote] at h

theorem isQuote_eq_false_of_mark {c : Char} {kind : Kind} (h : mark? c = some kind) :
    isQuote c = false := by
  unfold mark? at h
  split at h <;> simp_all +decide

theorem pairing?_eq_none_of_mark {c : Char} {kind : Kind} (h : mark? c = some kind) :
    pairing? c = none := by
  unfold mark? at h
  split at h <;> simp_all +decide

theorem isQuote_eq_false_of_isDigit {c : Char} (h : c.isDigit = true) : isQuote c = false := by
  cases quote : isQuote c with
  | false => rfl
  | true =>
    simp only [isQuote, Bool.or_eq_true, decide_eq_true_eq] at quote
    rcases quote with rfl | rfl <;> simp +decide at h

theorem isQuote_eq_false_of_isAlphabetic {c : Char} (h : Unicode.isAlphabetic c = true) :
    isQuote c = false := by
  cases quote : isQuote c with
  | false => rfl
  | true =>
    simp only [isQuote, Bool.or_eq_true, decide_eq_true_eq] at quote
    rcases quote with rfl | rfl <;> simp +decide at h

theorem isDigit_eq_false_of_isAlphabetic {c : Char} (h : Unicode.isAlphabetic c = true) :
    c.isDigit = false := by
  cases digit : c.isDigit with
  | false => rfl
  | true =>
    have low : c.toNat < 128 := by
      simp only [Char.isDigit, Bool.and_eq_true, decide_eq_true_eq] at digit
      have := UInt32.le_iff_toNat_le.mp digit.2
      change c.toNat ≤ 57 at this
      omega
    rw [Unicode.isAlphabetic_of_lt low] at h
    delta Char.isAlpha Char.isUpper Char.isLower at h
    simp only [Char.isDigit, Bool.and_eq_true, Bool.or_eq_true, decide_eq_true_eq,
      UInt32.le_iff_toNat_le] at digit h
    simp +decide at digit h
    omega

theorem pairing?_eq_none_of_isDigit {c : Char} (h : c.isDigit = true) : pairing? c = none := by
  unfold pairing?
  split <;> simp_all +decide

theorem mark?_eq_none_of_isDigit {c : Char} (h : c.isDigit = true) : mark? c = none := by
  unfold mark?
  split <;> simp_all +decide

theorem pairing?_eq_none_of_isAlphabetic {c : Char} (h : Unicode.isAlphabetic c = true) :
    pairing? c = none := by
  unfold pairing?
  split <;> simp_all +decide

theorem mark?_eq_none_of_isAlphabetic {c : Char} (h : Unicode.isAlphabetic c = true) :
    mark? c = none := by
  unfold mark?
  split <;> simp_all +decide

/-! ### The first lexeme is the one that fits -/

theorem takeWhile_append_stop {p : Char → Bool} {cs after : List Char}
    (run : ∀ d ∈ cs, p d = true) (stop : ∀ d ∈ after.head?, p d = false) :
    (cs ++ after).takeWhile p = cs ∧ (cs ++ after).dropWhile p = after := by
  induction cs with
  | nil =>
    cases after with
    | nil => simp
    | cons d rest => simp [stop d rfl]
  | cons c cs ih =>
    have tail := ih fun d hd => run d (List.mem_cons_of_mem c hd)
    simp [run c List.mem_cons_self, tail.1, tail.2]

namespace Cut

/-- A lexeme whose spelling stands at the front of a text is the first lexeme of the text. -/
theorem first_of_spelled {l : Lexeme} {spelling after : List Char} (h : Spelled l spelling after) :
    ∃ c cs, spelling ++ after = c :: cs ∧ first c cs = ⟨.ok l, spelling, after⟩ := by
  cases h with
  | @string q body _ quote free =>
    have quote := isQuote_iff.mpr quote
    refine ⟨q, body ++ [q] ++ after, by simp, ?_⟩
    have other : ∀ d ∈ body, (d != q) = true := fun d hd => bne_iff_ne.mpr fun same =>
      free (same ▸ hd)
    have stop : ∀ d ∈ (q :: after).head?, (d != q) = false := by simp
    have cut := takeWhile_append_stop other stop
    simp [first, quote, string, cut.1, cut.2]
  | @number c cs _ run stop =>
    refine ⟨c, cs ++ after, rfl, ?_⟩
    have digit := run c List.mem_cons_self
    have cut := takeWhile_append_stop (fun d hd => run d (List.mem_cons_of_mem c hd)) stop
    simp [first, isQuote_eq_false_of_isDigit digit, pairing?_eq_none_of_isDigit digit,
      mark?_eq_none_of_isDigit digit, digit, Cut.run, cut.1, cut.2]
  | @reference c cs _ run stop =>
    refine ⟨c, cs ++ after, rfl, ?_⟩
    have letter := run c List.mem_cons_self
    have cut := takeWhile_append_stop (fun d hd => run d (List.mem_cons_of_mem c hd)) stop
    simp [first, isQuote_eq_false_of_isAlphabetic letter, pairing?_eq_none_of_isAlphabetic letter,
      mark?_eq_none_of_isAlphabetic letter, isDigit_eq_false_of_isAlphabetic letter, letter,
      Cut.run, cut.1, cut.2]
  | @mark c kind _ mark =>
    have mark := mark?_eq_some_iff.mpr mark
    refine ⟨c, after, rfl, ?_⟩
    simp [first, isQuote_eq_false_of_mark mark, pairing?_eq_none_of_mark mark, mark]
  | @pair c d kind _ pairs =>
    obtain ⟨p, starts, pairs⟩ := mem_doubleTable_iff.mp pairs
    refine ⟨c, d :: after, rfl, ?_⟩
    simp [first, isQuote_eq_false_of_pairing starts, starts, operator, pairs]
  | @alone c d kind rest single differs =>
    obtain ⟨p, starts, rfl⟩ := mem_singleTable_iff.mp single
    have differs := (forall_not_mem_doubleTable_iff starts).mp differs
    refine ⟨c, d :: rest, rfl, ?_⟩
    simp [first, isQuote_eq_false_of_pairing starts, starts, operator, differs]

theorem all_run {p : Char → Bool} {c : Char} {cs : List Char} (h : p c = true) :
    ∀ d ∈ c :: cs.takeWhile p, p d = true := by
  have tail := List.all_eq_true.mp (List.all_takeWhile (p := p) (l := cs))
  simpa [h] using tail

theorem stop_run {p : Char → Bool} {cs : List Char} :
    ∀ d ∈ (cs.dropWhile p).head?, p d = false := by
  intro d hd
  have stop := List.head?_dropWhile_not p cs
  rw [Option.mem_def.mp hd] at stop
  exact stop

theorem string_spelled {q : Char} {cs : List Char} {l : Lexeme} (quote : isQuote q = true)
    (h : (string q cs).found = .ok l) :
    Spelled l (string q cs).spelling (string q cs).rest := by
  have stop := @stop_run (· != q) cs
  unfold string at h ⊢
  simp only at h ⊢
  split at h
  · cases h
  · rename_i close rest behind
    cases h
    have closes : close = q := by simpa [behind] using stop
    subst closes
    refine .string (isQuote_iff.mp quote) fun inside => ?_
    have := List.all_eq_true.mp List.all_takeWhile close inside
    simp at this

theorem operator_spelled {p : Pairing} {c : Char} {cs : List Char} {l : Lexeme}
    (starts : pairing? c = some p) (h : (operator p c cs).found = .ok l) :
    Spelled l (operator p c cs).spelling (operator p c cs).rest := by
  cases cs with
  | nil => cases h
  | cons d rest =>
    simp only [operator] at h ⊢
    split at h
    · rename_i kind pairs
      cases h
      exact .pair (mem_doubleTable_iff.mpr ⟨p, starts, pairs⟩)
    · rename_i differs
      cases h
      exact .alone (mem_singleTable_iff.mpr ⟨p, starts, rfl⟩)
        ((forall_not_mem_doubleTable_iff starts).mpr differs)

/-- The first lexeme of a text is complete in front of the rest. -/
theorem first_spelled {c : Char} {cs : List Char} {l : Lexeme} (h : (first c cs).found = .ok l) :
    Spelled l (first c cs).spelling (first c cs).rest := by
  revert h
  unfold first
  split
  · rename_i quote
    exact string_spelled quote
  · split
    · rename_i starts
      exact operator_spelled starts
    · split
      · rename_i mark
        intro h
        cases h
        exact .mark (mark?_eq_some_iff.mp mark)
      · split
        · rename_i digit
          intro h
          cases h
          exact .number (all_run digit) stop_run
        · split
          · rename_i letter
            intro h
            cases h
            exact .reference (all_run letter) stop_run
          · intro h
            cases h

end Cut

end Abacus
