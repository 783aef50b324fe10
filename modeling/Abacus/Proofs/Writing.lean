import Abacus.Proofs.LexicalGrammar

/-! Lexemes written out.  A lexeme of the shape that its kind asks for is written as its text, and a
string between two quotes of a sort that it does not hold.  Behind it stands a gap of blanks and
comments.  The first character of a gap goes on with no lexeme, so the lexemes that are written are
the lexemes that are read; and those of the right shape are all that can ever be read. -/

namespace Abacus

/-! ### What may follow a lexeme -/

/-- The character goes on with no lexeme that stands before it. -/
structure EndsLexeme (c : Char) : Prop where
  digit : c.isDigit = false
  letter : Unicode.isAlphabetic c = false
  second : ∀ d kind, (d, c, kind) ∉ doubleTable

theorem endsLexeme_newline : EndsLexeme '\n' :=
  ⟨rfl, by decide, by simp [doubleTable]⟩

theorem endsLexeme_of_trivia {c : Char} (h : c ∈ blankTable ∨ c = '#') : EndsLexeme c := by
  simp only [blankTable, List.mem_cons, List.not_mem_nil, or_false] at h
  rcases h with (rfl | rfl | rfl) | rfl <;> exact ⟨rfl, by decide, by simp [doubleTable]⟩

/-- Of the text behind a lexeme only the first character matters. -/
theorem Spelled.of_head {l : Lexeme} {spelling after after' : List Char}
    (h : Spelled l spelling after)
    (head : after'.head? = after.head? ∨ ∃ c, after'.head? = some c ∧ EndsLexeme c) :
    Spelled l spelling after' := by
  have stop {p : Char → Bool} (ends : ∀ c, EndsLexeme c → p c = false)
      (last : ∀ d ∈ after.head?, p d = false) : ∀ d ∈ after'.head?, p d = false := by
    intro d member
    rcases head with same | ⟨c, first, stops⟩
    · rw [same] at member
      exact last d member
    · rw [first] at member
      cases member
      exact ends _ stops
  cases h with
  | string quote free => exact .string quote free
  | number run last => exact .number run (stop (fun _ => EndsLexeme.digit) last)
  | reference run last => exact .reference run (stop (fun _ => EndsLexeme.letter) last)
  | mark mark => exact .mark mark
  | pair pairs => exact .pair pairs
  | @alone c d kind rest single differs =>
    -- An operator alone has a character behind it before and after.
    rcases head with same | ⟨e, first, stops⟩
    · obtain ⟨tail, rfl⟩ := List.head?_eq_some_iff.mp same
      exact .alone single differs
    · obtain ⟨tail, rfl⟩ := List.head?_eq_some_iff.mp first
      exact .alone single (stops.second c)

/-! ### Sequences of items -/

theorem textOf_append (items others : List Item) :
    textOf (items ++ others) = textOf items ++ textOf others :=
  List.flatMap_append

theorem lexemesOf_append (items others : List Item) :
    lexemesOf (items ++ others) = lexemesOf items ++ lexemesOf others :=
  List.filterMap_append

theorem layout_append {items others : List Item} {after : List Char}
    (h : Layout items (textOf others ++ after)) (h' : Layout others after) :
    Layout (items ++ others) after := by
  induction items with
  | nil => exact h'
  | cons item items ih =>
    obtain ⟨fits, rest⟩ := h
    have behind : textOf (items ++ others) ++ after = textOf items ++ (textOf others ++ after) := by
      rw [textOf_append, List.append_assoc]
    exact ⟨behind ▸ fits, ih rest⟩

/-! ### Gaps -/

/-- The item is a blank, or a comment with its newline. -/
def Item.Separates : Item → Prop
  | .blank c => c ∈ blankTable
  | .comment body => '\n' ∉ body
  | .lastComment _ => False
  | .lexeme _ _ => False

/-- Any number of blanks and of comments that have their newlines. -/
structure Gap where
  items : List Item
  separates : ∀ item ∈ items, item.Separates

theorem Item.Separates.fits {item : Item} (h : item.Separates) (after : List Char) :
    item.Fits after := by
  cases item with
  | blank c | comment body => exact h
  | lastComment body | lexeme l spelling => cases h

theorem Item.Separates.lexeme?_eq_none {item : Item} (h : item.Separates) :
    item.lexeme? = none := by
  cases item with
  | blank c | comment body | lastComment body => rfl
  | lexeme l spelling => cases h

theorem Item.Separates.text_eq_cons {item : Item} (h : item.Separates) :
    ∃ c cs, item.text = c :: cs ∧ EndsLexeme c := by
  cases item with
  | blank c => exact ⟨c, [], rfl, endsLexeme_of_trivia (.inl h)⟩
  | comment body => exact ⟨'#', body ++ ['\n'], rfl, endsLexeme_of_trivia (.inr rfl)⟩
  | lastComment body | lexeme l spelling => cases h

namespace Gap

def text (gap : Gap) : List Char := textOf gap.items

theorem layout (gap : Gap) (after : List Char) : Layout gap.items after := by
  obtain ⟨items, separates⟩ := gap
  induction items with
  | nil => trivial
  | cons item items ih =>
    obtain ⟨first, later⟩ := List.forall_mem_cons.mp separates
    exact ⟨first.fits _, ih later⟩

theorem lexemesOf_items (gap : Gap) : lexemesOf gap.items = [] := by
  rw [lexemesOf, List.filterMap_eq_nil_iff]
  exact fun item member => (gap.separates item member).lexeme?_eq_none

theorem text_eq_cons {gap : Gap} (h : gap.items ≠ []) :
    ∃ c cs, gap.text = c :: cs ∧ EndsLexeme c := by
  obtain ⟨item, items, split⟩ := List.exists_cons_of_ne_nil h
  obtain ⟨c, cs, front, ends⟩ := (gap.separates item (by simp [split])).text_eq_cons
  refine ⟨c, cs ++ textOf items, ?_, ends⟩
  rw [text, split, textOf_cons, front, List.cons_append]

end Gap

/-! ### Shapes -/

/-- The marks and the operators of a kind. -/
def Kind.spellings (kind : Kind) : List String :=
  ((markTable ++ singleTable).filter (·.2 = kind)).map (fun entry => String.ofList [entry.1]) ++
    (doubleTable.filter (·.2.2 = kind)).map fun entry => String.ofList [entry.1, entry.2.1]

/-- The lexeme has the shape that its kind asks for: a string lacks one of the two quotes, a number
is a run of digits, a name is a run of alphabetic characters, and all others are in the tables. -/
def Lexeme.isShaped (l : Lexeme) : Bool :=
  match l.kind with
  | .string => '\x27' ∉ l.text.toList || '\x22' ∉ l.text.toList
  | .number => l.text ≠ "" && l.text.toList.all Char.isDigit
  | .reference => l.text ≠ "" && l.text.toList.all Unicode.isAlphabetic
  | kind => l.text ∈ kind.spellings

theorem Kind.mem_spellings_iff {kind : Kind} {text : String} :
    text ∈ kind.spellings ↔
      (∃ c, ((c, kind) ∈ markTable ∨ (c, kind) ∈ singleTable) ∧ text = String.ofList [c]) ∨
      ∃ c d, (c, d, kind) ∈ doubleTable ∧ text = String.ofList [c, d] := by
  simp only [spellings, List.mem_append, List.mem_map, List.mem_filter, decide_eq_true_eq,
    Prod.exists, eq_comm (a := text)]
  constructor
  · rintro (⟨c, kind, ⟨member, rfl⟩, text⟩ | ⟨c, d, kind, ⟨member, rfl⟩, text⟩)
    · exact .inl ⟨c, member, text⟩
    · exact .inr ⟨c, d, member, text⟩
  · rintro (⟨c, member, text⟩ | ⟨c, d, member, text⟩)
    · exact .inl ⟨c, kind, ⟨member, rfl⟩, text⟩
    · exact .inr ⟨c, d, kind, ⟨member, rfl⟩, text⟩

example : Kind.arithmetic.spellings = ["+", "-", "*", "/", "%", "**"] := by decide

theorem Lexeme.isShaped_of_mem_spellings {kind : Kind} {text : String} (h : text ∈ kind.spellings) :
    (⟨kind, text⟩ : Lexeme).isShaped = true := by
  cases kind with
  -- The tables have no entry of these three kinds.
  | string | number | reference => cases h
  | _ => exact decide_eq_true h

theorem Spelled.isShaped {l : Lexeme} {spelling after : List Char} (h : Spelled l spelling after) :
    l.isShaped = true := by
  cases h with
  | string quote free =>
    simp only [quoteTable, List.mem_cons, List.not_mem_nil, or_false] at quote
    rcases quote with rfl | rfl <;> simp [Lexeme.isShaped, free]
  | number run _ => simpa [Lexeme.isShaped] using run
  | reference run _ => simpa [Lexeme.isShaped] using run
  | mark mark =>
    exact Lexeme.isShaped_of_mem_spellings (Kind.mem_spellings_iff.mpr (.inl ⟨_, .inl mark, rfl⟩))
  | pair pairs =>
    exact Lexeme.isShaped_of_mem_spellings (Kind.mem_spellings_iff.mpr (.inr ⟨_, _, pairs, rfl⟩))
  | alone single _ =>
    exact Lexeme.isShaped_of_mem_spellings (Kind.mem_spellings_iff.mpr (.inl ⟨_, .inr single, rfl⟩))

/-! ### Words -/

/-- The lexeme in writing, a string between two quotes `q`. -/
def Lexeme.write (l : Lexeme) (q : Char) : List Char :=
  if l.kind = .string then q :: (l.text.toList ++ [q]) else l.text.toList

def Lexeme.Quotable (l : Lexeme) (q : Char) : Prop :=
  l.kind = .string → q ∈ quoteTable ∧ q ∉ l.text.toList

theorem spelled_of_mem_spellings {kind : Kind} {text : String} {c : Char}
    (h : text ∈ kind.spellings) (ends : EndsLexeme c) (after : List Char) :
    Spelled ⟨kind, text⟩ text.toList (c :: after) := by
  rcases Kind.mem_spellings_iff.mp h with ⟨d, mark | single, rfl⟩ | ⟨d, e, pairs, rfl⟩
  · rw [String.toList_ofList]
    exact .mark mark
  · rw [String.toList_ofList]
    exact .alone single (ends.second d)
  · rw [String.toList_ofList]
    exact .pair pairs

theorem exists_run {text : String} {p : Char → Bool}
    (h : (text ≠ "" && text.toList.all p) = true) :
    ∃ c cs, text = String.ofList (c :: cs) ∧ ∀ d ∈ c :: cs, p d = true := by
  simp only [Bool.and_eq_true, decide_eq_true_eq, List.all_eq_true] at h
  obtain ⟨full, run⟩ := h
  have nonempty : text.toList ≠ [] := by simpa using full
  obtain ⟨c, cs, split⟩ := List.exists_cons_of_ne_nil nonempty
  refine ⟨c, cs, ?_, split ▸ run⟩
  rw [← split, String.ofList_toList]

/-- In front of a character that ends it, a lexeme of the right shape is spelled as it is written. -/
theorem Lexeme.spelled_write {l : Lexeme} {q c : Char} (shaped : l.isShaped = true)
    (quotable : l.Quotable q) (ends : EndsLexeme c) (after : List Char) :
    Spelled l (l.write q) (c :: after) := by
  obtain ⟨kind, text⟩ := l
  cases kind with
  | string =>
    obtain ⟨quote, free⟩ := quotable rfl
    have spelled := @Spelled.string q text.toList (c :: after) quote free
    rwa [String.ofList_toList] at spelled
  | number =>
    obtain ⟨d, ds, rfl, run⟩ := exists_run shaped
    have spelled := @Spelled.number d ds (c :: after) run (by simpa using ends.digit)
    simpa [write] using spelled
  | reference =>
    obtain ⟨d, ds, rfl, run⟩ := exists_run shaped
    have spelled := @Spelled.reference d ds (c :: after) run (by simpa using ends.letter)
    simpa [write] using spelled
  | _ => exact spelled_of_mem_spellings (of_decide_eq_true shaped) ends after

/-- A lexeme that is written, with the quote to write it with if it is a string, and the gap behind
it, which is not empty. -/
structure Word where
  lexeme : Lexeme
  quote : Char
  gap : Gap
  shaped : lexeme.isShaped = true
  quotable : lexeme.Quotable quote
  parted : gap.items ≠ []

namespace Word

def text (word : Word) : List Char := word.lexeme.write word.quote ++ word.gap.text

def items (word : Word) : List Item :=
  .lexeme word.lexeme (word.lexeme.write word.quote) :: word.gap.items

theorem textOf_items (word : Word) : textOf word.items = word.text := by
  rw [items, textOf_cons]
  rfl

theorem layout (word : Word) (after : List Char) : Layout word.items after := by
  obtain ⟨c, cs, front, ends⟩ := Gap.text_eq_cons word.parted
  refine ⟨?_, word.gap.layout after⟩
  change Spelled _ _ (word.gap.text ++ after)
  rw [front, List.cons_append]
  exact Lexeme.spelled_write word.shaped word.quotable ends (cs ++ after)

theorem lexemesOf_items (word : Word) : lexemesOf word.items = [word.lexeme] :=
  congrArg (word.lexeme :: ·) word.gap.lexemesOf_items

end Word

/-- The text of words one after another. -/
def written (words : List Word) : String := String.ofList (words.flatMap Word.text)

theorem laysOut_written (words : List Word) :
    LaysOut (words.flatMap Word.items) (written words) := by
  refine ⟨?_, ?_⟩
  · induction words with
    | nil => trivial
    | cons word words ih => exact layout_append (word.layout _) ih
  · rw [written, String.toList_ofList, textOf, List.flatMap_assoc]
    exact congrArg (List.flatMap · words) (funext Word.textOf_items)

theorem lexemesOf_words (words : List Word) :
    lexemesOf (words.flatMap Word.items) = words.map Word.lexeme := by
  induction words with
  | nil => rfl
  | cons word words ih =>
    rw [List.flatMap_cons, lexemesOf_append, word.lexemesOf_items, ih]
    rfl

theorem isShaped_of_layout {items : List Item} {after : List Char} (h : Layout items after)
    {l : Lexeme} (member : l ∈ lexemesOf items) : l.isShaped = true := by
  induction items with
  | nil => cases member
  | cons item items ih =>
    obtain ⟨fits, rest⟩ := h
    cases item with
    | blank c | comment body | lastComment body => exact ih rest member
    | lexeme first spelling =>
      rcases List.mem_cons.mp member with rfl | later
      · exact Spelled.isShaped fits
      · exact ih rest later

/-- Words are read as they are written, whatever their quotes and gaps; and every lexeme that is ever
read has the shape of a word. -/
theorem lexing_undoes_writing :
    (∀ words : List Word, ∃ lexed, (Lexing.ofText (written words)).result = .ok lexed ∧
      lexed.tokens.map Token.toLexeme = words.map Word.lexeme) ∧
    ∀ (text : String) (lexed : Lexed), (Lexing.ofText text).result = .ok lexed →
      ∀ t ∈ lexed.tokens, t.toLexeme.isShaped = true := by
  refine ⟨fun words => ?_, fun text lexed result t member => ?_⟩
  · refine ⟨_, result_of_laysOut (laysOut_written words), ?_⟩
    rw [lexemes_tokensOf, lexemesOf_words]
  · obtain ⟨items, laid⟩ := exists_laysOut_of_result result
    rw [result_of_laysOut laid] at result
    cases result
    refine isShaped_of_layout laid.1 ?_
    rw [← lexemes_tokensOf items 0]
    exact List.mem_map_of_mem member

/-- A string that holds a number sign, a newline and the other quote, and two operators that a comment
and a carriage return follow. -/
def sampleWords : List Word :=
  [⟨⟨.string, "#\n\""⟩, '\x27', ⟨[.blank ' '], by simp [Item.Separates, blankTable]⟩, rfl,
      fun _ => by decide, by simp⟩,
    ⟨⟨.arithmetic, "+"⟩, '\x27', ⟨[.comment ['=', '\x27']], by simp [Item.Separates]⟩, by decide,
      nofun, by simp⟩,
    ⟨⟨.assignment, "="⟩, '\x27', ⟨[.blank '\r', .blank '\t'], by simp [Item.Separates, blankTable]⟩,
      by decide, nofun, by simp⟩]

theorem lexing_of_sampleWords :
    ∃ lexed, (Lexing.ofText "'#\n\"' +#='\n=\r\t").result = .ok lexed ∧
      lexed.tokens.map Token.toLexeme =
        [⟨.string, "#\n\""⟩, ⟨.arithmetic, "+"⟩, ⟨.assignment, "="⟩] ∧
      ∀ t ∈ lexed.tokens, t.toLexeme.isShaped = true := by
  obtain ⟨lexed, result, lexemes⟩ := lexing_undoes_writing.1 sampleWords
  exact ⟨lexed, result, lexemes, lexing_undoes_writing.2 _ lexed result⟩

end Abacus
