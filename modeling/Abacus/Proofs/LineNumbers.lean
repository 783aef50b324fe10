import Abacus.Proofs.LineBreaks

/-! The line of every token.  A lexeme stands behind the items in front of it, and its token has the
line that the newlines of those items put it on, whether reading goes on to the end of the text or
fails further down.  Newlines occur in three places only: as marks, inside strings, and at the ends
of comments, and a reading counts each of them once.  A text that lexes can therefore be joined to
another by a newline: the second is read as it is by itself, that many lines further down. -/

namespace Abacus

/-! ### Tokens in their places -/

theorem tokensOf_append (items others : List Item) (lines : Nat) :
    tokensOf (items ++ others) lines =
      tokensOf items lines ++ tokensOf others (lines + (textOf items).count '\n') := by
  induction items generalizing lines with
  | nil => rfl
  | cons item items ih =>
    rw [List.cons_append, tokensOf, tokensOf, ih, textOf_cons, List.count_append, Nat.add_assoc,
      List.append_assoc]

theorem length_tokensOf (items : List Item) (lines : Nat) :
    (tokensOf items lines).length = (lexemesOf items).length := by
  rw [← lexemes_tokensOf items lines, List.length_map]

theorem token_of_item (items : List Item) (l : Lexeme) (spelling : List Char) (back : List Item)
    (lines : Nat) :
    (tokensOf (items ++ .lexeme l spelling :: back) lines)[(lexemesOf items).length]? =
      some ⟨l, lines + (textOf items).count '\n' + 1⟩ := by
  rw [tokensOf_append, List.getElem?_append_right (Nat.le_of_eq (length_tokensOf items lines)),
    length_tokensOf, Nat.sub_self]
  rfl

theorem exists_item_of_token {items : List Item} {lines i : Nat} {t : Token}
    (h : (tokensOf items lines)[i]? = some t) :
    ∃ front spelling back, items = front ++ .lexeme t.toLexeme spelling :: back ∧
      (lexemesOf front).length = i ∧ t.line = lines + (textOf front).count '\n' + 1 := by
  induction items generalizing lines i with
  | nil => cases h
  | cons item items ih =>
    cases item with
    | blank c | comment body | lastComment body =>
      -- the item moves the line of the token, and not its number
      obtain ⟨front, spelling, back, rfl, before, line⟩ := ih h
      refine ⟨_ :: front, spelling, back, rfl, before, ?_⟩
      rw [line, textOf_cons, List.count_append, Nat.add_assoc lines]
    | lexeme l spelling =>
      cases i with
      | zero =>
        cases h
        exact ⟨[], spelling, items, rfl, rfl, rfl⟩
      | succ i =>
        obtain ⟨front, inner, back, rfl, before, line⟩ := ih h
        refine ⟨.lexeme l spelling :: front, inner, back, rfl, congrArg (· + 1) before, ?_⟩
        rw [line, textOf_cons, List.count_append, Nat.add_assoc lines]

/-- The tokens of a text are those of a layout of its front, behind which nothing is read. -/
theorem exists_layout_of_text (text : String) :
    ∃ items after, Layout items after ∧ textOf items ++ after = text.toList ∧
      (Lexing.ofText text).tokens = tokensOf items 0 := by
  obtain ⟨items, after, layout, whole, stuck⟩ := exists_layout text.toList
  refine ⟨items, after, layout, whole, ?_⟩
  have rest (lines : Nat) : (⟨after, lines⟩ : Cursor).lex.tokens = [] := by
    cases after with
    | nil => rw [Cursor.lex_nil]
    | cons c cs =>
      obtain ⟨e, -, failure⟩ := Cursor.lex_stuck stuck lines
      rw [failure]
  rw [Lexing.ofText, Cursor.ofText, ← whole, lex_layout layout]
  simp [Lexing.prepend, rest]

theorem layout_split {items others : List Item} {after : List Char}
    (h : Layout (items ++ others) after) :
    Layout items (textOf others ++ after) ∧ Layout others after := by
  induction items with
  | nil => exact ⟨trivial, h⟩
  | cons item items ih =>
    obtain ⟨fits, rest⟩ := h
    obtain ⟨front, back⟩ := ih rest
    have behind : textOf (items ++ others) ++ after = textOf items ++ (textOf others ++ after) := by
      rw [textOf_append, List.append_assoc]
    exact ⟨⟨behind ▸ fits, front⟩, back⟩

/-- In the text stands the lexeme, right behind the characters `front`, which hold `i` lexemes.  All
characters of `front` belong to items, and the lexeme is complete in front of what follows it. -/
def StandsBehind (text : String) (front : List Char) (i : Nat) (l : Lexeme) : Prop :=
  ∃ items spelling after, Layout items (spelling ++ after) ∧ Spelled l spelling after ∧
    textOf items = front ∧ (lexemesOf items).length = i ∧ front ++ (spelling ++ after) = text.toList

theorem tokens_of_layout {text : String} {items : List Item} {after : List Char}
    (h : Layout items after) (whole : textOf items ++ after = text.toList) :
    ∃ later, (Lexing.ofText text).tokens = tokensOf items 0 ++ later := by
  rw [Lexing.ofText, Cursor.ofText, ← whole, lex_layout h]
  exact ⟨_, rfl⟩

theorem token_of_standsBehind {text : String} {front : List Char} {i : Nat} {l : Lexeme}
    (h : StandsBehind text front i l) :
    (Lexing.ofText text).tokens[i]? = some ⟨l, 1 + front.count '\n'⟩ := by
  obtain ⟨items, spelling, after, layout, spelled, rfl, rfl, whole⟩ := h
  -- with the lexeme itself the items still lay out a front of the text, and their tokens come first
  have own : textOf [.lexeme l spelling] = spelling := by simp [textOf, Item.text]
  have reading : Layout (items ++ [.lexeme l spelling]) after :=
    layout_append (own.symm ▸ layout) ⟨spelled, trivial⟩
  have all : textOf (items ++ [.lexeme l spelling]) ++ after = text.toList := by
    rw [textOf_append, own, List.append_assoc, whole]
  obtain ⟨later, tokens⟩ := tokens_of_layout reading all
  have place := token_of_item items l spelling [] 0
  have inside := (List.getElem?_eq_some_iff.mp place).1
  rw [tokens, List.getElem?_append_left inside, place, Nat.zero_add, Nat.add_comm]

theorem exists_standsBehind_of_token {text : String} {i : Nat} {t : Token}
    (h : (Lexing.ofText text).tokens[i]? = some t) :
    ∃ front, StandsBehind text front i t.toLexeme ∧ t.line = 1 + front.count '\n' := by
  obtain ⟨items, after, layout, whole, tokens⟩ := exists_layout_of_text text
  rw [tokens] at h
  obtain ⟨front, spelling, back, rfl, before, line⟩ := exists_item_of_token h
  obtain ⟨first, fits, -⟩ := layout_split layout
  rw [textOf_cons, List.append_assoc] at first
  rw [textOf_append, textOf_cons, List.append_assoc, List.append_assoc] at whole
  exact ⟨_, ⟨front, spelling, _, first, fits, rfl, before, whole⟩, by omega⟩

/-! ### Newlines in their places -/

/-- The characters between the quotes of a string.  Other lexemes have no inside. -/
def Lexeme.inside (l : Lexeme) : List Char := if l.kind = .string then l.text.toList else []

/-- The item is a comment with its newline. -/
def Item.isComment : Item → Bool
  | .comment _ => true
  | _ => false

/-- A lexeme that holds newlines is a newline itself or a string. -/
theorem Spelled.count_newline {l : Lexeme} {spelling after : List Char}
    (h : Spelled l spelling after) :
    spelling.count '\n' = [l].count ⟨.instructionEnd, "\n"⟩ + l.inside.count '\n' := by
  cases h with
  | @string q body _ quote free =>
    have other := ne_of_mem_of_not_mem quote newline_not_mem_quoteTable
    simp [Lexeme.inside, other]
  | number run _ =>
    have none : '\n' ∉ _ := fun member => absurd (run '\n' member) (by decide)
    simp [Lexeme.inside, List.count_eq_zero.mpr none]
  | reference run _ =>
    have none : '\n' ∉ _ := fun member => absurd (run '\n' member) (by decide)
    simp [Lexeme.inside, List.count_eq_zero.mpr none]
  | mark mark =>
    simp only [markTable, List.mem_cons, Prod.mk.injEq, List.not_mem_nil, or_false] at mark
    rcases mark with ⟨rfl, rfl⟩ | ⟨rfl, rfl⟩ | ⟨rfl, rfl⟩ | ⟨rfl, rfl⟩ <;> decide
  | pair pairs =>
    have table : ∀ entry ∈ doubleTable, entry.1 ≠ '\n' ∧ entry.2.1 ≠ '\n' ∧
        entry.2.2 ≠ .instructionEnd ∧ entry.2.2 ≠ .string := by decide
    obtain ⟨first, second, mark, text⟩ := table _ pairs
    simp_all [Lexeme.inside]
  | alone single _ =>
    have table : ∀ entry ∈ singleTable, entry.1 ≠ '\n' ∧ entry.2 ≠ .instructionEnd ∧
        entry.2 ≠ .string := by decide
    obtain ⟨first, mark, text⟩ := table _ single
    simp_all [Lexeme.inside]

theorem Item.count_newline {item : Item} {after : List Char} (h : item.Fits after) :
    item.text.count '\n' =
      item.lexeme?.toList.count ⟨.instructionEnd, "\n"⟩ +
        (item.lexeme?.toList.flatMap Lexeme.inside).count '\n' + [item].countP Item.isComment := by
  cases item with
  | blank c =>
    have other := ne_of_mem_of_not_mem h newline_not_mem_blankTable
    simp [Item.text, other, Item.lexeme?, Item.isComment]
  | comment body =>
    have none : body.count '\n' = 0 := List.count_eq_zero.mpr h
    simp [Item.text, none, Item.lexeme?, Item.isComment]
  | lastComment body =>
    have none : body.count '\n' = 0 := List.count_eq_zero.mpr h.1
    simp [Item.text, none, Item.lexeme?, Item.isComment]
  | lexeme l spelling =>
    have own : (Item.lexeme l spelling).lexeme?.toList.flatMap Lexeme.inside = l.inside :=
      List.append_nil l.inside
    rw [own]
    exact Spelled.count_newline h

theorem lexemesOf_cons (item : Item) (items : List Item) :
    lexemesOf (item :: items) = item.lexeme?.toList ++ lexemesOf items := by
  cases item <;> rfl

/-- The newlines of a layout are its newline marks, those inside its strings, and one for each of
its comments. -/
theorem count_newline_of_layout {items : List Item} {after : List Char} (h : Layout items after) :
    (textOf items).count '\n' =
      (lexemesOf items).count ⟨.instructionEnd, "\n"⟩ +
        ((lexemesOf items).flatMap Lexeme.inside).count '\n' + items.countP Item.isComment := by
  induction items with
  | nil => rfl
  | cons item items ih =>
    obtain ⟨fits, rest⟩ := h
    have first := Item.count_newline fits
    have later := ih rest
    rw [textOf_cons, lexemesOf_cons, ← List.singleton_append (l := items)]
    simp only [List.count_append, List.flatMap_append, List.countP_append]
    omega

/-- A scanner of a text gives the tokens of its lexing.  A token is number `i` exactly if its lexeme
stands in the text behind `i` others, and its line is one more than the number of newlines in front
of the first character of the lexeme, also where reading fails further down.  A text that lexes has
as many lines passed as it has newlines: those that are tokens, those inside strings, and those of
comments. -/
theorem token_lines_exact (text : String) :
    (Scanner.ofChars text.toList).lex = some (Lexing.ofText text) ∧
    (∀ (i : Nat) (t : Token), (Lexing.ofText text).tokens[i]? = some t ↔
      ∃ front, StandsBehind text front i t.toLexeme ∧ t.line = 1 + front.count '\n') ∧
    ∀ lexed, (Lexing.ofText text).result = .ok lexed →
      lexed.lines = text.toList.count '\n' ∧
      ∃ items, LaysOut items text ∧ lexemesOf items = lexed.tokens.map Token.toLexeme ∧
        lexed.lines = (lexemesOf items).count ⟨.instructionEnd, "\n"⟩ +
          ((lexemesOf items).flatMap Lexeme.inside).count '\n' + items.countP Item.isComment := by
  refine ⟨?_, fun i t => ⟨exists_standsBehind_of_token, ?_⟩, fun lexed result => ?_⟩
  · rw [Scanner.lex_eq_some]
    rfl
  · rintro ⟨front, stands, line⟩
    rw [token_of_standsBehind stands, ← line]
  · obtain ⟨items, laid⟩ := exists_laysOut_of_result result
    rw [result_of_laysOut laid] at result
    cases result
    refine ⟨rfl, items, laid, (lexemes_tokensOf items 0).symm, ?_⟩
    rw [← laid.2]
    exact count_newline_of_layout laid.1

/-- Behind a string over two lines and a comment, the third line has a token, though reading fails
right after it. -/
theorem token_line_behind_comment :
    (Lexing.ofText "'a\nb' # c\n+ @").result = .error ⟨2, .invalidCharacter '@'⟩ ∧
      ∃ front, StandsBehind "'a\nb' # c\n+ @" front 1 ⟨.arithmetic, "+"⟩ ∧
        front.count '\n' = 2 := by
  have token : (Lexing.ofText "'a\nb' # c\n+ @").tokens[1]? = some ⟨⟨.arithmetic, "+"⟩, 3⟩ := by
    decide +kernel
  obtain ⟨front, stands, line⟩ := ((token_lines_exact "'a\nb' # c\n+ @").2.1 1 _).mp token
  have count : 3 = 1 + front.count '\n' := line
  exact ⟨by decide +kernel, front, stands, by omega⟩

/-! ### A newline between two texts -/

/-- The text ends inside a comment. -/
def EndsInComment (text : String) : Prop :=
  ∃ items body, LaysOut (items ++ [.lastComment body]) text

theorem endsInComment_iff {items : List Item} {text : String} (h : LaysOut items text) :
    EndsInComment text ↔ ∃ body, Item.lastComment body ∈ items := by
  constructor
  · rintro ⟨front, body, laid⟩
    have same := layout_unique h.1 laid.1 (h.2.trans laid.2.symm)
    exact ⟨body, by simp [same]⟩
  · rintro ⟨body, member⟩
    obtain ⟨front, back, rfl⟩ := List.append_of_mem member
    -- only the last item can be a comment without its newline
    have last := eq_nil_of_lastComment (layout_split h.1).2
    subst last
    exact ⟨front, body, h⟩

theorem lineEnd_of_mem {items : List Item} {body : List Char} (h : Item.lastComment body ∈ items)
    (lines : Nat) : lineEnd items lines = [] := by
  fun_induction lineEnd items lines with
  | case1 lines => cases h
  | case2 => rfl
  | case3 item items lines other ih =>
    rcases List.mem_cons.mp h with rfl | later
    · exact absurd rfl (other body)
    · exact ih later

theorem lineEnd_of_not_mem {items : List Item} (h : ∀ body, Item.lastComment body ∉ items)
    (lines : Nat) :
    lineEnd items lines =
      [⟨⟨.instructionEnd, "\n"⟩, lines + (textOf items).count '\n' + 1⟩] := by
  fun_induction lineEnd items lines with
  | case1 lines => rfl
  | case2 lines body items => exact absurd List.mem_cons_self (h body)
  | case3 item items lines other ih =>
    rw [ih fun body member => h body (List.mem_cons_of_mem item member), textOf_cons,
      List.count_append, Nat.add_assoc lines]

namespace Lexing

theorem trace_prepend (tokens : List Token) (l : Lexing) :
    (l.prepend tokens).trace = tokens.map Token.trace ++ l.trace :=
  List.map_append

theorem trace_shift (n : Nat) (l : Lexing) : (l.shift n).trace = l.trace := by
  rw [trace, shift, List.map_map]
  rfl

end Lexing

/-- A text that lexes, a newline and a second text lex as the tokens of the first, the newline as a
token of the line behind them unless a comment takes it in, and the tokens of the second further
down.  The whole fails where the second does, further down, and the traces are joined in either
case. -/
theorem lexing_of_joined_lines {a : String} {lexed : Lexed}
    (lexes : (Lexing.ofText a).result = .ok lexed) (b : String) :
    ∃ newline : List Token,
      (EndsInComment a → newline = []) ∧
      (¬EndsInComment a → newline = [⟨⟨.instructionEnd, "\n"⟩, lexed.lines + 1⟩]) ∧
      (∀ later, (Lexing.ofText b).result = .ok later →
        (Lexing.ofText (a ++ "\n" ++ b)).result = .ok
          ⟨lexed.tokens ++ newline ++ later.tokens.map (Token.shift (lexed.lines + 1)),
            later.lines + (lexed.lines + 1)⟩) ∧
      (∀ failure, (Lexing.ofText b).result = .error failure →
        (Lexing.ofText (a ++ "\n" ++ b)).result =
          .error ⟨lexed.lines + 1 + failure.lines, failure.error⟩) ∧
      (Lexing.ofText (a ++ "\n" ++ b)).trace =
        (Lexing.ofText a).trace ++ newline.map Token.trace ++ (Lexing.ofText b).trace := by
  obtain ⟨items, laid⟩ := exists_laysOut_of_result lexes
  have first := Lexing.eq_of_result lexes
  rw [result_of_laysOut laid] at lexes
  cases lexes
  have whole := ofText_break laid b
  refine ⟨lineEnd items 0, fun inside => ?_, fun outside => ?_, fun later result => ?_,
    fun failure result => ?_, ?_⟩
  · obtain ⟨body, member⟩ := (endsInComment_iff laid).mp inside
    exact lineEnd_of_mem member 0
  · have none : ∀ body, Item.lastComment body ∉ items := fun body member =>
      outside ((endsInComment_iff laid).mpr ⟨body, member⟩)
    rw [lineEnd_of_not_mem none, laid.2, Nat.zero_add]
  · rw [whole, Lexing.eq_of_result result]
    rfl
  · have ending := Lexing.result_eq_error_iff.mp result
    rw [whole, Lexing.result_eq_error_iff]
    simp only [Lexing.prepend, Lexing.shift, ending]
    rw [Nat.add_comm]
  · rw [whole, Lexing.trace_prepend, Lexing.trace_shift, List.map_append, first]
    rfl

/-- The first text ends inside a comment, so that the newline is no token; the second fails on its
second line, which is the third of the whole. -/
theorem lexing_of_joined_comment :
    EndsInComment "1 # a" ∧
      (Lexing.ofText ("1 # a" ++ "\n" ++ "2\n @")).result = .error ⟨2, .invalidCharacter '@'⟩ ∧
      (Lexing.ofText ("1 # a" ++ "\n" ++ "2\n @")).trace =
        ["NumberLit: 1", "NumberLit: 2", "InstructionEnd: \\n"] := by
  have lexes : (Lexing.ofText "1 # a").result = .ok ⟨[⟨⟨.number, "1"⟩, 1⟩], 0⟩ := by
    decide +kernel
  have fails : (Lexing.ofText "2\n @").result = .error ⟨1, .invalidCharacter '@'⟩ := by
    decide +kernel
  have inside : EndsInComment "1 # a" := by
    refine ⟨[.lexeme ⟨.number, "1"⟩ ['1'], .blank ' '], [' ', 'a'], ⟨?_, .head _, ?_, trivial⟩, rfl⟩
    · refine .number (List.forall_mem_singleton.mpr rfl) fun d next => ?_
      cases next
      rfl
    · exact ⟨by decide, rfl⟩
  obtain ⟨newline, none, -, -, failed, trace⟩ := lexing_of_joined_lines lexes "2\n @"
  rw [none inside] at trace
  exact ⟨inside, failed _ fails, trace.trans (by decide +kernel)⟩

end Abacus
