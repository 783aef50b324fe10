import Abacus.Proofs.LineBreaks

/-! Texts with other gaps.  Blanks and comments may be put anywhere between the items of a text, in
front of the first and behind the last: the items stay what they are, but for a comment at the end
of the text, which takes in what is put behind it up to a newline.  So the lexemes stay the same, and
only their lines change.  Evaluation uses lines for nothing but its errors, so that the log and the
value stay the same too, or the error up to its line. -/

namespace Abacus

/-! ### Items with gaps behind them -/

/-- The text with a gap in front and the given gap behind each of its items. -/
def respaced (front : Gap) (pieces : List (Item × Gap)) : String :=
  String.ofList (front.text ++ pieces.flatMap fun (item, gap) => item.text ++ gap.text)

/-- The items of a comment without newline and of the gap behind it.  The comment runs to the end of
the first comment of the gap, or takes in all of it. -/
def extendComment (body : List Char) : List Item → List Item
  | [] => [.lastComment body]
  | .comment more :: items => .comment (body ++ '#' :: more) :: items
  | item :: items => extendComment (body ++ item.text) items

/-- The items of an item with a gap behind it. -/
def Item.before (item : Item) (gap : Gap) : List Item :=
  match item with
  | .lastComment body => extendComment body gap.items
  | item => item :: gap.items

/-- The items of a text with a gap behind each. -/
def spread (pieces : List (Item × Gap)) : List Item :=
  pieces.flatMap fun (item, gap) => item.before gap

section Extended

variable {items : List Item} (separates : ∀ item ∈ items, item.Separates)
include separates

theorem textOf_extendComment (body : List Char) :
    textOf (extendComment body items) = '#' :: (body ++ textOf items) := by
  induction items generalizing body with
  | nil => simp [extendComment, textOf, Item.text]
  | cons item items ih =>
    obtain ⟨first, later⟩ := List.forall_mem_cons.mp separates
    cases item with
    | blank c =>
      rw [extendComment, ih later, textOf_cons, List.append_assoc]
      rintro _ ⟨⟩
    | comment more => simp [extendComment, textOf_cons, Item.text]
    | lastComment more | lexeme l spelling => cases first

theorem lexemesOf_extendComment (body : List Char) : lexemesOf (extendComment body items) = [] := by
  induction items generalizing body with
  | nil => rfl
  | cons item items ih =>
    obtain ⟨first, later⟩ := List.forall_mem_cons.mp separates
    cases item with
    | blank c => exact ih later _
    | comment more => exact Gap.lexemesOf_items ⟨items, later⟩
    | lastComment more | lexeme l spelling => cases first

theorem layout_extendComment {body : List Char} (free : '\n' ∉ body) :
    Layout (extendComment body items) [] := by
  induction items generalizing body with
  | nil => exact ⟨⟨free, rfl⟩, trivial⟩
  | cons item items ih =>
    obtain ⟨first, later⟩ := List.forall_mem_cons.mp separates
    cases item with
    | blank c =>
      have other := ne_of_mem_of_not_mem first newline_not_mem_blankTable
      refine ih later ?_
      simp [Item.text, free, Ne.symm other]
    | comment more =>
      have inside : '\n' ∉ more := first
      refine ⟨?_, Gap.layout ⟨items, later⟩ []⟩
      change '\n' ∉ body ++ '#' :: more
      simp [free, inside]
    | lastComment more | lexeme l spelling => cases first

end Extended

theorem textOf_before (item : Item) (gap : Gap) :
    textOf (item.before gap) = item.text ++ gap.text := by
  cases item with
  | lastComment body => exact textOf_extendComment gap.separates body
  | blank c | comment body | lexeme l spelling => exact textOf_cons _ gap.items

theorem lexemesOf_before (item : Item) (gap : Gap) :
    lexemesOf (item.before gap) = item.lexeme?.toList := by
  cases item with
  | lastComment body => exact lexemesOf_extendComment gap.separates body
  | blank c | comment body => exact gap.lexemesOf_items
  | lexeme l spelling => exact congrArg (l :: ·) gap.lexemesOf_items

theorem textOf_spread (pieces : List (Item × Gap)) :
    textOf (spread pieces) = pieces.flatMap fun (item, gap) => item.text ++ gap.text := by
  rw [spread, textOf, List.flatMap_assoc]
  exact congrArg (List.flatMap · pieces) (funext fun piece => textOf_before piece.1 piece.2)

theorem lexemesOf_spread (pieces : List (Item × Gap)) :
    lexemesOf (spread pieces) = lexemesOf (pieces.map Prod.fst) := by
  induction pieces with
  | nil => rfl
  | cons piece pieces ih =>
    obtain ⟨item, gap⟩ := piece
    rw [spread, List.flatMap_cons, lexemesOf_append, lexemesOf_before]
    change _ ++ lexemesOf (spread pieces) = _
    rw [ih, List.map_cons]
    cases item <;> rfl

/-- With gaps between its items a text starts as it does without, and a gap in front of it starts
with a character that ends the lexeme before. -/
theorem head?_spread {pieces : List (Item × Gap)} (h : Layout (pieces.map Prod.fst) [])
    (gap : Gap) :
    (gap.text ++ textOf (spread pieces)).head? = (textOf (pieces.map Prod.fst)).head? ∨
      ∃ c, (gap.text ++ textOf (spread pieces)).head? = some c ∧ EndsLexeme c := by
  by_cases empty : gap.items = []
  · left
    have nothing : gap.text = [] := by
      rw [Gap.text, empty]
      rfl
    rw [nothing, List.nil_append]
    cases pieces with
    | nil => rfl
    | cons piece pieces =>
      obtain ⟨item, next⟩ := piece
      obtain ⟨c, cs, front⟩ := List.exists_cons_of_ne_nil (Item.text_ne_nil h.1)
      change item.text = c :: cs at front
      simp [textOf_spread, textOf_cons, front]
  · right
    obtain ⟨c, cs, front, ends⟩ := Gap.text_eq_cons empty
    refine ⟨c, ?_, ends⟩
    rw [front, List.cons_append, List.head?_cons]

theorem layout_spread {pieces : List (Item × Gap)} (h : Layout (pieces.map Prod.fst) []) :
    Layout (spread pieces) [] := by
  induction pieces with
  | nil => trivial
  | cons piece pieces ih =>
    obtain ⟨item, gap⟩ := piece
    obtain ⟨fits, rest⟩ := h
    refine layout_append ?_ (ih rest)
    cases item with
    | blank c | comment body => exact ⟨fits, gap.layout _⟩
    | lexeme l spelling =>
      -- Behind the lexeme stands the gap, or the item that stood there before.
      refine ⟨?_, gap.layout _⟩
      rw [List.append_nil] at fits ⊢
      exact Spelled.of_head fits (head?_spread rest gap)
    | lastComment body =>
      -- Only the gap is behind it, so that the comment may take it in.
      have last : pieces = [] := List.map_eq_nil_iff.mp (eq_nil_of_lastComment ⟨fits, rest⟩)
      subst last
      exact layout_extendComment gap.separates fits.1

theorem laysOut_respaced {text : String} {pieces : List (Item × Gap)}
    (h : LaysOut (pieces.map Prod.fst) text) (front : Gap) :
    LaysOut (front.items ++ spread pieces) (respaced front pieces) := by
  refine ⟨layout_append (front.layout _) (layout_spread h.1), ?_⟩
  rw [respaced, String.toList_ofList, textOf_append, textOf_spread]
  rfl

/-! ### Tokens without their lines -/

/-- The tokens with no line of their own. -/
def Relabelling.erase : Relabelling where
  token t := { t with line := 0 }
  line _ := 0
  role_token _ := rfl
  line_token _ := rfl

def EvalError.withoutLine (e : EvalError) : EvalError := e.mapLine fun _ => 0

def Error.withoutLine : Error → Error
  | .lex failure => .lex { failure with lines := 0 }
  | .runtime error => .runtime error.withoutLine
  | .io reason => .io reason

/-- Scripts of the same lexemes differ at most in the line of an error. -/
theorem run_eq_of_lexemes {tokens others : List Token}
    (same : others.map Token.toLexeme = tokens.map Token.toLexeme) :
    (run others).log = (run tokens).log ∧
      (run others).result.mapError EvalError.withoutLine =
        (run tokens).result.mapError EvalError.withoutLine := by
  have erased : others.map Relabelling.erase.token = tokens.map Relabelling.erase.token := by
    have moved := congrArg (List.map fun l => (⟨l, 0⟩ : Token)) same
    rwa [List.map_map, List.map_map] at moved
  have scripts := congrArg run erased
  rw [Relabelling.run_map, Relabelling.run_map] at scripts
  exact Logged.ext_iff.mp scripts

theorem mapError_runtime_withoutLine (result : Except EvalError Value) :
    (result.mapError Error.runtime).mapError Error.withoutLine =
      (result.mapError EvalError.withoutLine).mapError Error.runtime := by
  cases result <;> rfl

/-! ### Respaced texts -/

theorem answer_of_lexed {text : String} {lexed : Lexed}
    (h : (Lexing.ofText text).result = .ok lexed) :
    (Request.evaluate text).answer ⟨false⟩ =
      ((run lexed.tokens).log, .value ((run lexed.tokens).result.mapError Error.runtime)) := by
  have source : (Source.ofText text).lex.result = .ok lexed := by rw [Source.lex_ofText, h]
  exact answer_evaluate_iff.mpr (Config.interpret_of_lexed source)

/-- A text that lexes is made of items.  With other blanks and comments before, between and behind
them it lexes into the same lexemes, and with no trace it logs the same lines and has the same value,
or the same error up to its line. -/
theorem answer_of_respaced {text : String} {lexed : Lexed}
    (lexes : (Lexing.ofText text).result = .ok lexed) :
    (∃ items, LaysOut items text) ∧
    ∀ (front : Gap) (pieces : List (Item × Gap)), LaysOut (pieces.map Prod.fst) text →
      (∃ lexed', (Lexing.ofText (respaced front pieces)).result = .ok lexed' ∧
        lexed'.tokens.map Token.toLexeme = lexed.tokens.map Token.toLexeme) ∧
      ∃ log result result',
        (Request.evaluate text).answer ⟨false⟩ = (log, .value result) ∧
        (Request.evaluate (respaced front pieces)).answer ⟨false⟩ = (log, .value result') ∧
        result'.mapError Error.withoutLine = result.mapError Error.withoutLine := by
  refine ⟨exists_laysOut_of_result lexes, fun front pieces laid => ?_⟩
  have lexes' := result_of_laysOut (laysOut_respaced laid front)
  have same : (tokensOf (front.items ++ spread pieces) 0).map Token.toLexeme =
      lexed.tokens.map Token.toLexeme := by
    rw [result_of_laysOut laid] at lexes
    cases lexes
    rw [lexemes_tokensOf, lexemes_tokensOf, lexemesOf_append, front.lexemesOf_items,
      lexemesOf_spread, List.nil_append]
  obtain ⟨logs, results⟩ := run_eq_of_lexemes same
  have first := answer_of_lexed lexes
  have second := answer_of_lexed lexes'
  rw [logs] at second
  refine ⟨⟨_, lexes', same⟩, _, _, _, first, second, ?_⟩
  rw [mapError_runtime_withoutLine, mapError_runtime_withoutLine, results]

/-- The items of the text `/ 1 0#`, with a comment put behind the operator, and a blank, a comment and
a blank put behind the open comment at the end. -/
def samplePieces : List (Item × Gap) :=
  [(.lexeme ⟨.arithmetic, "/"⟩ ['/'], ⟨[.comment ['b']], by simp [Item.Separates]⟩),
    (.blank ' ', ⟨[], nofun⟩), (.lexeme ⟨.number, "1"⟩ ['1'], ⟨[], nofun⟩),
    (.blank ' ', ⟨[], nofun⟩), (.lexeme ⟨.number, "0"⟩ ['0'], ⟨[], nofun⟩),
    (.lastComment [], ⟨[.blank ' ', .comment ['c'], .blank ' '], by
      simp [Item.Separates, blankTable]⟩)]

theorem answer_of_samplePieces :
    ∃ result, (Request.evaluate "#a\n/#b\n 1 0# #c\n ").answer ⟨false⟩ = ([], .value result) ∧
      result.mapError Error.withoutLine = .error (.runtime (.divisionByZero 0)) := by
  have lexes : (Lexing.ofText "/ 1 0#").result =
      .ok ⟨[⟨⟨.arithmetic, "/"⟩, 1⟩, ⟨⟨.number, "1"⟩, 1⟩, ⟨⟨.number, "0"⟩, 1⟩], 0⟩ := by
    decide +kernel
  have blank : EndsLexeme ' ' := endsLexeme_of_trivia (.inl (.head _))
  have sign : EndsLexeme '#' := endsLexeme_of_trivia (.inr rfl)
  have laid : LaysOut (samplePieces.map Prod.fst) "/ 1 0#" :=
    ⟨⟨Lexeme.spelled_write (q := ' ') rfl (by nofun) blank _, .head _,
      Lexeme.spelled_write (q := ' ') rfl (by nofun) blank _, .head _,
      Lexeme.spelled_write (q := ' ') rfl (by nofun) sign _,
      ⟨List.not_mem_nil, rfl⟩, trivial⟩, rfl⟩
  have original : (Request.evaluate "/ 1 0#").answer ⟨false⟩ =
      ([], .value (.error (.runtime (.divisionByZero 1)))) := by
    rw [answer_of_lexed lexes, run_cons]
    rfl
  obtain ⟨log, result, result', first, second, same⟩ :=
    ((answer_of_respaced lexes).2 ⟨[.comment ['a']], by simp [Item.Separates]⟩ samplePieces laid).2
  rw [original] at first
  cases first
  exact ⟨result', second, same⟩

end Abacus
