import Abacus.Proofs.Composition
import Abacus.Proofs.Relabelling
import Abacus.Proofs.Resumption
import Abacus.Proofs.Sessions
import Abacus.Proofs.Writing
import Mathlib.Data.List.Forall2

/-! Lines put together.  A text that lexes goes on lexing as it is when a newline and more text come
behind it: a run or an operator at its end stops at the newline, and a comment takes the newline in.
So the tokens of several lines are the tokens of each, further down, with at most an idle token
behind each line; and since a script is made of its parts, the lines evaluated one by one log what
the whole logs, and the last value among them is the value of the whole. -/

namespace Abacus

/-! ### The end of a line -/

/-- The items of a text and the newline behind it.  A comment at the end of the text takes the
newline in, and behind anything else the newline ends an instruction. -/
def breakLine : List Item → List Item
  | [] => [.lexeme ⟨.instructionEnd, "\n"⟩ ['\n']]
  | .lastComment body :: _ => [.comment body]
  | item :: items => item :: breakLine items

/-- The token that the newline behind a text is, if it is one. -/
def lineEnd : List Item → (lines : Nat) → List Token
  | [], lines => [⟨⟨.instructionEnd, "\n"⟩, lines + 1⟩]
  | .lastComment _ :: _, _ => []
  | item :: items, lines => lineEnd items (lines + item.text.count '\n')

theorem eq_nil_of_lastComment {body : List Char} {items : List Item}
    (h : Layout (.lastComment body :: items) []) : items = [] := by
  obtain ⟨⟨-, nothing⟩, rest⟩ := h
  rw [List.append_nil] at nothing
  cases items with
  | nil => rfl
  | cons item items =>
    rw [textOf_cons] at nothing
    exact absurd (List.append_eq_nil_iff.mp nothing).1 (Item.text_ne_nil rest.1)

theorem textOf_breakLine {items : List Item} (h : Layout items []) :
    textOf (breakLine items) = textOf items ++ ['\n'] := by
  induction items with
  | nil => rfl
  | cons item items ih =>
    cases item with
    | lastComment body =>
      cases eq_nil_of_lastComment h
      simp [breakLine, textOf, Item.text]
    | blank c | comment body | lexeme l spelling =>
      rw [breakLine, textOf_cons, textOf_cons, ih h.2, List.append_assoc]
      rintro _ ⟨⟩

theorem tokensOf_breakLine {items : List Item} (h : Layout items []) (lines : Nat) :
    tokensOf (breakLine items) lines = tokensOf items lines ++ lineEnd items lines := by
  induction items generalizing lines with
  | nil => rfl
  | cons item items ih =>
    cases item with
    | lastComment body =>
      cases eq_nil_of_lastComment h
      rfl
    | blank c | comment body | lexeme l spelling =>
      rw [breakLine, tokensOf, tokensOf, lineEnd, ih h.2, List.append_assoc]
      · rintro _ ⟨⟩
      · rintro _ ⟨⟩

theorem role_of_mem_lineEnd {items : List Item} {lines : Nat} {t : Token}
    (h : t ∈ lineEnd items lines) : t.role = .idle := by
  fun_induction lineEnd items lines with
  | case1 lines =>
    cases List.mem_singleton.mp h
    rfl
  | case2 => cases h
  | case3 lines item items _ ih => exact ih h

theorem Spelled.before_newline {l : Lexeme} {spelling rest : List Char}
    (h : Spelled l spelling rest) (after : List Char) :
    Spelled l spelling (rest ++ '\n' :: after) := by
  refine h.of_head ?_
  cases rest with
  | nil => exact .inr ⟨'\n', rfl, endsLexeme_newline⟩
  | cons d rest => exact .inl rfl

theorem layout_breakLine {items : List Item} (h : Layout items []) (after : List Char) :
    Layout (breakLine items) after := by
  induction items with
  | nil => exact ⟨.mark (by decide), trivial⟩
  | cons item items ih =>
    obtain ⟨fits, rest⟩ := h
    have behind : textOf (breakLine items) ++ after = textOf items ++ [] ++ '\n' :: after := by
      rw [textOf_breakLine rest]
      simp
    cases item with
    | blank c => exact ⟨fits, ih rest⟩
    | comment body => exact ⟨fits, ih rest⟩
    | lastComment body => exact ⟨fits.1, trivial⟩
    | lexeme l spelling =>
      refine ⟨?_, ih rest⟩
      rw [behind]
      exact Spelled.before_newline fits after

/-- The lexing of a text, a newline and more text is that of the first text, then the newline, then
that of the rest further down. -/
theorem lex_break {items : List Item} (h : Layout items []) (after : List Char) :
    (⟨textOf items ++ '\n' :: after, 0⟩ : Cursor).lex =
      ((⟨after, 0⟩ : Cursor).lex.shift ((textOf items).count '\n' + 1)).prepend
        (tokensOf items 0 ++ lineEnd items 0) := by
  have text : textOf items ++ '\n' :: after = textOf (breakLine items) ++ after := by
    rw [textOf_breakLine h, List.append_assoc, List.singleton_append]
  have down : (⟨after, 0 + (textOf (breakLine items)).count '\n'⟩ : Cursor) =
      (⟨after, 0⟩ : Cursor).shift ((textOf items).count '\n' + 1) := by
    rw [textOf_breakLine h]
    simp [Cursor.shift]
  rw [text, lex_layout (layout_breakLine h after), down, Cursor.lex_shift, tokensOf_breakLine h]

theorem ofText_break {items : List Item} {a : String} (h : LaysOut items a) (b : String) :
    Lexing.ofText (a ++ "\n" ++ b) =
      ((Lexing.ofText b).shift (a.toList.count '\n' + 1)).prepend
        (tokensOf items 0 ++ lineEnd items 0) := by
  have text : (a ++ "\n" ++ b).toList = textOf items ++ '\n' :: b.toList := by
    simp [h.2]
  rw [Lexing.ofText, Cursor.ofText, text, lex_break h.1, h.2]
  rfl

/-! ### Scripts of several lines -/

theorem run_idle {tokens : List Token} (h : ∀ t ∈ tokens, t.role = .idle) :
    run tokens = pure .empty := by
  induction tokens with
  | nil => rw [run_nil]
  | cons t behind ih =>
    obtain ⟨idle, later⟩ := List.forall_mem_cons.mp h
    have first : evaluate (t :: behind) = pure (.empty, behind) := Reader.phrase_idle (.inr idle)
    rw [run_cons, first, pure_bind]
    simp only [ih later, pure_bind]
    rfl

/-- The tokens `n` lines further down. -/
def Relabelling.down (n : Nat) : Relabelling where
  token := Token.shift n
  line := (· + n)
  role_token _ := rfl
  line_token _ := rfl

/-- The last of the values that is not empty, or the empty value. -/
def lastValue (values : List Value) : Value :=
  ((values.filter fun v => !v.isEmpty).getLast?).getD .empty

theorem lastValue_nil : lastValue [] = .empty := rfl

theorem lastValue_cons (v : Value) (values : List Value) :
    lastValue (v :: values) = (lastValue values).or v := by
  unfold lastValue
  cases last : (values.filter fun v => !v.isEmpty).getLast? with
  | none =>
    rw [List.getLast?_eq_none_iff] at last
    cases empty : v.isEmpty with
    | true => simp [last, show v = .empty by simpa [Value.isEmpty] using empty]
    | false => simp [last, empty]
  | some w =>
    have full : w.isEmpty = false := by
      have member := List.mem_of_getLast? last
      simpa using (List.mem_filter.mp member).2
    have front : (w.or v) = w := by simp [Value.or, full]
    cases empty : v.isEmpty <;> simp [empty, List.getLast?_cons, last, front]

theorem run_lines {first idle second : List Token} {log log' : List String} {v w : Value}
    (one : run first = ⟨log, .ok v⟩) (between : ∀ t ∈ idle, t.role = .idle)
    (two : run second = ⟨log', .ok w⟩) (n : Nat) :
    run (first ++ idle ++ second.map (Token.shift n)) = ⟨log ++ log', .ok (w.or v)⟩ := by
  have front : run (first ++ idle) = ⟨log, .ok v⟩ := by
    rw [run_append_of_settled first idle (.inr (by simp [one])), one, run_idle between]
    simp [Logged.pure_def]
  have back : run (second.map (Token.shift n)) = ⟨log', .ok w⟩ := by
    have moved := (Relabelling.down n).run_map second
    rw [two] at moved
    exact moved
  rw [run_append_of_settled _ _ (.inr (by simp [front])), front, back]
  simp [Logged.pure_def]

/-! ### Texts of several lines -/

theorem Logged.mapError_eq_ok_iff {ε δ α : Type} {f : ε → δ} {x : Logged ε α} {log : List String}
    {a : α} : x.mapError f = ⟨log, .ok a⟩ ↔ x = ⟨log, .ok a⟩ := by
  obtain ⟨written, result⟩ := x
  cases result <;> simp [mapError, Except.mapError]

section Untraced

variable {config : Config} (off : config.traceTokens = false)
include off

/-- With no trace, a text logs what its script logs, and has its value. -/
theorem interpret_eq_ok_iff {text : String} {log : List String} {v : Value} :
    config.interpret (.ofText text) = ⟨log, .ok v⟩ ↔
      ∃ lexed, (Lexing.ofText text).result = .ok lexed ∧ run lexed.tokens = ⟨log, .ok v⟩ := by
  obtain ⟨on⟩ := config
  subst off
  cases result : (Lexing.ofText text).result with
  | error failure =>
    rw [Config.interpret_of_failure (by rw [Source.lex_ofText, result])]
    simp
  | ok lexed =>
    rw [Config.interpret_of_lexed (by rw [Source.lex_ofText, result]), Logged.mapError_eq_ok_iff]
    simp

theorem interpret_break {a b : String} {log log' : List String} {v w : Value}
    (first : config.interpret (.ofText a) = ⟨log, .ok v⟩)
    (second : config.interpret (.ofText b) = ⟨log', .ok w⟩) :
    config.interpret (.ofText (a ++ "\n" ++ b)) = ⟨log ++ log', .ok (w.or v)⟩ := by
  obtain ⟨lexed, result, one⟩ := (interpret_eq_ok_iff off).mp first
  obtain ⟨lexed', result', two⟩ := (interpret_eq_ok_iff off).mp second
  obtain ⟨items, laid⟩ := exists_laysOut_of_result result
  rw [result_of_laysOut laid] at result
  cases result
  have rest : Lexing.ofText b = ⟨lexed'.tokens, .ok lexed'.lines⟩ := Lexing.eq_of_result result'
  have all : (Lexing.ofText (a ++ "\n" ++ b)).result = .ok
      ⟨tokensOf items 0 ++ lineEnd items 0 ++
        lexed'.tokens.map (Token.shift (a.toList.count '\n' + 1)),
        lexed'.lines + (a.toList.count '\n' + 1)⟩ := by
    rw [ofText_break laid, rest]
    rfl
  exact (interpret_eq_ok_iff off).mpr
    ⟨_, all, run_lines one (fun _ => role_of_mem_lineEnd) two (a.toList.count '\n' + 1)⟩

theorem interpret_lines {lines : List String} {answers : List (List String × Value)}
    (each : List.Forall₂
      (fun line answer => config.interpret (.ofText line) = ⟨answer.1, .ok answer.2⟩)
      lines answers) :
    config.interpret (.ofText ("\n".intercalate lines)) =
      ⟨answers.flatMap Prod.fst, .ok (lastValue (answers.map Prod.snd))⟩ := by
  induction each with
  | nil =>
    have empty : LaysOut [] "" := ⟨trivial, rfl⟩
    exact (interpret_eq_ok_iff off).mpr ⟨_, result_of_laysOut empty, run_nil⟩
  | @cons line answer lines answers first later ih =>
    cases later with
    | nil =>
      rw [String.intercalate_singleton, first]
      simp [lastValue_cons, lastValue_nil]
    | @cons next reply lines answers second later =>
      rw [String.intercalate_cons_cons, interpret_break off first ih]
      simp [lastValue_cons]

end Untraced

/-! ### Sessions -/

theorem answer_evaluate_iff {config : Config} {text : String} {log : List String}
    {result : Except Error Value} :
    (Request.evaluate text).answer config = (log, .value result) ↔
      config.interpret (.ofText text) = ⟨log, result⟩ := by
  simp [Request.answer, Logged.ext_iff]

/-- Lines that have a value each, evaluated with no trace, have together the log of them all and the
last of their values that is not empty; and a session that evaluates them one by one gives each its
value and leaves its interpreter as the evaluation of the whole does. -/
theorem answer_of_lines {config : Config} (off : config.traceTokens = false)
    {lines : List String} {answers : List (List String × Value)}
    (each : List.Forall₂ (fun line answer =>
      (Request.evaluate line).answer config = (answer.1, .value (.ok answer.2))) lines answers) :
    (Request.evaluate ("\n".intercalate lines)).answer config =
      (answers.flatMap Prod.fst, .value (.ok (lastValue (answers.map Prod.snd)))) ∧
    ∀ sink : Sink,
      let session := (Interpreter.mk config sink).steps (lines.map .evaluate)
      session.1.map Prod.fst = answers.map (fun answer => .value (.ok answer.2)) ∧
      session.2 = ((Interpreter.mk config sink).step (.evaluate ("\n".intercalate lines))).2 := by
  have whole : (Request.evaluate ("\n".intercalate lines)).answer config =
      (answers.flatMap Prod.fst, .value (.ok (lastValue (answers.map Prod.snd)))) :=
    answer_evaluate_iff.mpr (interpret_lines off (each.imp fun _ _ => answer_evaluate_iff.mp))
  have all : lines.map (fun line => (Request.evaluate line).answer config) =
      answers.map fun answer => (answer.1, .value (.ok answer.2)) := by
    clear whole
    induction each with
    | nil => rfl
    | cons first _ ih => rw [List.map_cons, List.map_cons, first, ih]
  refine ⟨whole, fun sink => ⟨?_, ?_⟩⟩
  · have replies := congrArg (List.map Prod.snd) all
    rw [List.map_map, List.map_map] at replies
    rw [Interpreter.steps_replies, List.map_map]
    exact replies
  · have logs := congrArg (List.flatMap Prod.fst) all
    rw [List.flatMap_map, List.flatMap_map] at logs
    rw [Interpreter.steps_sink, Interpreter.step, whole, List.flatMap_map]
    simp only [logs]

/-- The answer to a text of one phrase. -/
theorem answer_of_phrase {text : String} {t : Token} {behind : List Token} {lines : Nat}
    {log : List String} {v : Value}
    (lexed : (Lexing.ofText text).result = .ok ⟨t :: behind, lines⟩)
    (value : evaluate (t :: behind) = ⟨log, .ok (v, [])⟩) :
    (Request.evaluate text).answer ⟨false⟩ = (log, .value (.ok v)) := by
  have script : run (t :: behind) = ⟨log, .ok v⟩ := by
    rw [run_cons, value]
    simp [Logged.pure_def]
  exact answer_evaluate_iff.mpr ((interpret_eq_ok_iff rfl).mpr ⟨_, lexed, script⟩)

/-- A comment at the end of a line takes in the newline that separates it from the next. -/
theorem answer_of_commented_lines :
    (Request.evaluate "log 'a' # why\n+ 2 3\n;").answer ⟨false⟩ =
      (["a"], .value (.ok (.integer 5))) := by
  have first : (Lexing.ofText "log 'a' # why").result =
      .ok ⟨[⟨⟨.reference, "log"⟩, 1⟩, ⟨⟨.string, "a"⟩, 1⟩], 0⟩ := by decide +kernel
  have second : (Lexing.ofText "+ 2 3").result =
      .ok ⟨[⟨⟨.arithmetic, "+"⟩, 1⟩, ⟨⟨.number, "2"⟩, 1⟩, ⟨⟨.number, "3"⟩, 1⟩], 0⟩ := by
    decide +kernel
  have third : (Lexing.ofText ";").result = .ok ⟨[⟨⟨.instructionEnd, ";"⟩, 1⟩], 0⟩ := by
    decide +kernel
  exact (@answer_of_lines ⟨false⟩ rfl ["log 'a' # why", "+ 2 3", ";"]
    [(["a"], .empty), ([], .integer 5), ([], .empty)]
    (.cons (answer_of_phrase first rfl)
      (.cons (answer_of_phrase second rfl) (.cons (answer_of_phrase third rfl) .nil)))).1

end Abacus
