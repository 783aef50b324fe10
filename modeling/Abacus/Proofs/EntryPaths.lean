import Abacus.Program
import Abacus.Proofs.Sessions

/-! The ways into the program.  A script comes from the standard input, from a file, or from the
command line itself, and what the program reports depends only on the bytes of the script and on the
trace.  To list the tokens of a script is to show the trace that a run of it would show; where the
script does not lex, both report the same failure, and the listing nothing else. -/

namespace Abacus

/-! ### Scripts by their bytes -/

theorem Source.lex_eq_of_join {source : Source} {content : ByteArray}
    (h : join source.deliveries = .ok content) : source.lex = (ofBytes content).lex := by
  have text : source.text = (ofBytes content).text := by
    rw [Source.text, Source.text, h, ofBytes, join_singleton]
  rw [lex, lex, text]

theorem Config.interpret_congr (config : Config) {source other : Source}
    (h : source.lex = other.lex) : config.interpret source = config.interpret other := by
  simp only [interpret, tokenize, h]

theorem Program.runSource_congr (config : Config) {source other : Source}
    (h : source.lex = other.lex) : runSource config source = runSource config other := by
  simp only [runSource, config.interpret_congr h]

theorem Program.listTokens_congr {source other : Source} (h : source.lex = other.lex) :
    listTokens source = listTokens other := by
  simp only [listTokens, h]

/-- The path is a single hyphen, with no more than slashes and dots behind it. -/
def NamesHyphen (path : String) : Prop :=
  ∃ behind : List (List Char), (∀ part ∈ behind, part ∈ [[], ['.']]) ∧
    path.toList = '-' :: behind.flatMap ('/' :: ·)

theorem Origin.ofArgument_of_hyphen {path : String} (h : NamesHyphen path) :
    ofArgument path = .standardInput := by
  obtain ⟨behind, parts, spelled⟩ := h
  have free : ∀ part ∈ behind, '/' ∉ part := by
    intro part member slash
    have known := parts part member
    simp only [List.mem_cons, List.not_mem_nil, or_false] at known
    rcases known with rfl | rfl <;> simp at slash
  have first : '/' ∉ ['-'] := by decide
  have split : Text.splitAt '/' path.toList = ['-'] :: behind := by
    rw [spelled]
    exact Text.splitAt_of_joined first free
  rw [ofArgument, split]
  exact if_pos (by simpa using parts)

theorem Origin.ofArgument_of_name {path : String} (h : ¬NamesHyphen path) :
    ofArgument path = .file path := by
  obtain ⟨piece, pieces, split, whole⟩ := Text.splitAt_joins '/' path.toList
  rw [ofArgument, split]
  split
  · rename_i behind cut
    cases cut
    exact if_neg fun parts => h ⟨pieces, by simpa using parts, whole⟩
  · rfl

/-- In the environment, the script argument of a command leads to the bytes: they are on the
standard input if there is no argument or a hyphen, and otherwise in the file that the argument
names. -/
inductive Supplies (env : Environment) (content : ByteArray) : Option String → Prop where
  | omitted (reads : Source.join env.standardInput.deliveries = .ok content) :
    Supplies env content none
  | hyphen {path : String} (named : NamesHyphen path)
    (reads : Source.join env.standardInput.deliveries = .ok content) :
    Supplies env content (some path)
  | file {path : String} {source : Source} (named : ¬NamesHyphen path)
    (opens : env.openPath path = .ok source) (reads : Source.join source.deliveries = .ok content) :
    Supplies env content (some path)

open CommandLine in
theorem Supplies.origin {env : Environment} {content : ByteArray} {argument : Option String}
    (h : Supplies env content argument) :
    ∃ origin source, Verb.run.command? argument = some (.run origin) ∧
      Verb.tokens.command? argument = some (.tokens origin) ∧
      Program.sourceOf env origin = .ok source ∧ source.lex = (Source.ofBytes content).lex := by
  cases h with
  | omitted reads =>
    exact ⟨.standardInput, _, rfl, rfl, rfl, Source.lex_eq_of_join reads⟩
  | hyphen named reads =>
    have hyphen := Origin.ofArgument_of_hyphen named
    refine ⟨.standardInput, _, ?_, ?_, rfl, Source.lex_eq_of_join reads⟩ <;>
      rw [Verb.command?, hyphen]
  | @file path source named opens reads =>
    have file := Origin.ofArgument_of_name named
    refine ⟨.file path, source, ?_, ?_, ?_, Source.lex_eq_of_join reads⟩
    · rw [Verb.command?, file]
    · rw [Verb.command?, file]
    · rw [Program.sourceOf, opens]
      rfl

/-! ### Reports by their lexings -/

/-- The report of running a script: on the standard error its trace, if it is on, then its log, then
the error that stopped it, if there is one. -/
inductive Ran (config : Config) (lexing : Lexing) : Report → Prop where
  | value {lexed : Lexed} {log : List String} {v : Value} (lexes : lexing.result = .ok lexed)
    (runs : run lexed.tokens = ⟨log, .ok v⟩) :
    Ran config lexing ⟨⟨[], config.traceOf lexing ++ log⟩, 0⟩
  | runtimeError {lexed : Lexed} {log : List String} {e : EvalError}
    (lexes : lexing.result = .ok lexed) (runs : run lexed.tokens = ⟨log, .error e⟩) :
    Ran config lexing ⟨⟨[], config.traceOf lexing ++ log ++ [(Error.runtime e).message]⟩, 1⟩
  | lexError {failure : LexFailure} (fails : lexing.result = .error failure) :
    Ran config lexing ⟨⟨[], config.traceOf lexing ++ [(Error.lex failure).message]⟩, 1⟩

/-- The report of listing the tokens of a script: on the standard output the trace of all of them,
or only the error. -/
inductive Listed (lexing : Lexing) : Report → Prop where
  | tokens {lexed : Lexed} (lexes : lexing.result = .ok lexed) :
    Listed lexing ⟨⟨lexing.trace, []⟩, 0⟩
  | lexError {failure : LexFailure} (fails : lexing.result = .error failure) :
    Listed lexing ⟨⟨[], [(Error.lex failure).message]⟩, 1⟩

theorem Config.interpret_eq (config : Config) (source : Source) :
    config.interpret source =
      ⟨config.traceOf source.lex ++ ((mk false).interpret source).log,
        ((mk false).interpret source).result⟩ := by
  obtain ⟨on⟩ := config
  cases on with
  | true => exact interpret_traced source
  | false => rfl

theorem ran_runSource (config : Config) (source : Source) :
    Ran config source.lex (Program.runSource config source) := by
  have answer := config.interpret_eq source
  cases scanned : source.lex.result with
  | error failure =>
    rw [Config.interpret_of_failure scanned, List.append_nil] at answer
    simp only [Program.runSource, answer]
    exact .lexError scanned
  | ok lexed =>
    rw [Config.interpret_of_lexed scanned] at answer
    match script : run lexed.tokens with
    | ⟨log, .ok v⟩ =>
      rw [script] at answer
      simp only [Program.runSource, answer]
      exact .value scanned script
    | ⟨log, .error e⟩ =>
      rw [script] at answer
      simp only [Program.runSource, answer]
      exact .runtimeError scanned script

theorem listed_listTokens (source : Source) : Listed source.lex (Program.listTokens source) := by
  cases scanned : source.lex.result with
  | error failure =>
    simp only [Program.listTokens, scanned]
    exact .lexError scanned
  | ok lexed =>
    simp only [Program.listTokens, scanned]
    exact .tokens scanned

theorem newline_not_mem_trace (t : Token) : '\n' ∉ t.trace.toList := by
  have label : '\n' ∉ t.kind.label.toList := by cases t.kind <;> decide
  have text : '\n' ∉ (onOneLine t.text).toList := by
    rw [onOneLine, String.toList_ofList, List.mem_flatMap]
    rintro ⟨c, -, member⟩
    -- a newline is written as two other characters, and all others stay as they are
    split at member
    · revert member
      decide
    · rename_i other
      exact other (List.mem_singleton.mp member).symm
  simp [Token.trace, label, text]

theorem Listed.err_eq_getLast {config : Config} {lexing : Lexing} {ran listed : Report}
    {failure : LexFailure} (h : Listed lexing listed) (h' : Ran config lexing ran)
    (fails : lexing.result = .error failure) :
    listed.output.err = ran.output.err.getLast?.toList := by
  cases h with
  | tokens lexes => rw [fails] at lexes; cases lexes
  | lexError found =>
    cases h' with
    | value lexes | runtimeError lexes => rw [fails] at lexes; cases lexes
    | lexError same =>
      rw [found] at same
      cases same
      simp

theorem Listed.newline_not_mem {lexing : Lexing} {listed : Report} (h : Listed lexing listed) :
    ∀ line ∈ listed.output.out, '\n' ∉ line.toList := by
  cases h with
  | lexError => exact fun line member => nomatch member
  | tokens =>
    intro line member
    obtain ⟨t, -, rfl⟩ := List.mem_map.mp member
    exact newline_not_mem_trace t

theorem Ran.status_eq {config : Config} {lexing : Lexing} {ran : Report}
    (h : Ran config lexing ran) :
    (ran.status = 0 ∧ ∃ lexed v, lexing.result = .ok lexed ∧ (run lexed.tokens).result = .ok v) ∨
      ran.status = 1 ∧
        ¬∃ lexed v, lexing.result = .ok lexed ∧ (run lexed.tokens).result = .ok v := by
  cases h with
  | @value lexed _ v lexes runs => exact .inl ⟨rfl, lexed, v, lexes, by rw [runs]⟩
  | runtimeError lexes runs => exact .inr ⟨rfl, by simp [lexes, runs]⟩
  | lexError fails => exact .inr ⟨rfl, by simp [fails]⟩

/-! ### Agreement -/

/-- The command of the verb with its argument has the report. -/
def Reports (reader : LineReader) (env : Environment) (config : Config) (verb : CommandLine.Verb)
    (argument : Option String) (report : Report) : Prop :=
  ∃ command, verb.command? argument = some command ∧
    Program.execute reader env (.execute command config) = report

theorem Supplies.reports_run {env : Environment} {content : ByteArray} {argument : Option String}
    (h : Supplies env content argument) (reader : LineReader) (config : Config) :
    Reports reader env config .run argument (Program.runSource config (.ofBytes content)) := by
  obtain ⟨origin, source, command, -, opens, same⟩ := h.origin
  refine ⟨_, command, ?_⟩
  rw [Program.execute, Program.perform, Program.withSource, opens]
  exact Program.runSource_congr config same

theorem Supplies.reports_tokens {env : Environment} {content : ByteArray} {argument : Option String}
    (h : Supplies env content argument) (reader : LineReader) (config : Config) :
    Reports reader env config .tokens argument (Program.listTokens (.ofBytes content)) := by
  obtain ⟨origin, source, -, command, opens, same⟩ := h.origin
  refine ⟨_, command, ?_⟩
  rw [Program.execute, Program.perform, Program.withSource, opens]
  exact Program.listTokens_congr same

/-- For the bytes of a script and a trace that is on or off there are two reports: one of every
command that runs the script, wherever it comes from, and one of every command that lists its
tokens.  The first has nothing on the standard output, and shows the trace, the log and the error;
its status is 0 exactly if the script lexes and runs.  The second shows the trace alone, each token
on one line, or the error that the first shows last. -/
theorem entry_paths_agree (config : Config) (content : ByteArray) :
    let lexing := (Source.ofBytes content).lex
    ∃ ran listed : Report,
      (∀ reader (env : Environment), Source.join env.standardInput.deliveries = .ok content →
        Program.execute reader env (CommandLine.withoutCommand (!config.traceTokens)) = ran) ∧
      (∀ reader env argument, Supplies env content argument →
        Reports reader env config .run argument ran ∧
        Reports reader env config .tokens argument listed) ∧
      (∀ reader env (text : String), text.toUTF8 = content →
        Reports reader env config .eval (some text) ran) ∧
      Ran config lexing ran ∧
      (ran.status = 0 ∧ (∃ lexed v, lexing.result = .ok lexed ∧ (run lexed.tokens).result = .ok v) ∨
        ran.status = 1 ∧
          ¬∃ lexed v, lexing.result = .ok lexed ∧ (run lexed.tokens).result = .ok v) ∧
      Listed lexing listed ∧
      (∀ line ∈ listed.output.out, '\n' ∉ line.toList) ∧
      ∀ failure, lexing.result = .error failure →
        listed.output.err = ran.output.err.getLast?.toList := by
  have ran := ran_runSource config (.ofBytes content)
  have listed := listed_listTokens (.ofBytes content)
  refine ⟨Program.runSource config (.ofBytes content), Program.listTokens (.ofBytes content),
    fun reader env reads => ?_, fun reader env argument supplies => ?_, ?_, ran, ran.status_eq,
    listed, listed.newline_not_mem, fun failure => listed.err_eq_getLast ran⟩
  · have quiet : (⟨!(!config.traceTokens)⟩ : Config) = config := by rw [Bool.not_not]
    rw [CommandLine.withoutCommand, quiet]
    exact Program.runSource_congr config (Source.lex_eq_of_join reads)
  · exact ⟨supplies.reports_run reader config, supplies.reports_tokens reader config⟩
  · rintro reader env text rfl
    exact ⟨_, rfl, rfl⟩

/-- A script that logs and then fails to lex, on the standard input and in a file: nothing of it is
run, and all commands report the failure. -/
theorem entry_paths_of_broken_script :
    let content := "log 1\n@".toUTF8
    let env : Environment := ⟨.ofBytes content, fun _ => .ok (.ofBytes content)⟩
    let report : Report := ⟨⟨[], ["Error on line 2: invalid character `@`"]⟩, 1⟩
    let reader := LineReader.plain
    Program.execute reader env (CommandLine.withoutCommand true) = report ∧
      Reports reader env ⟨false⟩ .run (some "-") report ∧
      Reports reader env ⟨false⟩ .run (some "a") report ∧
      Reports reader env ⟨false⟩ .eval (some "log 1\n@") report ∧
      Reports reader env ⟨false⟩ .tokens (some "a") report := by
  intro content env report reader
  have reads : Source.join env.standardInput.deliveries = .ok content :=
    Source.join_singleton content
  have hyphen : Supplies env content (some "-") := .hyphen ⟨[], by simp, rfl⟩ reads
  have named : ¬NamesHyphen "a" := by
    rintro ⟨behind, -, spelled⟩
    cases spelled
  have file : Supplies env content (some "a") := .file named rfl reads
  have stuck : (Source.ofBytes content).lex.result.isOk = false := by decide +kernel
  have quiet : Program.execute reader env (CommandLine.withoutCommand true) = report := by
    decide +kernel
  obtain ⟨ran, listed, omitted, supplied, inline, -, -, shows, -, alone⟩ :=
    entry_paths_agree ⟨false⟩ content
  have first : ran = report := (omitted reader env reads).symm.trans quiet
  have second : listed = report := by
    cases shows with
    | tokens lexes => rw [lexes] at stuck; cases stuck
    | lexError found =>
      have last := alone _ found
      rw [first] at last
      exact congrArg (fun err => Report.mk ⟨[], err⟩ 1) last
  rw [first, second] at supplied
  rw [first] at inline
  exact ⟨quiet, (supplied reader env _ hyphen).1, (supplied reader env _ file).1,
    inline reader env _ rfl, (supplied reader env _ file).2⟩

end Abacus
