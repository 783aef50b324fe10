import Abacus.Interpreter

/-! Sessions of an interpreter.  An answer depends on the request and on the configuration, and the
sink takes in the lines of the answer without being read.  So a session gives every request the
reply that a fresh interpreter gives, and the lines that it leaves are those of the fresh
interpreters one after another.  The configuration decides only whether the lines of the tokens come
before the other lines of an answer. -/

namespace Abacus

theorem Sink.add_add (sink : Sink) (lines more : List String) :
    (sink.add lines).add more = sink.add (lines ++ more) := by
  cases sink <;> simp [Sink.add]

theorem Sink.add_nil (sink : Sink) : sink.add [] = sink := by
  cases sink <;> simp [Sink.add]

/-! ### The steps of a session -/

namespace Interpreter

/-- A session leaves its interpreter with the lines of all its answers. -/
theorem steps_sink (i : Interpreter) (requests : List Request) :
    (i.steps requests).2 =
      { i with sink := i.sink.add (requests.flatMap fun r => (r.answer i.config).1) } := by
  induction requests generalizing i with
  | nil => simp [steps, Sink.add_nil]
  | cons request requests ih =>
    rw [steps]
    simp only [ih]
    simp [step, Sink.add_add]

theorem steps_replies (i : Interpreter) (requests : List Request) :
    (i.steps requests).1.map Prod.fst = requests.map fun r => (r.answer i.config).2 := by
  induction requests generalizing i with
  | nil => rfl
  | cons request requests ih =>
    rw [steps]
    simp only [List.map_cons, ih]
    rfl

theorem linesSince_step (config : Config) (kept : List String) (request : Request) :
    let i := Interpreter.mk config (.collected kept)
    (i.step request).2.linesSince i = (request.answer config).1 := by
  simp [linesSince, step, Sink.add, Sink.lines]

theorem steps_lines (config : Config) (kept : List String) (requests : List Request) :
    ((Interpreter.mk config (.collected kept)).steps requests).1.map Prod.snd =
      requests.map fun r => (r.answer config).1 := by
  induction requests generalizing kept with
  | nil => rfl
  | cons request requests ih =>
    have own := linesSince_step config kept request
    rw [steps]
    simp only [List.map_cons, own]
    exact congrArg _ (ih (kept ++ (request.answer config).1))

end Interpreter

/-! ### Fresh interpreters -/

/-- The reply of an interpreter that has not been asked before, and the lines that it then holds. -/
def Request.afresh (config : Config) (request : Request) : Reply × List String :=
  let (reply, after) := (Interpreter.mk config (.collected [])).step request
  (reply, after.sink.lines)

/-! ### The trace -/

/-- The source that a request is about. -/
def Request.source : Request → Source
  | .evaluate text => .ofText text
  | .read source => source
  | .tokenize source => source

namespace Config

/-- A trace stands in front of what is logged, and changes nothing else. -/
theorem interpret_traced (source : Source) :
    (mk true).interpret source =
      ⟨source.lex.trace ++ ((mk false).interpret source).log,
        ((mk false).interpret source).result⟩ := by
  cases scanned : source.lex.result with
  | error failure =>
    simp only [interpret, tokenize, traceOf, scanned]
    exact Logged.ext (List.append_nil _).symm rfl
  | ok lexed =>
    simp only [interpret, tokenize, traceOf, scanned]
    exact Logged.ext rfl rfl

theorem interpret_of_lexed {source : Source} {lexed : Lexed} (h : source.lex.result = .ok lexed) :
    (mk false).interpret source = (run lexed.tokens).mapError Error.runtime := by
  have tokens : (mk false).tokenize source = ⟨[], .ok lexed⟩ := by rw [tokenize, h]; rfl
  rw [interpret, tokens]
  rfl

theorem interpret_of_failure {source : Source} {failure : LexFailure}
    (h : source.lex.result = .error failure) :
    (mk false).interpret source = ⟨[], .error (.lex failure)⟩ := by
  have tokens : (mk false).tokenize source = ⟨[], .error failure⟩ := by rw [tokenize, h]; rfl
  rw [interpret, tokens]
  rfl

end Config

theorem Request.answer_traced (request : Request) :
    request.answer ⟨true⟩ =
      (request.source.lex.trace ++ (request.answer ⟨false⟩).1, (request.answer ⟨false⟩).2) := by
  cases request with
  | evaluate text => simp only [answer, source, Config.interpret_traced]
  | read source => simp only [answer, Request.source, Config.interpret_traced]
  | tokenize source => simp [answer, Request.source, Config.tokenize, Config.traceOf]

theorem Request.answer_of_failure {request : Request} {failure : LexFailure}
    (h : request.source.lex.result = .error failure) : (request.answer ⟨false⟩).1 = [] := by
  cases request with
  | evaluate text | read source => exact congrArg Logged.log (Config.interpret_of_failure h)
  | tokenize source => simp [answer, Config.tokenize, Config.traceOf]

theorem Request.answer_snd_eq (request : Request) (config other : Config) :
    (request.answer config).2 = (request.answer other).2 := by
  have traced : ∀ on, (request.answer ⟨on⟩).2 = (request.answer ⟨false⟩).2 := by
    intro on
    cases on with
    | false => rfl
    | true => rw [answer_traced]
  exact (traced config.traceTokens).trans (traced other.traceTokens).symm

/-! ### Independence -/

/-- A session replies to each request as a fresh interpreter does, and adds to its sink the lines of
the fresh interpreters in order, each step its own.  Every other interpreter, with a trace or
without, gives the same replies.  A trace puts a line for each token in front of the lines of an
answer, and without it a source that does not lex leaves no line. -/
theorem session_of_fresh_interpreters (i : Interpreter) (requests : List Request) :
    let session := i.steps requests
    session.1.map Prod.fst = requests.map (fun r => (r.afresh i.config).1) ∧
    session.2 = { i with sink := i.sink.add (requests.flatMap fun r => (r.afresh i.config).2) } ∧
    (∀ kept, i.sink = .collected kept →
      session.1.map Prod.snd = requests.map (fun r => (r.afresh i.config).2) ∧
      session.2.sink.lines = kept ++ requests.flatMap fun r => (r.afresh i.config).2) ∧
    (∀ other : Interpreter, (other.steps requests).1.map Prod.fst = session.1.map Prod.fst) ∧
    ∀ r : Request,
      (r.afresh ⟨true⟩).2 = r.source.lex.tokens.map Token.trace ++ (r.afresh ⟨false⟩).2 ∧
      ∀ failure, r.source.lex.result = .error failure → (r.afresh ⟨false⟩).2 = [] := by
  obtain ⟨config, sink⟩ := i
  refine ⟨Interpreter.steps_replies _ _, Interpreter.steps_sink _ _, ?_, fun other => ?_,
    fun r => ⟨?_, fun failure failed => Request.answer_of_failure failed⟩⟩
  · rintro kept rfl
    refine ⟨Interpreter.steps_lines config kept requests, ?_⟩
    rw [Interpreter.steps_sink]
    rfl
  · rw [Interpreter.steps_replies, Interpreter.steps_replies]
    exact List.map_congr_left fun r _ => r.answer_snd_eq other.config config
  · exact congrArg Prod.fst r.answer_traced

/-- The second source fails at its last character, so the line that stands before the failure is not
logged, and the next request is answered as if nothing had happened. -/
theorem session_past_lex_failure :
    ((Interpreter.mk ⟨false⟩ (.collected ["old"])).steps
      [.evaluate "log 'a'", .evaluate "log 'b' +", .evaluate "log 'c'"]).2.sink.lines =
        ["old", "a", "c"] := by
  have session := session_of_fresh_interpreters ⟨⟨false⟩, .collected ["old"]⟩
    [.evaluate "log 'a'", .evaluate "log 'b' +", .evaluate "log 'c'"]
  have lines := (session.2.2.1 ["old"] rfl).2
  have stuck : (Request.evaluate "log 'b' +").source.lex.result.isOk = false := by decide +kernel
  have second : ((Request.evaluate "log 'b' +").afresh ⟨false⟩).2 = [] := by
    cases failed : (Request.evaluate "log 'b' +").source.lex.result with
    | ok lexed => rw [failed] at stuck; cases stuck
    | error failure => exact (session.2.2.2.2 (.evaluate "log 'b' +")).2 failure failed
  have first : ((Request.evaluate "log 'a'").afresh ⟨false⟩).2 = ["a"] := by decide +kernel
  have third : ((Request.evaluate "log 'c'").afresh ⟨false⟩).2 = ["c"] := by decide +kernel
  rw [lines]
  simp [first, second, third]

end Abacus
