import Scriptlet.Proofs.Session.Faults
import Scriptlet.Proofs.Session.Journal
import Scriptlet.Shell.Run

/-!
# How a source text ends

A source text that is no program is refused and leaves everything as it was; one that is a program
never stops with a fault that only malformed programs have. A command that runs the text replies as
soon as its fuel suffices (`Command.Runs.replies_of_ends`), and it replies only if the run has come
to an end (`Command.Runs.exists_run`). So the status of the program tells a refused text from one
that stops, and both from one that is through.
-/

namespace Scriptlet

/-- The command runs the source text, which is given in place or is read from a file. -/
def Command.Runs (command : Command) (around : Surroundings) (source : String) : Prop :=
  command = .evaluate source ∨
    ∃ path bytes, command = .script path ∧ around.file path = .ok bytes ∧
      Text.decode? bytes = some source

namespace Session

variable {s last : Session} {source : String}

/-- A text ends in a failure of its own exactly if it is no program, and nothing has changed. -/
lemma ends_refused_iff {e : Error} (cause : ∀ fault, e ≠ .fault fault) :
    s.Ends source (.failed e last) ↔ Program.ofSource source = .error e ∧ last = s := by
  constructor
  · rintro ⟨-, fuel, run⟩
    cases read : Program.ofSource source with
    | error e' =>
      rw [run_of_refused read] at run
      obtain ⟨rfl, rfl⟩ := Outcome.failed.inj run
      exact ⟨rfl, rfl⟩
    | ok program =>
      obtain ⟨fault, same, -⟩ := exists_fault_of_run read run
      exact absurd same (cause fault)
  · rintro ⟨refused, rfl⟩
    exact ⟨by simp, 0, run_of_refused refused 0 last⟩

/-- The run ends in an error of the tokenizer exactly if the tokenizer fails, and nothing changes.
-/
lemma ends_lex_iff {cause : LexError} :
    s.Ends source (.failed (.lex cause) last) ↔ tokenize source = .error cause ∧ last = s := by
  rw [ends_refused_iff (by simp), Program.ofSource_eq_error_iff]
  simp

/-- The run ends in an error of the parser exactly if the tokens without layout are refused, and
nothing changes. -/
lemma ends_parse_iff {cause : ParseError} :
    s.Ends source (.failed (.parse cause) last) ↔
      (∃ tokens, tokenize source = .ok tokens ∧
        Program.ofTokens (Token.withoutLayout tokens) = .error cause) ∧ last = s := by
  rw [ends_refused_iff (by simp), Program.ofSource_eq_error_iff]
  simp

/-- No fault of a source text is about the form of the program. -/
lemma fault_of_ends {fault : Fault} (ends : s.Ends source (.failed (.fault fault) last)) :
    (fault.kind = .name ∨ fault.kind = .type ∨ fault.kind = .output) ∧
      (∀ symbol, fault ≠ .unknownOperator symbol) ∧ (∀ target, fault ≠ .invalidTarget target) ∧
      ∀ value, fault ≠ .illegalNegation value := by
  obtain ⟨-, fuel, run⟩ := ends
  rcases fault_of_run run with ordinary | ⟨reason, rfl⟩
  · refine ⟨ordinary.kind.imp_right .inl, ?_, ?_, ?_⟩
    · rintro symbol rfl
      exact ordinary
    · rintro target rfl
      exact ordinary
    · rintro value rfl
      exact ordinary
  · exact ⟨.inr (.inr rfl), nofun, nofun, nofun⟩

end Session

namespace Outcome

variable {ε : Type} {error : Option ε} {outcome : Outcome ε} {s : Session}

/-- The outcome that leaves the session behind, with an error or without one. -/
def ending (error : Option ε) (s : Session) : Outcome ε :=
  match error with
  | none => .done s
  | some cause => .failed cause s

/-- A run that ends has not used up its fuel. -/
lemma ending_ne (error : Option ε) (s : Session) : ending error s ≠ .outOfFuel := by
  cases error <;> exact nofun

/-- How a run ends tells its error and the session that it leaves behind. -/
lemma ending_inj {error' : Option ε} {s' : Session} (same : ending error s = ending error' s') :
    error = error' ∧ s = s' := by
  cases error <;> cases error' <;> cases same
  · exact ⟨rfl, rfl⟩
  · exact ⟨rfl, rfl⟩

/-- A run that has not used up its fuel has ended. -/
lemma exists_ending (ends : outcome ≠ .outOfFuel) : ∃ error s, outcome = ending error s := by
  cases outcome with
  | done s => exact ⟨none, s, rfl⟩
  | failed cause s => exact ⟨some cause, s, rfl⟩
  | outOfFuel => exact absurd rfl ends

/-- A run with another journal ends with the same error and in the same session up to the
journal. -/
lemma exists_ending_of_unnoted (same : outcome.unnoted = (ending error s).unnoted) :
    ∃ s', outcome = ending error s' ∧ s'.unnoted = s.unnoted := by
  cases error <;> cases outcome <;>
    simp only [ending, unnoted, reduceCtorEq, done.injEq, failed.injEq] at same
  case none.done s' => exact ⟨s', rfl, same⟩
  case some.failed cause e s' =>
    obtain ⟨rfl, same⟩ := same
    exact ⟨s', rfl, same⟩

end Outcome

/-- Sessions that differ in the journal alone have the same variables and the same sink. -/
lemma Session.vars_and_sink_of_unnoted {s t : Session} (same : s.unnoted = t.unnoted) :
    s.vars = t.vars ∧ s.sink = t.sink := by
  have vars : s.unnoted.vars = t.unnoted.vars := by rw [same]
  have sink : s.unnoted.sink = t.unnoted.sink := by rw [same]
  exact ⟨vars, sink⟩

/-! ## Replies -/

/-- How the program ends after an error or without one. -/
def ExitStatus.ofError (error : Option Error) : ExitStatus :=
  error.elim .success fun e => .ofKind e.kind

namespace Shell

variable {settings : Settings} {source : String} {shell : Shell} {error : Option Error}
  {next : Session}

/-- The command has been run and answers with the status and the output. Unless the shell tells what
it makes of the source texts, it reports this and nothing else. -/
def Answers (settings : Settings) (answer : Option Reply) (status : ExitStatus)
    (output : Array UInt8) (report : String) : Prop :=
  ∃ reply, answer = some reply ∧ reply.status = status ∧ reply.output = output ∧
    (settings.verbose = false → reply.report = report)

/-- A shell goes by the run of the text; what else it tells does not touch the session. -/
lemma exists_feed_of_run (ran : shell.session.run settings.fuel source = .ending error next) :
    ∃ shell' : Shell, shell.feed settings source = some (error, shell') ∧
      shell'.session.unnoted = next.unnoted ∧
      (settings.verbose = false →
        shell'.report = shell.report ++ error.elim "" fun e => complaint e.message) := by
  rw [feed]
  split
  · rename_i verbose
    have fresh : { shell.session with journal := [] }.unnoted = shell.session.unnoted := rfl
    have traced := Session.unnoted_trace settings.fuel source fresh
    rw [ran] at traced
    obtain ⟨last, same, alike⟩ := Outcome.exists_ending_of_unnoted traced
    rw [same]
    cases error with
    | none => exact ⟨_, rfl, alike, by simp [verbose]⟩
    | some e => exact ⟨_, rfl, alike, by simp [verbose]⟩
  · rw [ran]
    cases error with
    | none => exact ⟨_, rfl, rfl, fun _ => rfl⟩
    | some e => exact ⟨_, rfl, rfl, fun _ => by simp⟩

/-- A shell whose fuel is used up has nothing to tell. -/
lemma feed_of_outOfFuel (ran : shell.session.run settings.fuel source = .outOfFuel) :
    shell.feed settings source = none := by
  rw [feed]
  split
  · have fresh : { shell.session with journal := [] }.unnoted = shell.session.unnoted := rfl
    have traced := Session.unnoted_trace settings.fuel source fresh
    rw [ran] at traced
    cases outcome : { shell.session with journal := [] }.trace settings.fuel source with
    | outOfFuel => rfl
    | done last | failed e last =>
      rw [outcome] at traced
      cases traced
  · rw [ran]
    rfl

/-- The shell answers when the run of the text has come to an end. -/
lemma answers_evaluate (ran : shell.session.run settings.fuel source = .ending error next) :
    Answers settings (shell.evaluate settings source) (.ofError error) next.sink.written
      (shell.report ++ error.elim "" fun e => complaint e.message) := by
  obtain ⟨shell', fed, alike, reported⟩ := exists_feed_of_run ran
  have written : shell'.session.sink.written = next.sink.written := by
    rw [(Session.vars_and_sink_of_unnoted alike).2]
  rw [evaluate, fed]
  cases error with
  | none => exact ⟨_, rfl, rfl, written, reported⟩
  | some e => exact ⟨_, rfl, rfl, written, reported⟩

/-- The shell replies only when the run of the text has come to an end. -/
lemma exists_run_of_evaluate {reply : Reply}
    (replied : shell.evaluate settings source = some reply) :
    ∃ error last, shell.session.run settings.fuel source = .ending error last ∧
      reply.status = .ofError error ∧ reply.output = last.sink.written := by
  have ends : shell.session.run settings.fuel source ≠ .outOfFuel := by
    intro ran
    rw [evaluate, feed_of_outOfFuel ran] at replied
    cases replied
  obtain ⟨error, last, ran⟩ := Outcome.exists_ending ends
  obtain ⟨reply', answer, status, output, -⟩ := answers_evaluate ran
  obtain rfl := Option.some.inj (answer.symm.trans replied)
  exact ⟨error, last, ran, status, output⟩

end Shell

namespace Command.Runs

variable {settings : Shell.Settings} {around : Surroundings} {command : Command} {source : String}
  {error : Option Error} {last : Session}

/-- A command that runs a text does what a new shell does with it. -/
lemma run_eq (runs : command.Runs around source) (settings : Shell.Settings) :
    command.run settings around = (Shell.fresh around.output).evaluate settings source := by
  rcases runs with rfl | ⟨path, bytes, rfl, found, decoded⟩
  · rfl
  · simp only [Command.run, Shell.script, found, decoded]

/-- The command answers when the run of the text has come to an end. -/
lemma answers (runs : command.Runs around source)
    (ran : (Session.fresh 0 around.output).run settings.fuel source = .ending error last) :
    Shell.Answers settings (command.run settings around) (.ofError error) last.sink.written
      (error.elim "" fun e => Shell.complaint e.message) := by
  have started : (Shell.fresh around.output).session.run settings.fuel source =
      .ending error last := ran
  have report : (Shell.fresh around.output).report = "" := rfl
  have answers := Shell.answers_evaluate started
  rw [report, String.empty_append] at answers
  rw [runs.run_eq]
  exact answers

/-- With enough fuel, the command replies with the code of the ending and with what was written. -/
lemma replies_of_ends {code : Nat} (runs : command.Runs around source)
    (ends : (Session.fresh 0 around.output).Ends source (.ending error last))
    (coded : (ExitStatus.ofError error).code = code) :
    ∃ enough, ∀ settings : Shell.Settings, enough ≤ settings.fuel → ∃ reply,
      command.run settings around = some reply ∧ reply.status.code = code ∧
      reply.output = last.sink.written := by
  obtain ⟨-, fuel, ran⟩ := ends
  refine ⟨fuel, fun settings le => ?_⟩
  have ran' := Session.Ends.of_le (Outcome.ending_ne error last) ran le
  obtain ⟨reply, replied, status, output, -⟩ := runs.answers ran'
  refine ⟨reply, replied, ?_, output⟩
  rw [status, coded]

/-- The command replies only when the run of the text has come to an end. -/
lemma exists_run {reply : Reply} (runs : command.Runs around source)
    (replied : command.run settings around = some reply) :
    ∃ error last, (Session.fresh 0 around.output).run settings.fuel source = .ending error last ∧
      reply.status = .ofError error ∧ reply.output = last.sink.written := by
  rw [runs.run_eq] at replied
  exact Shell.exists_run_of_evaluate replied

end Command.Runs

/-! ## Statuses -/

namespace ExitStatus

/-- The status of a refused text. -/
lemma code_of_refused {source : String} {e : Error} (refused : Program.ofSource source = .error e) :
    (ofError (some e)).code = 65 := by
  rcases Program.ofSource_eq_error_iff.1 refused with ⟨_, _, rfl⟩ | ⟨_, _, _, _, rfl⟩
  · rfl
  · rfl

/-- The status of a program that stops because of a name or of the kind of a value. -/
lemma code_of_ordinary {fault : Fault} (ordinary : fault.kind = .name ∨ fault.kind = .type) :
    (ofError (some (.fault fault))).code = 70 := by
  rcases ordinary with kind | kind
  · exact congrArg (fun kind => (ofKind kind).code) kind
  · exact congrArg (fun kind => (ofKind kind).code) kind

end ExitStatus

/-- While its output is taken, a run ends in one of three ways: the text is refused, it stops
because of a name or of the kind of a value, or it is through. -/
lemma Session.ending_cases {s last : Session} {fuel : Nat} {source : String} {error : Option Error}
    (unlimited : s.sink.room = none) (ran : s.run fuel source = .ending error last) :
    (∃ e, Program.ofSource source = .error e ∧ error = some e ∧ last = s) ∨
    ∃ program, Program.ofSource source = .ok program ∧
      (error = none ∨
        ∃ fault, error = some (.fault fault) ∧ (fault.kind = .name ∨ fault.kind = .type)) := by
  cases read : Program.ofSource source with
  | error e =>
    have refused : Outcome.ending (some e) s = .ending error last :=
      (run_of_refused read fuel s).symm.trans ran
    obtain ⟨rfl, rfl⟩ := Outcome.ending_inj refused
    exact .inl ⟨e, rfl, rfl, rfl⟩
  | ok program =>
    refine .inr ⟨program, rfl, ?_⟩
    cases error with
    | none => exact .inl rfl
    | some e =>
      obtain ⟨fault, rfl, -⟩ := exists_fault_of_run read ran
      exact .inr ⟨fault, rfl, (ordinary_of_run unlimited ran).kind⟩

/-- A source text is refused exactly if it is no program, and then it changes nothing; otherwise it
is through or stops with a fault that is not about the form of the program. Let a command run the
text while its output is taken. For a refused text it replies, whatever the fuel, with the status 65
and without any output. For a text that comes to an end it replies with enough fuel: with the status
70 if the text stops, which it does because of a name or of the kind of a value, and with the status
0 if it is through. And it never replies otherwise. -/
theorem outcome_and_status_of_source (source : String) :
    (∀ s : Session,
      (∀ cause last, s.Ends source (.failed (.lex cause) last) ↔
        tokenize source = .error cause ∧ last = s) ∧
      (∀ cause last, s.Ends source (.failed (.parse cause) last) ↔
        (∃ tokens, tokenize source = .ok tokens ∧
          Program.ofTokens (Token.withoutLayout tokens) = .error cause) ∧ last = s) ∧
      ∀ fault last, s.Ends source (.failed (.fault fault) last) →
        (fault.kind = .name ∨ fault.kind = .type ∨ fault.kind = .output) ∧
        (∀ symbol, fault ≠ .unknownOperator symbol) ∧ (∀ target, fault ≠ .invalidTarget target) ∧
        ∀ value, fault ≠ .illegalNegation value) ∧
    ∀ (around : Surroundings) (command : Command),
      command.Runs around source → around.output.room = none → around.output.written = #[] →
      ((∃ e, Program.ofSource source = .error e) → ∀ settings, ∃ reply,
        command.run settings around = some reply ∧ reply.status.code = 65 ∧ reply.output = #[]) ∧
      (∀ fault last, (Session.fresh 0 around.output).Ends source (.failed (.fault fault) last) →
        (fault.kind = .name ∨ fault.kind = .type) ∧
        ∃ enough, ∀ settings : Shell.Settings, enough ≤ settings.fuel → ∃ reply,
          command.run settings around = some reply ∧ reply.status.code = 70 ∧
          reply.output = last.sink.written) ∧
      (∀ last, (Session.fresh 0 around.output).Ends source (.done last) →
        ∃ enough, ∀ settings : Shell.Settings, enough ≤ settings.fuel → ∃ reply,
          command.run settings around = some reply ∧ reply.status.code = 0 ∧
          reply.output = last.sink.written) ∧
      ∀ settings reply, command.run settings around = some reply →
        (reply.status.code = 65 ↔ ∃ e, Program.ofSource source = .error e) ∧
        (reply.status.code = 65 → reply.output = #[]) ∧
        (reply.status.code = 70 ↔ (∃ program, Program.ofSource source = .ok program) ∧
          ∃ fault last, (Session.fresh 0 around.output).Ends source (.failed (.fault fault) last) ∧
            (fault.kind = .name ∨ fault.kind = .type)) ∧
        (reply.status.code = 0 ↔
          ∃ last, (Session.fresh 0 around.output).Ends source (.done last)) ∧
        (reply.status.code = 0 ∨ reply.status.code = 65 ∨ reply.status.code = 70) := by
  refine ⟨fun s => ⟨fun _ _ => s.ends_lex_iff, fun _ _ => s.ends_parse_iff,
    fun _ _ => s.fault_of_ends⟩, ?_⟩
  intro around command runs unlimited empty
  refine ⟨?_, ?_, ?_, ?_⟩
  · rintro ⟨e, refused⟩ settings
    have ran : (Session.fresh 0 around.output).run settings.fuel source = .ending (some e) _ :=
      Session.run_of_refused refused settings.fuel _
    obtain ⟨reply, replied, status, output, -⟩ := runs.answers ran
    refine ⟨reply, replied, ?_, output.trans empty⟩
    rw [status, ExitStatus.code_of_refused refused]
  · intro fault last stops
    have ends : (Session.fresh 0 around.output).Ends source (.ending (some (.fault fault)) last) :=
      stops
    obtain ⟨-, fuel, ran⟩ := stops
    have kind := (Session.ordinary_of_run unlimited ran).kind
    exact ⟨kind, runs.replies_of_ends ends (ExitStatus.code_of_ordinary kind)⟩
  · intro last through
    have ends : (Session.fresh 0 around.output).Ends source (.ending none last) := through
    exact runs.replies_of_ends ends rfl
  · intro settings reply replied
    obtain ⟨error, last, ran, status, output⟩ := runs.exists_run replied
    have ends : (Session.fresh 0 around.output).Ends source (.ending error last) :=
      ⟨Outcome.ending_ne error last, settings.fuel, ran⟩
    rw [status]
    -- the three endings have different codes, and a run has one ending only
    rcases Session.ending_cases unlimited ran with
      ⟨e, refused, rfl, rfl⟩ | ⟨program, accepted, rfl | ⟨fault, rfl, kind⟩⟩
    · have code := ExitStatus.code_of_refused refused
      have noProgram : ¬ ∃ program, Program.ofSource source = .ok program := by simp [refused]
      refine ⟨iff_of_true code ⟨e, refused⟩, fun _ => output.trans empty,
        iff_of_false (by omega) fun stops => noProgram stops.1, iff_of_false (by omega) ?_,
        .inr (.inl code)⟩
      rintro ⟨last', through⟩
      cases ends.unique through
    · have code : (ExitStatus.ofError none).code = 0 := rfl
      have noError : ¬ ∃ e, Program.ofSource source = .error e := by simp [accepted]
      refine ⟨iff_of_false (by omega) noError, by omega, iff_of_false (by omega) ?_,
        iff_of_true code ⟨last, ends⟩, .inl code⟩
      rintro ⟨-, fault, last', stops, -⟩
      cases ends.unique stops
    · have code := ExitStatus.code_of_ordinary kind
      have noError : ¬ ∃ e, Program.ofSource source = .error e := by simp [accepted]
      refine ⟨iff_of_false (by omega) noError, by omega,
        iff_of_true code ⟨⟨program, accepted⟩, fault, last, ends, kind⟩, iff_of_false (by omega) ?_,
        .inr (.inr code)⟩
      rintro ⟨last', through⟩
      cases ends.unique through

/-- A text that stops at a name that is not bound, and one that is refused. -/
theorem outcome_and_status_of_unbound_name :
    (∃ fault last,
      (Session.fresh 0 Sink.unlimited).Ends "a=b;" (.failed (.fault fault) last) ∧
      fault.kind = .name ∧ (∀ symbol, fault ≠ .unknownOperator symbol) ∧
      ∃ enough, ∀ settings : Shell.Settings, enough ≤ settings.fuel → ∃ reply,
        (Command.evaluate "a=b;").run settings ⟨fun _ => .error .notFound, [], Sink.unlimited⟩ =
          some reply ∧ reply.status.code = 70) ∧
    ∃ reply,
      (Command.evaluate "a=;").run ⟨true, 0⟩ ⟨fun _ => .error .notFound, [], Sink.unlimited⟩ =
        some reply ∧ reply.status.code = 65 ∧ reply.output = #[] := by
  constructor
  · obtain ⟨fromSessions, fromCommands⟩ := outcome_and_status_of_source "a=b;"
    have ends : (Session.fresh 0 Sink.unlimited).Ends "a=b;"
        (.failed (.fault (.undefinedVariable "b")) (Session.fresh 0 Sink.unlimited)) :=
      ⟨nofun, 1, rfl⟩
    obtain ⟨-, stops, -⟩ := fromCommands ⟨fun _ => .error .notFound, [], Sink.unlimited⟩
      (.evaluate "a=b;") (.inl rfl) rfl rfl
    obtain ⟨-, enough, replies⟩ := stops _ _ ends
    refine ⟨_, _, ends, rfl, ((fromSessions _).2.2 _ _ ends).2.1, enough, fun settings le => ?_⟩
    obtain ⟨reply, replied, code, -⟩ := replies settings le
    exact ⟨reply, replied, code⟩
  · obtain ⟨-, fromCommands⟩ := outcome_and_status_of_source "a=;"
    obtain ⟨refused, -⟩ := fromCommands ⟨fun _ => .error .notFound, [], Sink.unlimited⟩
      (.evaluate "a=;") (.inl rfl) rfl rfl
    exact refused ⟨_, rfl⟩ ⟨true, 0⟩

end Scriptlet
