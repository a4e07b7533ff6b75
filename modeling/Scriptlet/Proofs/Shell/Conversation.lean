import Scriptlet.Proofs.Program.Append
import Scriptlet.Proofs.Session.Output
import Scriptlet.Proofs.Shell.Status
import Scriptlet.Proofs.Text.Lines

/-!
# Conversations

What the prompt makes of a text, line by line, and what a script with the same text does. The lines
are run one after the other in one session (`Session.Converses`). The prompt shows their outputs,
each behind a prompt, and reports their errors. Lines that are no programs can be left out, since
they leave no trace. If all lines are programs, then so is the text, and a script with it does what
the prompt does up to the first error.
-/

namespace Scriptlet

/-- What became of a line that was run in a session. -/
@[ext]
structure Turn where
  /-- The line with its line break. -/
  line : String
  /-- The bytes that the line wrote. -/
  output : Array UInt8
  /-- Why the line did not run to its end, if it did not. -/
  error : Option Error

/-- The lines come to an end one after the other, each of them run from where the last one left the
session. -/
def Session.Terminates : Session → List String → Prop
  | _, [] => True
  | s, line :: lines => ∃ error middle, s.Ends line (.ending error middle) ∧ middle.Terminates lines

/-- The lines are run one after the other, with what became of each of them. -/
inductive Session.Converses : Session → List Turn → Session → Prop where
  | closed (s : Session) : Converses s [] s
  | turn {s middle last : Session} {turn : Turn} {turns : List Turn}
      (ends : s.Ends turn.line (.ending turn.error middle))
      (wrote : middle.sink.written = s.sink.written ++ turn.output)
      (more : Converses middle turns last) : Converses s (turn :: turns) last

namespace Turn

/-- Whether the line is a program by itself. -/
def isProgram (turn : Turn) : Bool :=
  (Program.ofSource turn.line).isOk

/-- The outputs one after the other. -/
def outputs : List Turn → Array UInt8
  | [] => #[]
  | turn :: more => turn.output ++ outputs more

/-- A prompt before each output, and one more at the end. -/
def dialogue : List Turn → Array UInt8
  | [] => "> ".toUTF8.data
  | turn :: more => "> ".toUTF8.data ++ turn.output ++ dialogue more

/-- The reports of the errors one after the other. -/
def complaints : List Turn → String
  | [] => ""
  | turn :: more =>
    (turn.error.elim "" fun e => Shell.complaint e.message) ++ complaints more

/-- The turns up to the first with an error, and that one. -/
def upToError : List Turn → List Turn
  | [] => []
  | turn :: more => if turn.error.isSome then [turn] else turn :: upToError more

end Turn

/-! ## The same line in two sessions -/

namespace Outcome

variable {ε : Type} {error : Option ε} {outcome : Outcome ε} {s : Session}

/-- An outcome that is an ending but for its journal and with another sink is one with its own sink.
-/
lemma exists_ending_of_withSink {sink : Sink}
    (same : (outcome.withSink sink).unnoted = (ending error s).unnoted) :
    ∃ s', outcome = ending error s' ∧ s'.vars = s.vars ∧ sink = s.sink := by
  cases error <;> cases outcome <;>
    simp only [ending, withSink, unnoted, reduceCtorEq, done.injEq, failed.injEq] at same
  case none.done s' => exact ⟨s', rfl, Session.vars_and_sink_of_unnoted same⟩
  case some.failed cause e s' =>
    obtain ⟨rfl, same⟩ := same
    exact ⟨s', rfl, Session.vars_and_sink_of_unnoted same⟩

end Outcome

namespace Session

variable {s t : Session} {fuel : Nat}

/-- Where output is not limited, a program does the same whatever was written before and whatever is
in the journal. -/
lemma program_run_elsewhere (program : Program) (fuel : Nat) (same : t.vars = s.vars)
    (unlimited : s.sink.room = none) (unlimited' : t.sink.room = none) :
    ∃ (bytes : Array UInt8) (outcome : Outcome Fault),
      (program.run fuel s).unnoted =
        (outcome.withSink { s.sink with written := s.sink.written ++ bytes }).unnoted ∧
      program.run fuel t = outcome.withSink { t.sink with written := t.sink.written ++ bytes } := by
  obtain ⟨bytes, outcome, told⟩ := Stmt.execAll_tells fuel program t
  refine ⟨bytes, outcome, ?_, told.through (Sink.writeBytes_of_unlimited unlimited' bytes)⟩
  rw [← told.through (Sink.writeBytes_of_unlimited unlimited bytes)]
  apply Stmt.execAll_alike quiet_none quiet_none fuel program s
  simp only [unnoted, same]

/-- A source text runs alike in two sessions with the same variables, and adds the same bytes to
both sinks. -/
lemma run_elsewhere (source : String) (fuel : Nat) (same : t.vars = s.vars)
    (unlimited : s.sink.room = none) (unlimited' : t.sink.room = none) :
    ∃ (bytes : Array UInt8) (outcome : Outcome Error),
      (s.run fuel source).unnoted =
        (outcome.withSink { s.sink with written := s.sink.written ++ bytes }).unnoted ∧
      t.run fuel source = outcome.withSink { t.sink with written := t.sink.written ++ bytes } := by
  cases read : Program.ofSource source with
  | error e =>
    refine ⟨#[], .failed e t, ?_, ?_⟩
    · rw [run_of_refused read]
      simp [Outcome.withSink, Outcome.unnoted, unnoted, same]
    · rw [run_of_refused read]
      simp [Outcome.withSink]
  | ok program =>
    obtain ⟨bytes, outcome, there, here⟩ :=
      program_run_elsewhere program fuel same unlimited unlimited'
    have commutes : ∀ sink, (outcome.mapCause Error.fault).withSink sink =
        (outcome.withSink sink).mapCause Error.fault := by
      intro sink
      cases outcome <;> rfl
    refine ⟨bytes, outcome.mapCause .fault, ?_, ?_⟩
    · simp only [run, runBy, read, commutes, Outcome.unnoted_mapCause, there]
    · simp only [run, runBy, read, commutes, here]

/-- A line that ends has added some bytes to the output. -/
lemma exists_output_of_run {middle : Session} {line : String} {error : Option Error}
    (unlimited : s.sink.room = none) (ran : s.run fuel line = .ending error middle) :
    ∃ bytes, middle.sink = { s.sink with written := s.sink.written ++ bytes } := by
  obtain ⟨bytes, outcome, same, -⟩ := run_elsewhere line fuel rfl unlimited unlimited
  rw [ran] at same
  obtain ⟨-, -, -, taken⟩ := Outcome.exists_ending_of_withSink same.symm
  exact ⟨bytes, taken.symm⟩

/-- A line has the same output, error and variables in another session with the same variables. -/
lemma exists_run_of_vars_eq {middle : Session} {line : String} {error : Option Error}
    {output : Array UInt8} (same : t.vars = s.vars) (unlimited : s.sink.room = none)
    (unlimited' : t.sink.room = none) (ran : s.run fuel line = .ending error middle)
    (wrote : middle.sink.written = s.sink.written ++ output) :
    ∃ next : Session, t.run fuel line = .ending error next ∧ next.vars = middle.vars ∧
      next.sink = { t.sink with written := t.sink.written ++ output } := by
  obtain ⟨bytes, outcome, there, here⟩ := run_elsewhere line fuel same unlimited unlimited'
  rw [ran] at there
  obtain ⟨final, rfl, vars, taken⟩ := Outcome.exists_ending_of_withSink there.symm
  obtain rfl : output = bytes := by
    rw [← taken] at wrote
    exact ((Array.append_right_inj s.sink.written).1 wrote).symm
  refine ⟨{ final with sink := { t.sink with written := t.sink.written ++ output } }, ?_, vars, rfl⟩
  rw [here]
  cases error <;> rfl

/-- Lines that come to an end have a conversation. -/
lemma Terminates.exists_converses {lines : List String} (terminates : s.Terminates lines)
    (unlimited : s.sink.room = none) :
    ∃ turns last, turns.map Turn.line = lines ∧ s.Converses turns last := by
  induction lines generalizing s with
  | nil => exact ⟨[], s, rfl, .closed s⟩
  | cons line lines ih =>
    obtain ⟨error, middle, ends, more⟩ := terminates
    obtain ⟨fuel, ran⟩ := ends.2
    obtain ⟨bytes, sink⟩ := exists_output_of_run unlimited ran
    obtain ⟨turns, last, rfl, converses⟩ := ih more (by rw [sink, unlimited])
    exact ⟨⟨line, bytes, error⟩ :: turns, last, rfl, .turn ends (by rw [sink]) converses⟩

/-- The lines determine the conversation. -/
lemma Converses.unique {last last' : Session} {turns turns' : List Turn}
    (first : s.Converses turns last) (second : s.Converses turns' last')
    (same : turns.map Turn.line = turns'.map Turn.line) : turns = turns' := by
  induction first generalizing turns' with
  | closed s => exact (List.map_eq_nil_iff.1 same.symm).symm
  | @turn s middle last turn turns ends wrote more ih =>
    cases second with
    | closed => cases same
    | @turn s middle' last' turn' turns' ends' wrote' more' =>
      obtain ⟨line, lines⟩ := List.cons.inj same
      rw [line] at ends
      obtain ⟨error, rfl⟩ := Outcome.ending_inj (ends.unique ends')
      have output := (Array.append_right_inj s.sink.written).1 (wrote.symm.trans wrote')
      exact congrArg₂ List.cons (Turn.ext line output error) (ih more' lines)

end Session

/-! ## The prompt -/

namespace Shell

/-- The prompt is written, if the sink has no limit. -/
lemma ask_of_unlimited {shell : Shell} (unlimited : shell.session.sink.room = none) :
    shell.ask = (.ok (), { shell with session.sink.written :=
      shell.session.sink.written ++ "> ".toUTF8.data }) := by
  simp only [ask, write, Sink.write, Sink.writeBytes_of_unlimited unlimited]

/-- With enough fuel the prompt goes through a conversation and shows it. -/
lemma answers_converse {s last : Session} {turns : List Turn} (converses : s.Converses turns last)
    (unlimited : s.sink.room = none) :
    ∃ enough, ∀ settings : Settings, enough ≤ settings.fuel → ∀ shell : Shell,
      shell.session.vars = s.vars → shell.session.sink.room = none →
      Answers settings (shell.converse settings (turns.map fun turn => Text.encode turn.line))
        .success (shell.session.sink.written ++ Turn.dialogue turns)
        (shell.report ++ Turn.complaints turns) := by
  induction converses with
  | closed s =>
    refine ⟨0, fun settings _ shell same unlimited' => ?_⟩
    rw [List.map_nil, converse, ask_of_unlimited unlimited']
    exact ⟨_, rfl, rfl, rfl, fun _ => by simp [reply, Turn.complaints]⟩
  | @turn s middle last turn turns ends wrote more ih =>
    obtain ⟨-, fuel, ran⟩ := ends
    obtain ⟨bytes, taken⟩ := Session.exists_output_of_run unlimited ran
    obtain ⟨enough, rest⟩ := ih (by rw [taken, unlimited])
    refine ⟨max fuel enough, fun settings le shell same unlimited' => ?_⟩
    obtain ⟨le, le'⟩ := Nat.max_le.1 le
    have ran' := Session.Ends.of_le (Outcome.ending_ne _ _) ran le
    rw [List.map_cons, converse, ask_of_unlimited unlimited']
    -- the prompt was written to the sink, which no source text takes notice of
    generalize asked : ({ shell with session.sink.written :=
      shell.session.sink.written ++ "> ".toUTF8.data } : Shell) = shell'
    have same' : shell'.session.vars = s.vars := by rw [← asked, same]
    have unlimited'' : shell'.session.sink.room = none := by rw [← asked, unlimited']
    obtain ⟨next, runs, vars, sink⟩ :=
      Session.exists_run_of_vars_eq same' unlimited unlimited'' ran' wrote
    obtain ⟨shell'', fed, alike, reported⟩ := exists_feed_of_run runs
    obtain ⟨vars', sink'⟩ := Session.vars_and_sink_of_unnoted alike
    rw [sink] at sink'
    obtain ⟨reply, answer, status, output, report⟩ :=
      rest settings le' shell'' (vars'.trans vars) (by rw [sink', unlimited''])
    refine ⟨reply, ?_, status, ?_, ?_⟩
    · simp only [Text.decode?_encode, fed, answer]
    · rw [output, sink', ← asked]
      simp [Turn.dialogue, Array.append_assoc]
    · intro quiet
      rw [report quiet, reported quiet, ← asked]
      simp [Turn.complaints, String.append_assoc]

/-- With enough fuel the prompt shows the conversation that it has about the lines of its input. -/
lemma answers_prompt {output : Sink} {last : Session} {turns : List Turn}
    (converses : (Session.fresh 0 output).Converses turns last) (unlimited : output.room = none)
    (empty : output.written = #[])
    (pieces : Text.Pieces '\n' ((turns.map Turn.line).map String.toList)) :
    ∃ enough, ∀ settings : Settings, enough ≤ settings.fuel → ∀ file,
      Answers settings (Command.prompt.run settings
        ⟨file, Text.encode (String.join (turns.map Turn.line)), output⟩) .success
        (Turn.dialogue turns) (Turn.complaints turns) := by
  obtain ⟨enough, answers⟩ := answers_converse converses unlimited
  refine ⟨enough, fun settings le file => ?_⟩
  have shown := answers settings le (Shell.fresh output) rfl unlimited
  have report : (Shell.fresh output).report = "" := rfl
  have written : (Shell.fresh output).session.sink.written = #[] := empty
  rw [written, report, Array.empty_append, String.empty_append] at shown
  simp only [Command.run, Text.lines_encode_join pieces, List.map_map]
  exact shown

end Shell

/-! ## Lines that are no programs -/

/-- Lines that are no programs leave nothing behind. -/
lemma Session.Converses.filter_isProgram {s last : Session} {turns : List Turn}
    (converses : s.Converses turns last) : s.Converses (turns.filter Turn.isProgram) last := by
  induction converses with
  | closed s => exact .closed s
  | @turn s middle last turn turns ends wrote more ih =>
    cases read : Program.ofSource turn.line with
    | ok program =>
      have accepted : turn.isProgram = true := by rw [Turn.isProgram, read]; rfl
      rw [List.filter_cons_of_pos accepted]
      exact .turn ends wrote ih
    | error e =>
      have refused : ¬ turn.isProgram = true := by rw [Turn.isProgram, read]; exact nofun
      rw [List.filter_cons_of_neg refused]
      have stays : s.Ends turn.line (.ending (some e) s) :=
        ⟨nofun, 0, Session.run_of_refused read 0 s⟩
      have same := ends.unique stays
      obtain ⟨-, rfl⟩ := Outcome.ending_inj same
      exact ih

/-! ## The script -/

/-- A line that is accepted by itself is a program. -/
lemma Turn.exists_program {turn : Turn} (accepted : turn.isProgram = true) :
    ∃ program, Program.ofSource turn.line = .ok program := by
  cases read : Program.ofSource turn.line with
  | ok program => exact ⟨program, rfl⟩
  | error e => simp [isProgram, read, Except.isOk, Except.toBool] at accepted

/-- Lines that are programs are a program together. -/
lemma Program.exists_ofSource_join {turns : List Turn}
    (programs : ∀ turn ∈ turns, turn.isProgram = true) :
    ∃ program, Program.ofSource (String.join (turns.map Turn.line)) = .ok program := by
  induction turns with
  | nil => exact ⟨[], rfl⟩
  | cons turn turns ih =>
    obtain ⟨head, others⟩ := List.forall_mem_cons.1 programs
    obtain ⟨program, accepted⟩ := Turn.exists_program head
    obtain ⟨more, accepted'⟩ := ih others
    refine ⟨program ++ more, ?_⟩
    rw [List.map_cons, String.join_cons, Program.ofSource_append_eq accepted, accepted']

/-- The lines of a conversation together run up to the first error. -/
lemma Session.Converses.run_join {s last : Session} {turns : List Turn}
    (converses : s.Converses turns last) :
    ∃ enough, (∀ turn ∈ turns, turn.isProgram = true) → ∀ fuel, enough ≤ fuel → ∃ next,
      s.run fuel (String.join (turns.map Turn.line)) =
        .ending (turns.findSome? Turn.error) next ∧
      next.sink.written = s.sink.written ++ Turn.outputs (Turn.upToError turns) := by
  induction converses with
  | closed s => exact ⟨0, fun _ fuel _ => ⟨s, rfl, by simp [Turn.upToError, Turn.outputs]⟩⟩
  | @turn s middle last turn turns ends wrote more ih =>
    obtain ⟨-, fuel, ran⟩ := ends
    obtain ⟨enough, runs⟩ := ih
    refine ⟨max fuel enough, fun programs fuel' le => ?_⟩
    obtain ⟨le, le'⟩ := Nat.max_le.1 le
    obtain ⟨head, others⟩ := List.forall_mem_cons.1 programs
    obtain ⟨program, accepted⟩ := Turn.exists_program head
    obtain ⟨rest, accepted'⟩ := Program.exists_ofSource_join others
    have ran' := Session.Ends.of_le (Outcome.ending_ne _ _) ran le
    rw [List.map_cons, String.join_cons, Session.run_append accepted accepted', ran']
    -- a line with an error is the last one that is run
    cases failed : turn.error with
    | none =>
      obtain ⟨next, runs, wrote'⟩ := runs others fuel' le'
      refine ⟨next, ?_, ?_⟩
      · rw [List.findSome?_cons, failed]
        exact runs
      · simp [wrote', wrote, Turn.upToError, Turn.outputs, failed, Array.append_assoc]
    | some e =>
      refine ⟨middle, ?_, ?_⟩
      · rw [List.findSome?_cons, failed]
        rfl
      · simp [wrote, Turn.upToError, Turn.outputs, failed]

/-- The reports up to the first error are the report of the first error. -/
lemma Turn.complaints_upToError (turns : List Turn) :
    complaints (upToError turns) =
      (turns.findSome? Turn.error).elim "" fun e => Shell.complaint e.message := by
  induction turns with
  | nil => rfl
  | cons turn turns ih =>
    cases failed : turn.error with
    | none => simp [upToError, complaints, failed, ih]
    | some e => simp [upToError, complaints, failed]

/-- With enough fuel a command that runs the lines together does what the lines do up to the first
error. -/
lemma Shell.answers_script {output : Sink} {last : Session} {turns : List Turn}
    (converses : (Session.fresh 0 output).Converses turns last) (empty : output.written = #[]) :
    ∃ enough, (∀ turn ∈ turns, turn.isProgram = true) →
      ∀ settings : Settings, enough ≤ settings.fuel → ∀ file input (command : Command),
      command.Runs ⟨file, input, output⟩ (String.join (turns.map Turn.line)) →
      Answers settings (command.run settings ⟨file, input, output⟩)
        (.ofError (turns.findSome? Turn.error)) (Turn.outputs (Turn.upToError turns))
        (Turn.complaints (Turn.upToError turns)) := by
  obtain ⟨enough, script⟩ := converses.run_join
  refine ⟨enough, fun programs settings le file input command runs => ?_⟩
  obtain ⟨next, ran, wrote⟩ := script programs settings.fuel le
  have answers := runs.answers ran
  have written : (Session.fresh 0 output).sink.written = #[] := empty
  rw [wrote, written, Array.empty_append] at answers
  rw [Turn.complaints_upToError]
  exact answers

/-- The prompt and a script agree. Let the input be a text whose lines come to an end if they are
run one after the other. Then each of them has its output and perhaps its error. With enough fuel
the prompt ends well; it shows a prompt and the output of the line for each of the lines, and a
prompt at the end, and it reports their errors in order. Without the lines that are no programs the
other lines have the same outputs and errors. And if all lines are programs, a script with the text
writes what the lines write up to the first error, and reports that error. -/
theorem Shell.prompt_agrees_with_script (input : List UInt8) (text : String)
    (file : String → Except ReadFailure (List UInt8)) (output : Sink)
    (decoded : Text.decode? input = some text) (unlimited : output.room = none)
    (empty : output.written = #[])
    (terminates : (Session.fresh 0 output).Terminates (Text.sourceLines text)) :
    ∃ turns last, turns.map Turn.line = Text.sourceLines text ∧
      (Session.fresh 0 output).Converses turns last ∧
      (Session.fresh 0 output).Converses (turns.filter Turn.isProgram) last ∧
      ∃ enough, ∀ settings : Settings, enough ≤ settings.fuel →
        Answers settings (Command.prompt.run settings ⟨file, input, output⟩) .success
          (Turn.dialogue turns) (Turn.complaints turns) ∧
        Answers settings
          (Command.prompt.run settings
            ⟨file, Text.encode (String.join ((turns.filter Turn.isProgram).map Turn.line)), output⟩)
          .success (Turn.dialogue (turns.filter Turn.isProgram))
          (Turn.complaints (turns.filter Turn.isProgram)) ∧
        ((∀ turn ∈ turns, turn.isProgram = true) → ∀ (command : Command) (input : List UInt8),
          command.Runs ⟨file, input, output⟩ text →
          Answers settings (command.run settings ⟨file, input, output⟩)
            (.ofError (turns.findSome? Turn.error)) (Turn.outputs (Turn.upToError turns))
            (Turn.complaints (Turn.upToError turns))) := by
  obtain ⟨turns, last, lines, converses⟩ := terminates.exists_converses unlimited
  have pieces := Text.pieces_sourceLines text
  have joined := Text.join_sourceLines text
  rw [← lines] at pieces joined
  have pieces' := pieces.sublist
    (((List.filter_sublist (p := Turn.isProgram)).map Turn.line).map String.toList)
  have converses' := converses.filter_isProgram
  obtain ⟨enough, prompt⟩ := answers_prompt converses unlimited empty pieces
  obtain ⟨enough', prompt'⟩ := answers_prompt converses' unlimited empty pieces'
  obtain ⟨enough'', script⟩ := answers_script converses empty
  rw [joined] at prompt script
  obtain rfl := Text.eq_encode_of_decode? decoded
  refine ⟨turns, last, lines, converses, converses', max (max enough enough') enough'', ?_⟩
  intro settings le
  refine ⟨prompt settings (by omega) file, prompt' settings (by omega) file, ?_⟩
  exact fun programs command input => script programs settings (by omega) file input command

/-- A line that writes, one that is no program, and one that stops. -/
theorem Shell.prompt_agrees_with_script_three_lines :
    ∃ enough, ∀ settings : Settings, enough ≤ settings.fuel →
      Answers settings
        (Command.prompt.run settings
          ⟨fun _ => .error .notFound, Text.encode "x=true;print(x,);\nif\nprint(y,);\n",
            .unlimited⟩)
        .success "> True\n> > > ".toUTF8.data
        ("error: ParseError: Expected `(`, but instead got end of input.\n" ++
          "error: NameError: No such variable `y`.\n") ∧
      Answers settings
        ((Command.evaluate "x=true;print(x,);\nprint(y,);\n").run settings
          ⟨fun _ => .error .notFound, [], .unlimited⟩)
        .stopped "True\n".toUTF8.data "error: NameError: No such variable `y`.\n" := by
  let start := Session.fresh 0 .unlimited
  let middle : Session :=
    { start.define "x" (.boolean true) with
      sink := { Sink.unlimited with written := "True\n".toUTF8.data } }
  have ends : start.Ends "x=true;print(x,);\n" (.ending none middle) := ⟨nofun, 1, rfl⟩
  have ends' : middle.Ends "if\n"
      (.ending (some (.parse (.expectedSymbol "(" .endOfInput))) middle) := ⟨nofun, 1, rfl⟩
  have ends'' : middle.Ends "print(y,);\n"
      (.ending (some (.fault (.undefinedVariable "y"))) middle) := ⟨nofun, 1, rfl⟩
  obtain ⟨turns, last, lines, converses, -, enough, answers⟩ :=
    prompt_agrees_with_script _ "x=true;print(x,);\nif\nprint(y,);\n" (fun _ => .error .notFound)
      .unlimited (Text.decode?_encode _) rfl rfl ⟨_, _, ends, _, _, ends', _, _, ends'', trivial⟩
  obtain ⟨turns', last', lines', converses', -, enough', answers'⟩ :=
    prompt_agrees_with_script _ "x=true;print(x,);\nprint(y,);\n" (fun _ => .error .notFound)
      .unlimited (Text.decode?_encode _) rfl rfl ⟨_, _, ends, _, _, ends'', trivial⟩
  have turned : start.Converses
      [⟨_, "True\n".toUTF8.data, none⟩, ⟨_, #[], some _⟩, ⟨_, #[], some _⟩] middle :=
    .turn ends rfl (.turn ends' rfl (.turn ends'' rfl (.closed middle)))
  have turned' : start.Converses [⟨_, "True\n".toUTF8.data, none⟩, ⟨_, #[], some _⟩] middle :=
    .turn ends rfl (.turn ends'' rfl (.closed middle))
  obtain rfl := converses.unique turned lines
  obtain rfl := converses'.unique turned' lines'
  refine ⟨max enough enough', fun settings le => ⟨?_, ?_⟩⟩
  · exact (answers settings (by omega)).1
  · exact (answers' settings (by omega)).2.2 (by decide) _ _ (.inl rfl)

end Scriptlet
