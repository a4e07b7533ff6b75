import Mathlib.Data.List.Forall2
import Scriptlet.Proofs.Number.Literal
import Scriptlet.Proofs.Session.Performs
import Scriptlet.Proofs.Shell.Conversation

/-!
# The output of a session

Whatever is run in a session, its output consists of the lines that its calls print, in the order of
the calls (`Session.Reports`). A line is the text of one value, and no such text has a line break in
it (`Value.newline_not_mem_text`). So the lines of the output are the printed values, step by step
(`Transcript`), also where a step fails.
-/

namespace Scriptlet

/-! ## What calls print -/

namespace Call

/-- The lines that a call prints: one for each of its arguments. -/
def lines (call : Call) : List String :=
  call.arguments.map fun value => value.text ++ "\n"

/-- What calls print one after the other. -/
def output (calls : List Call) : String :=
  String.join (calls.flatMap lines)

/-- Calls print the output of the first ones and then that of the others. -/
lemma output_append (first second : List Call) :
    output (first ++ second) = output first ++ output second := by
  rw [output, List.flatMap_append, String.join_append]
  rfl

variable {sink : Sink}

/-- A call writes its lines, if the sink has no limit. -/
lemma writeTo_of_unlimited (call : Call) (unlimited : sink.room = none) :
    call.writeTo sink = sink.after (String.join call.lines) := by
  obtain ⟨⟨origin⟩, values⟩ := call
  rw [writeTo, Builtin.run, Writing.bind_apply, Writing.lines_of_unlimited _ unlimited,
    List.map_map]
  rfl

/-- A sink without a limit takes what all calls print. -/
lemma foldl_writeTo (calls : List Call) (unlimited : sink.room = none) :
    calls.foldl writeTo sink = sink.after (output calls) := by
  induction calls generalizing sink with
  | nil => exact sink.after_empty.symm
  | cons call rest ih =>
    rw [List.foldl_cons, call.writeTo_of_unlimited unlimited, output, List.flatMap_cons,
      String.join_append, Sink.after_append]
    exact ih ((sink.room_after _).trans unlimited)

end Call

/-! ## The texts of values have no line breaks -/

/-- The text of a number has no line break. -/
lemma Number.newline_not_mem_text (x : Float) : '\n' ∉ (Number.text x).toList := by
  have size : ∀ b, '\n' ∉ Number.sizeText b := by
    intro b member
    rw [sizeText] at member
    split at member
    · simp at member
    · rcases Decimal.mem_positional member with digit | point
      · exact absurd digit (by decide)
      · cases point
  rw [text, String.toList_ofList]
  cases Magnitude.ofFloat x with
  | undefined => decide
  | infinite negative => cases negative <;> decide
  | finite negative b =>
    cases negative with
    | false => exact size b
    | true => simpa [magnitudeText, magnitudeText.signed] using size b

/-- The text of a value has no line break. -/
lemma Value.newline_not_mem_text (value : Value) : '\n' ∉ value.text.toList := by
  cases value with
  | number x => exact Number.newline_not_mem_text x
  | boolean b => cases b <;> decide
  | null => decide
  | function f =>
    obtain ⟨origin⟩ := f
    exact (by decide : '\n' ∉ "print".toList)

/-- Two texts in a row are encoded one after the other. -/
lemma Text.encode_append (first second : String) :
    encode (first ++ second) = encode first ++ encode second := by
  simp only [encode_eq_flatMap, String.toList_append, List.flatMap_append]

/-- What calls print is cut into the lines that they print. -/
lemma Call.lines_output (calls : List Call) :
    Text.lines (Text.encode (Call.output calls)) = (calls.flatMap Call.lines).map Text.encode := by
  have each : ∀ values : List Value,
      Text.Pieces '\n' ((values.map fun value => value.text ++ "\n").map String.toList) := by
    intro values
    induction values with
    | nil => exact .none
    | cons value values ih =>
      rw [List.map_cons, List.map_cons, String.toList_append]
      exact .next value.newline_not_mem_text ih
  refine Text.lines_encode_join ?_
  have all := each (calls.flatMap Call.arguments)
  rwa [List.map_flatMap] at all

/-! ## Runs -/

namespace Outcome

variable {ε ε' : Type} {error : Option ε} {s last : Session}

/-- An outcome that is through ends without an error. -/
lemma eq_of_done_eq_ending (same : .done s = ending error last) : error = none ∧ last = s := by
  have both : ending none s = ending error last := same
  obtain ⟨rfl, rfl⟩ := ending_inj both
  exact ⟨rfl, rfl⟩

/-- An outcome that failed ends with its cause. -/
lemma eq_of_failed_eq_ending {cause : ε} (same : .failed cause s = ending error last) :
    error = some cause ∧ last = s := by
  have both : ending (some cause) s = ending error last := same
  obtain ⟨rfl, rfl⟩ := ending_inj both
  exact ⟨rfl, rfl⟩

/-- An ending after a change of the causes was an ending before. -/
lemma exists_ending_of_mapCause {f : ε' → ε} {outcome : Outcome ε'}
    (same : outcome.mapCause f = ending error last) :
    ∃ cause, outcome = ending cause last ∧ error = cause.map f := by
  cases outcome with
  | done s =>
    obtain ⟨rfl, rfl⟩ := eq_of_done_eq_ending same
    exact ⟨none, rfl, rfl⟩
  | failed cause s =>
    obtain ⟨rfl, rfl⟩ := eq_of_failed_eq_ending same
    exact ⟨some cause, rfl, rfl⟩
  | outOfFuel => exact absurd same.symm (ending_ne error last)

end Outcome

namespace Session

variable {s middle last : Session} {calls more : List Call}

/-- Between the two sessions just what the calls print has been written. -/
def Prints (s : Session) (calls : List Call) (last : Session) : Prop :=
  last.sink = s.sink.after (Call.output calls)

/-- If the sink is the same, no calls have been printed. -/
lemma prints_nil (same : last.sink = s.sink) : s.Prints [] last :=
  same.trans s.sink.after_empty.symm

/-- What is printed up to a session and from there on is printed in a row. -/
lemma Prints.trans (first : s.Prints calls middle) (second : middle.Prints more last) :
    s.Prints (calls ++ more) last := by
  rw [Prints, second, first, Call.output_append, Sink.after_append]

/-- A sink without a limit has none after calls have been printed. -/
lemma Prints.room_eq_none (prints : s.Prints calls last) (unlimited : s.sink.room = none) :
    last.sink.room = none := by
  rw [prints]
  exact unlimited

/-- An evaluation prints the calls that the rules give, and the variables stay. -/
lemma exists_performs {e : Expr} {result : Except Fault Value} (unlimited : s.sink.room = none)
    (evaluated : s.evaluate e = (result, last)) :
    ∃ calls, e.Performs s.vars calls result ∧ s.Prints calls last ∧ last.vars = s.vars := by
  obtain ⟨rfl, rfl⟩ := Prod.mk.inj evaluated
  refine ⟨_, e.performs_calls s.vars unlimited, ?_, rfl⟩
  exact (e.eval_makes s.vars s.sink).trans (Call.foldl_writeTo _ unlimited)

/-- A test is an evaluation, of which the value is taken as an answer. -/
lemma test_eq (s : Session) (condition : Expr) :
    s.test condition = ((s.evaluate condition).1.bind Value.truth, (s.evaluate condition).2) := by
  rw [test, perform, evaluate, perform, Expr.holds, Writing.bind_apply]
  rcases condition.eval s.vars s.sink with ⟨_ | _, _⟩ <;> rfl

/-- A test prints the calls that the rules give, and the variables stay. -/
lemma exists_tests {condition : Expr} {answer : Except Fault Bool} (unlimited : s.sink.room = none)
    (tested : s.test condition = (answer, last)) :
    ∃ calls, condition.Tests s.vars calls answer ∧ s.Prints calls last ∧ last.vars = s.vars := by
  rcases evaluated : s.evaluate condition with ⟨result, stopped⟩
  obtain ⟨calls, performs, prints, vars⟩ := exists_performs unlimited evaluated
  have same : s.test condition = (result.bind Value.truth, stopped) := by
    rw [test_eq, evaluated]
  cases tested.symm.trans same
  exact ⟨calls, ⟨result, performs, rfl⟩, prints, vars⟩

/-- Where the sink takes everything, a run that ends makes the calls of the program, has its fault
and its variables, and writes what the calls print. -/
def Reports (run : Session → Outcome Fault) (program : Program) : Prop :=
  ∀ ⦃s last : Session⦄ ⦃error : Option Fault⦄, s.sink.room = none → run s = .ending error last →
    ∃ calls, program.Performs s.vars calls error last.vars ∧ s.Prints calls last

variable {run next : Session → Outcome Fault} {program rest : Program}

/-- Doing nothing reports the empty program. -/
lemma reports_done : Reports (fun s => .done s) [] := by
  intro s last error _ ends
  obtain ⟨rfl, rfl⟩ := Outcome.eq_of_done_eq_ending ends
  exact ⟨[], .done _, prints_nil rfl⟩

/-- Two runs report their programs in a row. -/
lemma Reports.andThen (first : Reports run program) (second : Reports next rest) :
    Reports (fun s => (run s).andThen next) (program ++ rest) := by
  intro s last error unlimited ends
  dsimp only at ends
  cases ran : run s with
  | done middle =>
    rw [ran] at ends
    have through : run s = .ending none middle := ran
    obtain ⟨calls, performs, prints⟩ := first unlimited through
    obtain ⟨more, performs', prints'⟩ := second (prints.room_eq_none unlimited) ends
    exact ⟨calls ++ more, performs.append performs', prints.trans prints'⟩
  | failed fault stopped =>
    rw [ran] at ends
    obtain ⟨rfl, rfl⟩ := Outcome.eq_of_failed_eq_ending ends
    have failed : run s = .ending (some fault) last := ran
    obtain ⟨calls, performs, prints⟩ := first unlimited failed
    exact ⟨calls, performs.append_of_fault rest, prints⟩
  | outOfFuel =>
    rw [ran] at ends
    exact absurd ends.symm (Outcome.ending_ne error last)

/-- A statement whose condition has no answer ends there. -/
lemma exists_performs_of_refused {stmt : Stmt} {condition : Expr} {block : Program} {fault : Fault}
    (guarded : stmt.guard? = some (condition, block)) (unlimited : s.sink.room = none)
    (tested : s.test condition = (.error fault, last)) :
    ∃ calls, Program.Performs s.vars [stmt] calls (some fault) last.vars ∧
      s.Prints calls last := by
  obtain ⟨calls, tests, prints, vars⟩ := exists_tests unlimited tested
  refine ⟨calls, ?_, prints⟩
  rw [vars]
  exact .refused guarded tests

/-- A statement with a block reports its condition and then, if it holds, what it guards. -/
lemma reports_guard {stmt : Stmt} {condition : Expr} {block : Program}
    (guarded : stmt.guard? = some (condition, block)) (inside : Reports next block) :
    Reports (fun s => .ofResult (fun holds s => if holds then next s else .done s)
      (s.test condition)) [stmt] := by
  intro s last error unlimited ends
  dsimp only at ends
  rcases tested : s.test condition with ⟨fault | holds, middle⟩
  · rw [tested] at ends
    obtain ⟨rfl, rfl⟩ := Outcome.eq_of_failed_eq_ending ends
    exact exists_performs_of_refused guarded unlimited tested
  · obtain ⟨calls, tests, prints, vars⟩ := exists_tests unlimited tested
    rw [tested] at ends
    cases holds with
    | false =>
      obtain ⟨rfl, rfl⟩ := Outcome.eq_of_done_eq_ending ends
      refine ⟨calls ++ [], ?_, by rwa [List.append_nil]⟩
      rw [vars]
      exact .skipped guarded tests (.done s.vars)
    | true =>
      obtain ⟨more, performs, prints'⟩ := inside (prints.room_eq_none unlimited) ends
      refine ⟨calls ++ more, .entered guarded tests ?_, prints.trans prints'⟩
      rwa [List.append_nil, ← vars]

/-- A repetition reports the loop, if its body reports the body. -/
lemma reports_repeatWhile {condition : Expr} {body : Program} {fuel : Nat}
    (bodies : Reports (body.run fuel) body) (rounds : Nat) :
    Reports (repeatWhile condition (body.run fuel) rounds) [.whileDo condition body] := by
  induction rounds with
  | zero => exact fun s last error _ ends => absurd ends.symm (Outcome.ending_ne error last)
  | succ rounds ih =>
    rw [funext (repeatWhile_succ condition (body.run fuel) rounds)]
    exact reports_guard rfl (bodies.andThen ih)

/-- The test before the first round shows only if it fails: with an answer it writes nothing, and
the first round has the same answer. -/
lemma reports_whileDo {condition : Expr} {body : Program} {fuel : Nat}
    (bodies : Reports (body.run fuel) body) :
    Reports (fun s => .ofResult (fun _ s => repeatWhile condition (body.run fuel) fuel s)
      (s.test condition)) [.whileDo condition body] := by
  intro s last error unlimited ends
  dsimp only at ends
  rcases tested : s.test condition with ⟨fault | holds, middle⟩
  · rw [tested] at ends
    obtain ⟨rfl, rfl⟩ := Outcome.eq_of_failed_eq_ending ends
    exact exists_performs_of_refused rfl unlimited tested
  · rw [tested, (test_eq_ok_iff.1 tested).2] at ends
    exact reports_repeatWhile bodies fuel unlimited ends

/-- A statement that evaluates an expression and then does with its value what the rules say,
without output. -/
lemma reports_evaluate {stmt : Stmt} {e : Expr} {change : Value → Session → Session}
    {bind : Bindings → Value → Bindings}
    (changes : ∀ value s,
      (change value s).sink = s.sink ∧ (change value s).vars = bind s.vars value)
    (acts : ∀ {vars calls result}, e.Performs vars calls result →
      stmt.Acts vars calls (result.map (bind vars))) :
    Reports (fun s => .ofResult (fun value s => .done (change value s)) (s.evaluate e)) [stmt] := by
  intro s last error unlimited ends
  dsimp only at ends
  rcases evaluated : s.evaluate e with ⟨result, middle⟩
  obtain ⟨calls, performs, prints, vars⟩ := exists_performs unlimited evaluated
  rw [evaluated] at ends
  cases result with
  | error fault =>
    obtain ⟨rfl, rfl⟩ := Outcome.eq_of_failed_eq_ending ends
    refine ⟨calls, ?_, prints⟩
    rw [vars]
    exact .fails (acts performs)
  | ok value =>
    obtain ⟨rfl, rfl⟩ := Outcome.eq_of_done_eq_ending ends
    obtain ⟨sameSink, sameVars⟩ := changes value middle
    refine ⟨calls ++ [], .acts (acts performs) ?_, ?_⟩
    · rw [sameVars, vars]
      exact .done _
    · rw [List.append_nil]
      exact sameSink.trans prints

/-- The run of an assignment reports the assignment. -/
lemma reports_assign (target : Expr) (value : Option Expr) :
    Reports (fun s => s.assign target value) [.assign target value] := by
  have invalid : (∀ callee arguments, target ≠ .invoke callee arguments) →
      (∀ name, target ≠ .variable name) →
      Reports (fun s => .failed (.invalidTarget target) s) [.assign target value] := by
    intro noCall noName s last error _ ends
    obtain ⟨rfl, rfl⟩ := Outcome.eq_of_failed_eq_ending ends
    exact ⟨[], .fails (.noTarget noCall noName), prints_nil rfl⟩
  cases target with
  | invoke callee arguments =>
    exact reports_evaluate (fun _ _ => ⟨rfl, rfl⟩) fun performs => .callTarget performs
  | «variable» name =>
    cases value with
    | some e => exact reports_evaluate (fun _ _ => ⟨rfl, rfl⟩) fun performs => .assigned performs
    | none =>
      intro s last error _ ends
      obtain ⟨rfl, rfl⟩ := Outcome.eq_of_done_eq_ending ends
      exact ⟨[], .acts (.emptied name) (.done _), prints_nil rfl⟩
  | number | binary | unfinished | group | negate => exact invalid nofun nofun

end Session

open Session

mutual

/-- A statement reports its calls as a program of its own. -/
lemma Stmt.run_reports (fuel : Nat) : ∀ stmt : Stmt, Reports (stmt.run fuel) [stmt]
  | .expr e => by
    have same : (Stmt.expr e).run fuel =
        fun s => .ofResult (fun _ s => .done s) (s.evaluate e) := by
      funext s
      rw [Stmt.run, Stmt.exec]
    rw [same]
    exact reports_evaluate (fun _ _ => ⟨rfl, rfl⟩) fun performs => .effect performs
  | .assign target value => by
    have same : (Stmt.assign target value).run fuel = fun s => s.assign target value := by
      funext s
      rw [Stmt.run, Stmt.exec]
    rw [same]
    exact reports_assign target value
  | .ifThen condition body => by
    have same : (Stmt.ifThen condition body).run fuel = _ :=
      funext (Stmt.exec_ifThen (fun _ s => s) fuel condition body)
    rw [same]
    exact reports_guard rfl (Program.run_reports fuel body)
  | .whileDo condition body => by
    have same : (Stmt.whileDo condition body).run fuel = _ :=
      funext (Stmt.exec_whileDo (fun _ s => s) fuel condition body)
    rw [same]
    exact reports_whileDo (Program.run_reports fuel body)

/-- A program reports its calls. -/
lemma Program.run_reports (fuel : Nat) : ∀ program : List Stmt,
    Reports (Program.run fuel program) program
  | [] => by
    have same : Program.run fuel [] = fun s => .done s := by
      funext s
      rw [Program.run, Stmt.execAll]
    rw [same]
    exact reports_done
  | stmt :: rest => by
    have same : Program.run fuel (stmt :: rest) = _ :=
      funext (Stmt.execAll_cons (fun _ s => s) fuel stmt rest)
    rw [same]
    exact (Stmt.run_reports fuel stmt).andThen (Program.run_reports fuel rest)

end

/-! ## Steps -/

/-- What can be run in a session. -/
inductive Step where
  /-- A source text. -/
  | source (text : String)
  /-- Statements one after the other. -/
  | statements (program : Program)
  /-- One statement. -/
  | statement (stmt : Stmt)
  /-- An expression, for its value. -/
  | expression (e : Expr)

namespace Step

variable {step : Step} {fuel : Nat} {s last : Session} {vars after : Bindings} {calls : List Call}
  {error : Option Error}

/-- Runs a step. -/
def run (fuel : Nat) : Step → Session → Outcome Error
  | .source text, s => s.run fuel text
  | .statements program, s => (program.run fuel s).mapCause .fault
  | .statement stmt, s => (stmt.run fuel s).mapCause .fault
  | .expression e, s => (Outcome.ofResult (fun _ s => .done s) (s.evaluate e)).mapCause .fault

/-- The program that a step amounts to, unless it is a text that is none. -/
def program? : Step → Except Error Program
  | .source text => Program.ofSource text
  | .statements program => .ok program
  | .statement stmt => .ok [stmt]
  | .expression e => .ok [.expr e]

/-- Taking the step makes the calls, ends with the error, if there is one, and leaves the variables
behind. A text that is no program makes no call. -/
inductive Performs (vars : Bindings) (step : Step) :
    List Call → Option Error → Bindings → Prop where
  | unread {e : Error} (read : step.program? = .error e) : Performs vars step [] (some e) vars
  | read {program : Program} {calls : List Call} {fault : Option Fault} {last : Bindings}
      (read : step.program? = .ok program) (performs : program.Performs vars calls fault last) :
      Performs vars step calls (fault.map .fault) last

/-- The rules lead from a step to one list of calls, one error and one table. -/
lemma Performs.unique {calls' : List Call} {error' : Option Error} {after' : Bindings}
    (first : step.Performs vars calls error after)
    (second : step.Performs vars calls' error' after') :
    calls = calls' ∧ error = error' ∧ after = after' := by
  cases first with
  | unread unreadable =>
    cases second with
    | unread unreadable' =>
      cases unreadable.symm.trans unreadable'
      exact ⟨rfl, rfl, rfl⟩
    | read readable => cases unreadable.symm.trans readable
  | read readable performs =>
    cases second with
    | unread unreadable => cases unreadable.symm.trans readable
    | read readable' performs' =>
      cases readable.symm.trans readable'
      obtain ⟨rfl, rfl, rfl⟩ := performs.unique performs'
      exact ⟨rfl, rfl, rfl⟩

/-- A step that is no program fails with its error, and nothing changes. -/
lemma run_of_unread {e : Error} (unreadable : step.program? = .error e) :
    step.run fuel s = .failed e s := by
  cases step with
  | source text => exact run_of_refused unreadable fuel s
  | statements | statement | expression => cases unreadable

/-- A step that is a program runs that program. -/
lemma run_of_read {program : Program} (readable : step.program? = .ok program) :
    step.run fuel s = (program.run fuel s).mapCause .fault := by
  have single : ∀ stmt : Stmt, Program.run fuel [stmt] s = stmt.run fuel s := by
    intro stmt
    rw [Program.run, Stmt.execAll_cons, Stmt.run]
    cases stmt.exec (fun _ s => s) fuel s with
    | done s => rw [Outcome.andThen, Stmt.execAll]
    | failed | outOfFuel => rfl
  cases step with
  | source text =>
    have accepted : Program.ofSource text = .ok program := readable
    simp only [run, Session.run, runBy, accepted]
  | statements program =>
    cases readable
    rfl
  | statement stmt =>
    cases readable
    rw [single]
    rfl
  | expression e =>
    cases readable
    rw [single, Stmt.run, Stmt.exec]
    rfl

/-- The run of a step prints the calls that the rules give. -/
lemma exists_performs_of_run (unlimited : s.sink.room = none)
    (ran : step.run fuel s = .ending error last) :
    ∃ calls, step.Performs s.vars calls error last.vars ∧ s.Prints calls last := by
  cases read : step.program? with
  | error e =>
    rw [run_of_unread read] at ran
    obtain ⟨rfl, rfl⟩ := Outcome.eq_of_failed_eq_ending ran
    exact ⟨[], .unread read, prints_nil rfl⟩
  | ok program =>
    rw [run_of_read read] at ran
    obtain ⟨fault, ended, rfl⟩ := Outcome.exists_ending_of_mapCause ran
    obtain ⟨calls, performs, prints⟩ := Program.run_reports fuel program unlimited ended
    exact ⟨calls, .read read performs, prints⟩

end Step

/-! ## Transcripts -/

/-- What became of a step. -/
structure Entry where
  /-- The step. -/
  step : Step
  /-- The bytes that it wrote. -/
  output : List UInt8
  /-- Why it did not run to its end, if it did not. -/
  error : Option Error

/-- The outputs one after the other. -/
def Entry.outputs (entries : List Entry) : List UInt8 :=
  entries.flatMap Entry.output

/-- The steps are taken one after the other, also after one that fails, with what became of each of
them. What stands behind the bytes that were written before a step is its output. -/
inductive Session.Logs : Session → List Entry → Session → Prop where
  | closed (s : Session) : Logs s [] s
  | entry {s middle last : Session} {entry : Entry} {entries : List Entry} (fuel : Nat)
      (ran : entry.step.run fuel s = .ending entry.error middle)
      (wrote : entry.output = middle.sink.written.toList.drop s.sink.written.size)
      (more : Logs middle entries last) : Logs s (entry :: entries) last

/-- The calls that the steps make, a list for each of them, with the variables at the start and at
the end. -/
inductive Transcript : Bindings → List Entry → List (List Call) → Bindings → Prop where
  | closed (vars : Bindings) : Transcript vars [] [] vars
  | entry {vars middle last : Bindings} {entry : Entry} {entries : List Entry} {calls : List Call}
      {others : List (List Call)} (performs : entry.step.Performs vars calls entry.error middle)
      (more : Transcript middle entries others last) :
      Transcript vars (entry :: entries) (calls :: others) last

/-- The entries have one transcript only. -/
lemma Transcript.unique {vars last last' : Bindings} {entries : List Entry}
    {calls calls' : List (List Call)} (first : Transcript vars entries calls last)
    (second : Transcript vars entries calls' last') : calls = calls' ∧ last = last' := by
  induction first generalizing calls' last' with
  | closed vars =>
    cases second
    exact ⟨rfl, rfl⟩
  | entry performs more ih =>
    cases second with
    | entry performs' more' =>
      obtain ⟨rfl, -, rfl⟩ := performs.unique performs'
      obtain ⟨rfl, rfl⟩ := ih more'
      exact ⟨rfl, rfl⟩

/-- The bytes are what the calls print: their lines are those of the printed values, and no value
makes more than one line. -/
structure Call.Shown (calls : List Call) (bytes : List UInt8) : Prop where
  bytes_eq : bytes = Text.encode (Call.output calls)
  lines_eq : Text.lines bytes = (calls.flatMap Call.lines).map Text.encode
  unbroken : ∀ call ∈ calls, ∀ value ∈ call.arguments, '\n' ∉ value.text.toList

/-- The output of calls shows them, a line for each value. -/
lemma Call.shown (calls : List Call) : Call.Shown calls (Text.encode (Call.output calls)) :=
  ⟨rfl, lines_output calls, fun _ _ value _ => value.newline_not_mem_text⟩

/-- The bytes that are written are those that the calls print. -/
lemma Session.Prints.written_eq {s last : Session} {calls : List Call}
    (prints : s.Prints calls last) :
    last.sink.written.toList = s.sink.written.toList ++ Text.encode (Call.output calls) := by
  rw [prints, Sink.after, Text.encode, Array.toList_append]

/-- Steps taken where the sink takes everything have a transcript, and they write what its calls
print behind what was there. -/
lemma Session.Logs.exists_transcript {s last : Session} {entries : List Entry}
    (logs : s.Logs entries last) (unlimited : s.sink.room = none) :
    ∃ calls, Transcript s.vars entries calls last.vars ∧
      List.Forall₂ (fun entry calls => entry.output = Text.encode (Call.output calls))
        entries calls ∧
      last.sink.written.toList = s.sink.written.toList ++ Entry.outputs entries := by
  induction logs with
  | closed s => exact ⟨[], .closed _, .nil, (List.append_nil _).symm⟩
  | entry fuel ran wrote more ih =>
    obtain ⟨calls, performs, prints⟩ := Step.exists_performs_of_run unlimited ran
    obtain ⟨others, transcript, outputs, written⟩ := ih (prints.room_eq_none unlimited)
    rw [prints.written_eq, ← Array.length_toList, List.drop_left] at wrote
    refine ⟨calls :: others, .entry performs transcript, .cons wrote outputs, ?_⟩
    rw [written, prints.written_eq, ← wrote, List.append_assoc]
    rfl

/-- The outputs of all steps are what their calls print one after the other. -/
lemma Entry.outputs_eq {entries : List Entry} {calls : List (List Call)}
    (outputs : List.Forall₂ (fun entry calls => entry.output = Text.encode (Call.output calls))
      entries calls) :
    Entry.outputs entries = Text.encode (Call.output calls.flatten) := by
  induction outputs with
  | nil => rfl
  | cons head tail ih =>
    rw [Entry.outputs, List.flatMap_cons, head, List.flatten_cons, Call.output_append,
      Text.encode_append, ← ih]
    rfl

/-- The output of a session is what its calls print, line by line. Let steps be taken in a session
whose sink takes everything, one after the other and also after failures. There is one transcript of
the calls that they make, by rules in which no output occurs: what the callee and the arguments of a
call make comes before the call, and a call that fails itself is none. The output of each step is
what its calls print, and it has a line for each printed value. The output of the session is what
the steps have written, and that is what all calls print. -/
theorem Session.output_is_printed_lines (s last : Session) (entries : List Entry)
    (unlimited : s.sink.room = none) (logs : s.Logs entries last) :
    ∃ calls : List (List Call),
      (∀ calls' vars, Transcript s.vars entries calls' vars ↔ calls' = calls ∧ vars = last.vars) ∧
      List.Forall₂ (fun entry calls => Call.Shown calls entry.output) entries calls ∧
      last.sink.written.toList = s.sink.written.toList ++ Entry.outputs entries ∧
      Call.Shown calls.flatten (Entry.outputs entries) := by
  obtain ⟨calls, transcript, outputs, written⟩ := logs.exists_transcript unlimited
  refine ⟨calls, fun calls' vars => ⟨fun other => other.unique transcript, ?_⟩, ?_, written, ?_⟩
  · rintro ⟨rfl, rfl⟩
    exact transcript
  · refine outputs.imp fun entry calls same => ?_
    rw [same]
    exact Call.shown calls
  · rw [Entry.outputs_eq outputs]
    exact Call.shown calls.flatten

/-- A call inside a call prints before it, and a call with an argument that fails prints nothing of
its own. A text that is no program prints nothing, and the session goes on. -/
theorem Session.output_is_printed_lines_of_nested_calls :
    ∃ (entries : List Entry) (last : Session) (calls : List (List Call)),
      entries.map Entry.step =
        [.source "print(print(true,),false,);",
          .expression (.call (.variable "print")
            [.call (.variable "print") [.variable "true"], .variable "x"]),
          .source "if",
          .statement (.ifThen (.variable "true") [.expr (.variable "print")])] ∧
      (Session.fresh 0 .unlimited).Logs entries last ∧
      Transcript (Session.fresh 0 .unlimited).vars entries calls last.vars ∧
      (calls.flatten.flatMap Call.lines).map Text.encode =
        ["True\n", "nil\n", "False\n", "True\n"].map Text.encode := by
  let writing (text : String) : Session :=
    { Session.fresh 0 .unlimited with
      sink := { Sink.unlimited with written := text.toUTF8.data } }
  have logs : (Session.fresh 0 .unlimited).Logs
      [⟨.source "print(print(true,),false,);", Text.encode "True\nnil\nFalse\n", none⟩,
        ⟨.expression (.call (.variable "print")
            [.call (.variable "print") [.variable "true"], .variable "x"]),
          Text.encode "True\n", some (.fault (.undefinedVariable "x"))⟩,
        ⟨.source "if", [], some (.parse (.expectedSymbol "(" .endOfInput))⟩,
        ⟨.statement (.ifThen (.variable "true") [.expr (.variable "print")]), [], none⟩]
      (writing "True\nnil\nFalse\nTrue\n") := by
    refine @Logs.entry _ (writing "True\nnil\nFalse\n") _ _ _ 0 rfl rfl ?_
    refine @Logs.entry _ (writing "True\nnil\nFalse\nTrue\n") _ _ _ 0 rfl rfl ?_
    exact .entry 0 rfl rfl (.entry 0 rfl rfl (.closed _))
  obtain ⟨calls, transcripts, -, -, shown⟩ :=
    Session.output_is_printed_lines _ _ _ rfl logs
  refine ⟨_, _, calls, rfl, logs, (transcripts _ _).2 ⟨rfl, rfl⟩, ?_⟩
  rw [← shown.lines_eq]
  rfl

end Scriptlet
