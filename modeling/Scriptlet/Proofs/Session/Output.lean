import Mathlib.Tactic.Common
import Scriptlet.Proofs.Session.Fuel

/-!
# Output in one piece

What a computation writes does not depend on the sink; the sink only decides how much of it gets
through. Every computation amounts to one write and a result in which the sink has no part
(`Writing.Tells`), and so does every run of statements (`Session.Tells`): if the sink takes all the
bytes the run is the same whatever the sink, and if it refuses one the run ends there. From this
follows what a limited sink makes of a run.
-/

namespace Scriptlet

namespace Sink

variable {sink : Sink} {bytes : Array UInt8} {room : Nat}

/-- A sink without a limit takes all bytes. -/
lemma writeBytes_of_unlimited (unlimited : sink.room = none) (bytes : Array UInt8) :
    sink.writeBytes bytes = (.ok (), { sink with written := sink.written ++ bytes }) := by
  simp only [writeBytes, unlimited]

/-- A sink with enough room takes all bytes and has that much less room. -/
lemma writeBytes_of_fits (limited : sink.room = some room) (fits : bytes.size ≤ room) :
    sink.writeBytes bytes =
      (.ok (), { sink with
        written := sink.written ++ bytes
        room := some (room - bytes.size) }) := by
  simp only [writeBytes, limited, if_pos fits]

/-- A sink with too little room takes the first bytes, as many as there is room for, and refuses the
rest. -/
lemma writeBytes_of_short (limited : sink.room = some room) (short : room < bytes.size) :
    sink.writeBytes bytes =
      (.error sink.refusal, { sink with
        written := sink.written ++ bytes.take room
        room := some 0 }) := by
  simp only [writeBytes, limited, if_neg (Nat.not_le.2 short)]

/-- Bytes can be written in two parts. -/
lemma writeBytes_append (sink : Sink) (first second : Array UInt8) :
    sink.writeBytes (first ++ second) =
      match sink.writeBytes first with
      | (.ok (), taken) => taken.writeBytes second
      | (.error reason, full) => (.error reason, full) := by
  obtain ⟨written, _ | room, refusal⟩ := sink
  · simp [writeBytes]
  · by_cases fits : first.size ≤ room
    · by_cases both : first.size + second.size ≤ room
      · have rest : second.size ≤ room - first.size := by omega
        simp [writeBytes, fits, both, rest, Nat.sub_sub]
      · have rest : ¬ second.size ≤ room - first.size := by omega
        have whole : first.extract 0 room = first := Array.extract_eq_self_of_le fits
        simp [writeBytes, fits, both, rest, whole]
    · have both : ¬ first.size + second.size ≤ room := by omega
      have nothing : room - first.size = 0 := by omega
      simp [writeBytes, fits, both, nothing]

end Sink

namespace Writing

variable {α β : Type}

/-- Writes the bytes and has the result, unless the bytes are refused. -/
def telling (bytes : Array UInt8) (result : Except Fault α) : Writing α := fun sink =>
  match sink.writeBytes bytes with
  | (.ok (), taken) => (result, taken)
  | (.error reason, full) => (.error (.output reason), full)

/-- The computation is one write with a result that does not depend on the sink. -/
def Tells (action : Writing α) : Prop :=
  ∃ bytes result, action = telling bytes result

/-- A result that is there already is a write of no bytes. -/
lemma tells_ofResult (result : Except Fault α) : Tells (ofResult result) := by
  refine ⟨#[], result, funext fun sink => ?_⟩
  obtain ⟨written, _ | room, refusal⟩ := sink <;> simp [ofResult, telling, Sink.writeBytes]

/-- A value by itself is a write of no bytes. -/
lemma tells_pure (value : α) : Tells (pure value : Writing α) :=
  tells_ofResult (.ok value)

/-- A line is one write. -/
lemma tells_line (text : String) : Tells (line text) :=
  ⟨(text ++ "\n").toUTF8.data, .ok (), funext fun _ => rfl⟩

/-- Two writes in a row are one, since a refusal of the first part ends both. -/
lemma Tells.bind {action : Writing α} {next : α → Writing β} (first : Tells action)
    (second : ∀ value, Tells (next value)) : Tells (action >>= next) := by
  obtain ⟨bytes, result, rfl⟩ := first
  cases result with
  | error fault =>
    refine ⟨bytes, .error fault, funext fun sink => ?_⟩
    rw [bind_apply, telling, telling]
    rcases sink.writeBytes bytes with ⟨_ | _, _⟩ <;> rfl
  | ok value =>
    obtain ⟨more, result, told⟩ := second value
    refine ⟨bytes ++ more, result, funext fun sink => ?_⟩
    rw [bind_apply, telling, telling, Sink.writeBytes_append]
    rcases sink.writeBytes bytes with ⟨_ | _, _⟩
    · rfl
    · simp only [told]
      rfl

/-- Several lines are one write. -/
lemma tells_lines (texts : List String) : Tells (lines texts) := by
  induction texts with
  | nil => exact tells_pure ()
  | cons text rest ih =>
    rw [lines]
    exact (tells_line text).bind fun _ => ih

end Writing

open Writing

/-- A call of a function is one write. -/
lemma Builtin.run_tells (f : Builtin) (values : List Value) : (f.run values).Tells := by
  obtain ⟨origin⟩ := f
  rw [Builtin.run]
  exact (tells_lines _).bind fun _ => tells_pure _

mutual

/-- The evaluation of an expression is one write. -/
lemma Expr.eval_tells (vars : Bindings) : ∀ e : Expr, (e.eval vars).Tells
  | .number x => by
    rw [Expr.eval]
    exact tells_pure _
  | .variable name => by
    rw [Expr.eval]
    exact tells_ofResult _
  | .binary symbol left right => by
    rw [Expr.eval]
    apply (Expr.eval_tells vars left).bind
    intro a
    apply (Expr.eval_tells vars right).bind
    intro b
    exact tells_ofResult _
  | .unfinished symbol left => by
    rw [Expr.eval]
    exact tells_pure _
  | .group inner => by
    rw [Expr.eval]
    exact Expr.eval_tells vars inner
  | .invoke callee arguments => by
    rw [Expr.eval]
    apply (Expr.eval_tells vars callee).bind
    intro value
    apply (tells_ofResult _).bind
    intro f
    apply (Expr.evalArguments_tells vars arguments).bind
    exact f.run_tells
  | .negate inner => by
    rw [Expr.eval]
    exact (Expr.eval_tells vars inner).bind fun _ => tells_ofResult _

/-- The evaluation of the arguments of a call is one write. -/
lemma Expr.evalArguments_tells (vars : Bindings) :
    ∀ arguments : Option (List Expr), (Expr.evalArguments vars arguments).Tells
  | none => by
    rw [Expr.evalArguments]
    exact tells_pure _
  | some list => by
    rw [Expr.evalArguments]
    exact Expr.evalAll_tells vars list

/-- The evaluation of expressions from left to right is one write. -/
lemma Expr.evalAll_tells (vars : Bindings) : ∀ list : List Expr, (Expr.evalAll vars list).Tells
  | [] => by
    rw [Expr.evalAll]
    exact tells_pure _
  | e :: more => by
    rw [Expr.evalAll]
    apply (Expr.eval_tells vars e).bind
    intro value
    exact (Expr.evalAll_tells vars more).bind fun _ => tells_pure _

end

/-- The test of a condition is one write. -/
lemma Expr.holds_tells (vars : Bindings) (condition : Expr) : (condition.holds vars).Tells := by
  rw [Expr.holds]
  exact (condition.eval_tells vars).bind fun _ => tells_ofResult _

/-! ## Runs -/

/-- The outcome leaves the session behind, be it through or failed. -/
def Outcome.Leaves {ε : Type} (outcome : Outcome ε) (last : Session) : Prop :=
  outcome = .done last ∨ ∃ cause, outcome = .failed cause last

/-- The same outcome with another sink. -/
def Outcome.withSink {ε : Type} (sink : Sink) : Outcome ε → Outcome ε
  | .done s => .done { s with sink }
  | .failed cause s => .failed cause { s with sink }
  | .outOfFuel => .outOfFuel

/-- The last sink that an outcome is given counts. -/
lemma Outcome.withSink_withSink {ε : Type} (first second : Sink) (outcome : Outcome ε) :
    (outcome.withSink first).withSink second = outcome.withSink second := by
  cases outcome <;> rfl

/-- An outcome with another sink leaves that sink behind. -/
lemma Outcome.Leaves.sink_eq {ε : Type} {sink : Sink} {outcome : Outcome ε} {last : Session}
    (leaves : (outcome.withSink sink).Leaves last) : last.sink = sink := by
  rcases leaves with done | ⟨cause, failed⟩
  · cases outcome with
    | done s =>
      cases done
      rfl
    | failed | outOfFuel => cases done
  · cases outcome with
    | failed cause s =>
      cases failed
      rfl
    | done | outOfFuel => cases failed

namespace Session

/-- From the variables and the journal of `s`, the run writes the bytes and has the outcome,
whatever the sink, unless the sink refuses one of the bytes: then the run ends there. -/
structure Told (run : Session → Outcome Fault) (s : Session) (bytes : Array UInt8)
    (outcome : Outcome Fault) : Prop where
  through : ∀ {sink taken : Sink}, sink.writeBytes bytes = (.ok (), taken) →
    run { s with sink } = outcome.withSink taken
  cut : ∀ {sink full : Sink} {reason : String}, sink.writeBytes bytes = (.error reason, full) →
    ∃ last : Session, last.sink = full ∧ run { s with sink } = .failed (.output reason) last

/-- The run writes in one piece from every session. -/
def Tells (run : Session → Outcome Fault) : Prop :=
  ∀ s, ∃ bytes outcome, Told run s bytes outcome

/-- A run that leaves the sink alone writes nothing. -/
lemma tells_of_silent {run : Session → Outcome Fault}
    (silent : ∀ s sink, run { s with sink } = (run s).withSink sink) : Tells run := by
  intro s
  refine ⟨#[], run s, ?_, ?_⟩
  · intro sink taken wrote
    obtain rfl : sink = taken := by
      obtain ⟨written, _ | room, refusal⟩ := sink <;> simpa [Sink.writeBytes] using wrote
    exact silent s sink
  · intro sink full reason refused
    obtain ⟨written, _ | room, refusal⟩ := sink <;> simp [Sink.writeBytes] at refused

/-- Doing nothing writes nothing. -/
lemma tells_done : Tells fun s => .done s :=
  tells_of_silent fun _ _ => rfl

/-- A definition writes nothing. -/
lemma tells_define (name : String) (value : Value) : Tells fun s => .done (s.define name value) :=
  tells_of_silent fun _ _ => rfl

variable {run next : Session → Outcome Fault} {s : Session}

/-- A run that writes some bytes and then goes on as another one writes the bytes of both. -/
lemma Told.after {middle : Session} {bytes more : Array UInt8} {outcome : Outcome Fault}
    (told : Told next middle more outcome)
    (goes : ∀ {sink taken : Sink}, sink.writeBytes bytes = (.ok (), taken) →
      run { s with sink } = next { middle with sink := taken })
    (stops : ∀ {sink full : Sink} {reason : String},
      sink.writeBytes bytes = (.error reason, full) →
      ∃ last : Session, last.sink = full ∧ run { s with sink } = .failed (.output reason) last) :
    Told run s (bytes ++ more) outcome := by
  constructor
  · intro sink taken wrote
    rw [Sink.writeBytes_append] at wrote
    rcases first : sink.writeBytes bytes with ⟨reason | _, between⟩
    · rw [first] at wrote
      cases wrote
    · rw [first] at wrote
      rw [goes first]
      exact told.through wrote
  · intro sink full reason refused
    rw [Sink.writeBytes_append] at refused
    rcases first : sink.writeBytes bytes with ⟨reason' | _, between⟩
    · rw [first] at refused
      cases refused
      exact stops first
    · rw [first] at refused
      rw [goes first]
      exact told.cut refused

/-- Two runs that write in one piece do so in a row. -/
lemma Tells.andThen (head : Tells run) (tail : Tells next) :
    Tells fun s => (run s).andThen next := by
  intro s
  obtain ⟨bytes, outcome, told⟩ := head s
  have stops : ∀ {sink full : Sink} {reason : String},
      sink.writeBytes bytes = (.error reason, full) → ∃ last : Session, last.sink = full ∧
        (run { s with sink }).andThen next = .failed (.output reason) last := by
    intro sink full reason refused
    obtain ⟨last, same, failed⟩ := told.cut refused
    exact ⟨last, same, by rw [failed]; rfl⟩
  cases outcome with
  | done middle =>
    obtain ⟨more, last, told'⟩ := tail middle
    refine ⟨bytes ++ more, last, told'.after (fun wrote => ?_) stops⟩
    rw [told.through wrote]
    rfl
  | failed fault last =>
    refine ⟨bytes, .failed fault last, fun wrote => ?_, stops⟩
    rw [told.through wrote]
    rfl
  | outOfFuel =>
    refine ⟨bytes, .outOfFuel, fun wrote => ?_, stops⟩
    rw [told.through wrote]
    rfl

/-- A computation and what follows from its result write in one piece. -/
lemma tells_perform {α : Type} {action : Bindings → Writing α} {step : α → Session → Outcome Fault}
    (acts : ∀ vars, (action vars).Tells) (steps : ∀ value, Tells (step value)) :
    Tells fun s => .ofResult step (s.perform action) := by
  intro s
  obtain ⟨bytes, result, same⟩ := acts s.vars
  have stops : ∀ {sink full : Sink} {reason : String},
      sink.writeBytes bytes = (.error reason, full) → ∃ last : Session, last.sink = full ∧
        Outcome.ofResult step (perform { s with sink } action) =
          .failed (.output reason) last := by
    intro sink full reason refused
    refine ⟨{ s with sink := full }, rfl, ?_⟩
    simp only [perform, same, telling, refused]
    rfl
  cases result with
  | error fault =>
    refine ⟨bytes, .failed fault s, fun wrote => ?_, stops⟩
    simp only [perform, same, telling, wrote]
    rfl
  | ok value =>
    obtain ⟨more, outcome, told⟩ := steps value s
    refine ⟨bytes ++ more, outcome, told.after (fun wrote => ?_) stops⟩
    simp only [perform, same, telling, wrote]
    rfl

/-- An assignment writes in one piece. -/
lemma tells_assign (target : Expr) (value : Option Expr) :
    Tells fun s => s.assign target value := by
  cases target with
  | invoke callee arguments =>
    exact tells_perform (Expr.eval_tells · (.invoke callee arguments)) fun _ => tells_done
  | «variable» name =>
    cases value with
    | none => exact tells_define name .null
    | some e => exact tells_perform (Expr.eval_tells · e) (tells_define name)
  | _ => exact tells_of_silent fun _ _ => rfl

/-- The repetition writes in one piece, if its body does. -/
lemma tells_repeatWhile {condition : Expr} {body : Session → Outcome Fault} (bodies : Tells body)
    (fuel : Nat) : Tells (repeatWhile condition body fuel) := by
  induction fuel with
  | zero => exact tells_of_silent fun _ _ => rfl
  | succ fuel ih =>
    rw [funext (repeatWhile_succ condition body fuel)]
    apply tells_perform (Expr.holds_tells · condition)
    intro holds
    cases holds with
    | false => exact tells_done
    | true => exact bodies.andThen ih

/-- A run that is the same from every session writes the same. -/
lemma Tells.of_eq (tells : Tells run) (same : ∀ s, next s = run s) : Tells next :=
  funext same ▸ tells

end Session

open Session

mutual

/-- A statement writes in one piece. -/
lemma Stmt.exec_tells (fuel : Nat) : ∀ stmt : Stmt, Tells (stmt.exec (fun _ s => s) fuel)
  | .expr e => by
    have evaluated := tells_perform (Expr.eval_tells · e) fun _ => tells_done
    apply evaluated.of_eq
    intro s
    rw [Stmt.exec]
    rfl
  | .assign target value => by
    apply (tells_assign target value).of_eq
    intro s
    rw [Stmt.exec]
  | .ifThen condition body => by
    refine (tells_perform (Expr.holds_tells · condition) fun holds => ?_).of_eq
      (Stmt.exec_ifThen (fun _ s => s) fuel condition body)
    cases holds with
    | false => exact tells_done
    | true => exact Stmt.execAll_tells fuel body
  | .whileDo condition body => by
    refine (tells_perform (Expr.holds_tells · condition) fun _ => ?_).of_eq
      (Stmt.exec_whileDo (fun _ s => s) fuel condition body)
    exact tells_repeatWhile (Stmt.execAll_tells fuel body) fuel

/-- Statements in a row write in one piece. -/
lemma Stmt.execAll_tells (fuel : Nat) :
    ∀ stmts : List Stmt, Tells (Stmt.execAll (fun _ s => s) fuel stmts)
  | [] => by
    apply tells_done.of_eq
    intro s
    rw [Stmt.execAll]
  | stmt :: more => by
    apply ((Stmt.exec_tells fuel stmt).andThen (Stmt.execAll_tells fuel more)).of_eq
    exact Stmt.execAll_cons (fun _ s => s) fuel stmt more

end

/-- A limited sink cuts a run off and changes nothing else. If the run ends while everything is
taken, having written some bytes, then with room for all of them it has the same outcome and writes
the same; with less room it ends because its output is refused, and as many bytes are written as
fit. -/
theorem Program.run_limited (program : Program) (fuel : Nat) (s last : Session)
    (unlimited : s.sink.room = none) (ends : (program.run fuel s).Leaves last) :
    ∃ bytes, last.sink.written = s.sink.written ++ bytes ∧
      ∀ (limited : Sink) (room : Nat), limited.room = some room →
        (bytes.size ≤ room →
          program.run fuel { s with sink := limited } =
            (program.run fuel s).withSink
              { limited with
                written := limited.written ++ bytes
                room := some (room - bytes.size) }) ∧
        (room < bytes.size →
          ∃ stopped : Session,
            program.run fuel { s with sink := limited } =
              .failed (.output limited.refusal) stopped ∧
            stopped.sink.written = limited.written ++ bytes.take room) := by
  -- both runs are one write with the same bytes
  obtain ⟨bytes, outcome, told⟩ := Stmt.execAll_tells fuel program s
  have whole : program.run fuel s = _ := told.through (Sink.writeBytes_of_unlimited unlimited bytes)
  rw [whole] at ends
  refine ⟨bytes, ?_, ?_⟩
  · rw [ends.sink_eq]
  · intro limited room isLimited
    constructor
    · intro fits
      rw [whole, Outcome.withSink_withSink]
      exact told.through (Sink.writeBytes_of_fits isLimited fits)
    · intro short
      obtain ⟨stopped, full, failed⟩ := told.cut (Sink.writeBytes_of_short isLimited short)
      exact ⟨stopped, failed, by rw [full]⟩

/-- Seven bytes take the first line and two letters of the second. -/
theorem Program.run_limited_within_line :
    ∃ last stopped : Session,
      (Program.run 0 [.expr (.call (.variable "print") [.variable "true", .variable "false"])]
        (Session.fresh 0 .unlimited)).Leaves last ∧
      last.sink.written = "True\nFalse\n".toUTF8.data ∧
      Program.run 0 [.expr (.call (.variable "print") [.variable "true", .variable "false"])]
        (Session.fresh 0 (.limited 7 "sink full")) = .failed (.output "sink full") stopped ∧
      stopped.sink.written = "True\nFa".toUTF8.data := by
  have leaves : (Program.run 0
      [.expr (.call (.variable "print") [.variable "true", .variable "false"])]
      (Session.fresh 0 .unlimited)).Leaves _ := .inl rfl
  obtain ⟨bytes, written, limits⟩ := Program.run_limited _ 0 _ _ rfl leaves
  obtain rfl : "True\nFalse\n".toUTF8.data = bytes := written.trans (Array.empty_append)
  obtain ⟨stopped, failed, kept⟩ := (limits (.limited 7 "sink full") 7 rfl).2 (by decide)
  exact ⟨_, stopped, leaves, written, failed, kept⟩

end Scriptlet
