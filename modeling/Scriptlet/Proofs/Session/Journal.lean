import Mathlib.Tactic.Common
import Scriptlet.Proofs.Session.Fuel

/-!
# The journal changes nothing

A run that is noted in the journal and one that is not differ in the journal alone: they are
through, fail or use up their fuel together, with the same variables, the same output and the same
fault.
-/

namespace Scriptlet

/-- The session without its journal. -/
def Session.unnoted (s : Session) : Session :=
  { s with journal := [] }

/-- The outcome without the journal. -/
def Outcome.unnoted {ε : Type} : Outcome ε → Outcome ε
  | .done s => .done s.unnoted
  | .failed cause s => .failed cause s.unnoted
  | .outOfFuel => .outOfFuel

/-- The two runs differ in the journal alone, whatever journals they start with. -/
def Session.Alike {ε : Type} (first second : Session → Outcome ε) : Prop :=
  ∀ s s' : Session, s.unnoted = s'.unnoted → (first s).unnoted = (second s').unnoted

namespace Session.Alike

variable {ε : Type}

/-- Doing nothing leaves the journal as it is. -/
lemma done : Alike (fun s => (.done s : Outcome ε)) fun s => .done s := by
  intro s s' same
  exact congrArg Outcome.done same

/-- Runs that differ in the journal alone do so in a row. -/
lemma andThen {first first' next next' : Session → Outcome ε} (head : Alike first first')
    (tail : Alike next next') :
    Alike (fun s => (first s).andThen next) fun s => (first' s).andThen next' := by
  intro s s' same
  have heads := head s s' same
  dsimp only
  generalize first s = outcome at heads ⊢
  generalize first' s' = outcome' at heads ⊢
  -- the two parts have the same form, since what is left of them without the journal is equal
  cases outcome <;> cases outcome' <;> simp only [Outcome.unnoted, reduceCtorEq] at heads
  case done.done middle middle' => exact tail middle middle' (Outcome.done.inj heads)
  case failed.failed => exact heads
  case outOfFuel.outOfFuel => rfl

/-- A computation over the bindings and the output does not see the journal. -/
lemma perform {α : Type} {action : Bindings → Writing α} {step step' : α → Session → Outcome Fault}
    (steps : ∀ value, Alike (step value) (step' value)) :
    Alike (fun s => .ofResult step (s.perform action))
      fun s => .ofResult step' (s.perform action) := by
  rintro ⟨vars, sink, journal⟩ ⟨vars', sink', journal'⟩ same
  obtain ⟨rfl, rfl, -⟩ : vars = vars' ∧ sink = sink' ∧ ([] : List Stmt) = [] := by
    simpa [Session.unnoted] using same
  simp only [Session.perform]
  rcases action vars sink with ⟨fault | value, sink⟩
  · rfl
  · exact steps value _ _ rfl

/-- A definition does not look at the journal. -/
lemma define (name : String) (value : Value) :
    Alike (fun s => (.done (s.define name value) : Outcome ε))
      fun s => .done (s.define name value) := by
  rintro ⟨vars, sink, journal⟩ ⟨vars', sink', journal'⟩ same
  obtain ⟨rfl, rfl, -⟩ : vars = vars' ∧ sink = sink' ∧ ([] : List Stmt) = [] := by
    simpa [Session.unnoted] using same
  rfl

/-- An assignment does not look at the journal. -/
lemma assign (target : Expr) (value : Option Expr) :
    Alike (fun s => s.assign target value) fun s => s.assign target value := by
  cases target with
  | invoke callee arguments => exact perform fun _ => done
  | «variable» name =>
    cases value with
    | none => exact define name .null
    | some e => exact perform fun result => define name result
  | _ => exact fun s s' same => congrArg (Outcome.failed _) same

/-- Repetitions differ in the journal alone, if their bodies do. -/
lemma repeatWhile {condition : Expr} {body body' : Session → Outcome Fault}
    (bodies : Alike body body') (fuel : Nat) :
    Alike (Session.repeatWhile condition body fuel) (Session.repeatWhile condition body' fuel) := by
  induction fuel with
  | zero => exact fun _ _ _ => rfl
  | succ fuel ih =>
    intro s s' same
    rw [Session.repeatWhile_succ, Session.repeatWhile_succ]
    refine perform (fun holds => ?_) s s' same
    cases holds with
    | false => exact done
    | true => exact bodies.andThen ih

end Session.Alike

/-- Nothing but the journal changes on entry to a statement. -/
def Session.Quiet (enter : Stmt → Session → Session) : Prop :=
  ∀ stmt s, (enter stmt s).unnoted = s.unnoted

variable {enter enter' : Stmt → Session → Session}

/-- Runs that differ in the journal alone still do so, if statements are noted on entry. -/
lemma Session.Alike.entering {next next' : Session → Outcome Fault} (alike : Alike next next')
    (quiet : Session.Quiet enter) (quiet' : Session.Quiet enter') (stmt : Stmt) :
    Alike (fun s => next (enter stmt s)) fun s => next' (enter' stmt s) := by
  intro s s' same
  exact alike _ _ ((quiet stmt s).trans (same.trans (quiet' stmt s').symm))

mutual

/-- A statement runs alike with whatever is noted on entry to its parts. -/
lemma Stmt.exec_alike (quiet : Session.Quiet enter) (quiet' : Session.Quiet enter') (fuel : Nat) :
    ∀ stmt : Stmt, Session.Alike (stmt.exec enter fuel) (stmt.exec enter' fuel)
  | .expr e => by
    intro s s' same
    rw [Stmt.exec, Stmt.exec]
    exact (Session.Alike.perform fun _ => .done).entering quiet quiet' (.expr e) s s' same
  | .assign target value => by
    intro s s' same
    rw [Stmt.exec, Stmt.exec]
    exact (Session.Alike.assign target value).entering quiet quiet' (.assign target value) s s' same
  | .ifThen condition body => by
    intro s s' same
    rw [Stmt.exec_ifThen, Stmt.exec_ifThen]
    refine (Session.Alike.perform fun holds => ?_).entering quiet quiet' (.ifThen condition body)
      s s' same
    cases holds with
    | false => exact .done
    | true => exact Stmt.execAll_alike quiet quiet' fuel body
  | .whileDo condition body => by
    intro s s' same
    rw [Stmt.exec_whileDo, Stmt.exec_whileDo]
    refine (Session.Alike.perform fun _ => ?_).entering quiet quiet' (.whileDo condition body)
      s s' same
    exact .repeatWhile (Stmt.execAll_alike quiet quiet' fuel body) fuel

/-- Statements do the same whatever is noted when they are entered. -/
lemma Stmt.execAll_alike (quiet : Session.Quiet enter) (quiet' : Session.Quiet enter')
    (fuel : Nat) : ∀ stmts : List Stmt,
      Session.Alike (Stmt.execAll enter fuel stmts) (Stmt.execAll enter' fuel stmts)
  | [] => by
    intro s s' same
    rw [Stmt.execAll, Stmt.execAll]
    exact congrArg Outcome.done same
  | stmt :: more => by
    intro s s' same
    rw [Stmt.execAll_cons, Stmt.execAll_cons]
    have first := Stmt.exec_alike quiet quiet' fuel stmt
    have others := Stmt.execAll_alike quiet quiet' fuel more
    exact first.andThen others s s' same

end

/-- The journal is all that a note changes. -/
lemma Session.quiet_note : Session.Quiet Session.note :=
  fun _ _ => rfl

/-- Nothing changes on entry, if nothing is noted. -/
lemma Session.quiet_none : Session.Quiet fun _ s => s :=
  fun _ _ => rfl

/-- The causes can be changed before or after the journal is left out. -/
lemma Outcome.unnoted_mapCause {ε ε' : Type} (f : ε → ε') (outcome : Outcome ε) :
    (outcome.mapCause f).unnoted = outcome.unnoted.mapCause f := by
  cases outcome <;> rfl

/-- A source text does the same with and without the journal. -/
lemma Session.unnoted_trace (fuel : Nat) (source : String) {s s' : Session}
    (same : s.unnoted = s'.unnoted) :
    (s.trace fuel source).unnoted = (s'.run fuel source).unnoted := by
  rw [trace, run, runBy, runBy]
  cases Program.ofSource source with
  | error e => exact congrArg (Outcome.failed e) same
  | ok program =>
    have alike := Stmt.execAll_alike quiet_note quiet_none fuel program s s' same
    dsimp only
    rw [Outcome.unnoted_mapCause, Outcome.unnoted_mapCause]
    exact congrArg _ alike

end Scriptlet
