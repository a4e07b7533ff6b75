import Scriptlet.Proofs.Program.Parts
import Scriptlet.Proofs.Session.Invariant

/-!
# What a run leaves alone

The only statements that touch the variables are assignments to variables. So whatever property of
the variables survives the binding of each name that a program assigns, it survives the run of the
program, however that ends (`Stmt.execAll_preserves_of_assigns`). In particular all other names stay
as they are, and no name is ever unbound. The output only grows.
-/

namespace Scriptlet

/-- Binding the name to whatever value keeps the property. -/
def Bindings.Survives (property : Bindings → Prop) (name : String) : Prop :=
  ∀ (vars : Bindings) (value : Value), property vars → property (vars.define name value)

namespace Session

variable {property : Bindings → Prop}

/-- An assignment preserves what survives a new value of its target. -/
lemma preserves_assign {target : Expr} (value : Option Expr)
    (survives : ∀ name, target = .variable name → Bindings.Survives property name) :
    Preserves property fun s => s.assign target value := by
  cases target with
  | invoke callee arguments => exact preserves_perform_of_steps fun _ => preserves_done
  | «variable» name =>
    have bind := survives name rfl
    cases value with
    | none => exact fun s holds => bind s.vars .null holds
    | some e => exact preserves_perform_of_steps fun result s holds => bind s.vars result holds
  | number | binary | unfinished | group | negate => exact fun s holds => holds

end Session

open Session

section Running

variable {property : Bindings → Prop} (fuel : Nat)

mutual

/-- A statement preserves what survives a new value of each variable that it assigns. -/
lemma Stmt.exec_preserves_of_assigns : ∀ stmt : Stmt,
    (∀ name, stmt.Assigns name → Bindings.Survives property name) →
      Preserves property (stmt.exec (fun _ s => s) fuel)
  | .expr e, _ => by
    intro s holds
    rw [Stmt.exec]
    exact preserves_perform_of_steps (fun _ => preserves_done) s holds
  | .assign target value, survives => by
    intro s holds
    rw [Stmt.exec]
    apply preserves_assign value _ s holds
    rintro name rfl
    exact survives name (.assign value)
  | .ifThen condition body, survives => by
    rw [funext (Stmt.exec_ifThen (fun _ s => s) fuel condition body)]
    apply preserves_test
    intro holds
    cases holds with
    | false => exact preserves_done
    | true =>
      apply Stmt.execAll_preserves_of_assigns body
      rintro name ⟨stmt, member, inside⟩
      exact survives name (.ifThen member inside)
  | .whileDo condition body, survives => by
    rw [funext (Stmt.exec_whileDo (fun _ s => s) fuel condition body)]
    apply preserves_test
    intro _
    refine preserves_repeatWhile (Stmt.execAll_preserves_of_assigns body ?_) fuel
    rintro name ⟨stmt, member, inside⟩
    exact survives name (.whileDo member inside)

/-- A property of the variables that survives every assignment in the statements is kept by their
run. -/
lemma Stmt.execAll_preserves_of_assigns : ∀ stmts : List Stmt,
    (∀ name, Program.Assigns stmts name → Bindings.Survives property name) →
      Preserves property (Stmt.execAll (fun _ s => s) fuel stmts)
  | [], _ => by
    intro s holds
    rw [Stmt.execAll]
    exact holds
  | stmt :: more, survives => by
    rw [funext (Stmt.execAll_cons (fun _ s => s) fuel stmt more)]
    have head := Stmt.exec_preserves_of_assigns stmt fun name inside =>
      survives name ⟨stmt, List.mem_cons_self, inside⟩
    have tail : Preserves property (Stmt.execAll (fun _ s => s) fuel more) := by
      apply Stmt.execAll_preserves_of_assigns more
      rintro name ⟨other, member, inside⟩
      exact survives name ⟨other, List.mem_cons_of_mem stmt member, inside⟩
    exact head.andThen tail

end

end Running

/-! ## Names -/

namespace Program

variable {program : Program} {fuel : Nat} {s last : Session} {name : String}

/-- What survives every assignment of a program holds of the variables that its run leaves
behind. -/
lemma property_of_leaves {property : Bindings → Prop}
    (survives : ∀ name, program.Assigns name → Bindings.Survives property name)
    (leaves : (program.run fuel s).Leaves last) (holds : property s.vars) : property last.vars := by
  have kept : (program.run fuel s).Satisfies property :=
    Stmt.execAll_preserves_of_assigns fuel program survives s holds
  exact kept.of_leaves leaves

/-- A name that the program does not assign is as before. -/
lemma find?_eq_of_leaves (leaves : (program.run fuel s).Leaves last)
    (free : ¬ program.Assigns name) : last.vars.find? name = s.vars.find? name := by
  have survives : ∀ other, program.Assigns other →
      Bindings.Survives (fun vars => vars.find? name = s.vars.find? name) other := by
    intro other assigned vars value same
    have distinct : name ≠ other := by
      rintro rfl
      exact free assigned
    exact (Bindings.find?_define_of_ne vars value distinct).trans same
  exact property_of_leaves survives leaves rfl

/-- A bound name stays bound. -/
lemma isBound_of_leaves (leaves : (program.run fuel s).Leaves last)
    (bound : ∃ value, s.vars.find? name = some value) :
    ∃ value, last.vars.find? name = some value := by
  have survives : ∀ other, program.Assigns other →
      Bindings.Survives (fun vars => ∃ value, vars.find? name = some value) other :=
    fun _ _ _ _ bound => Bindings.exists_find?_define bound
  exact property_of_leaves survives leaves bound

end Program

/-! ## Failures -/

/-- The statement is an assignment or an expression. -/
def Stmt.Simple : Stmt → Prop
  | .assign _ _ | .expr _ => True
  | .ifThen _ _ | .whileDo _ _ => False

namespace Session

variable {s last : Session} {fault : Fault}

/-- If what follows an evaluation cannot fail, then the evaluation is what failed. -/
lemma vars_eq_of_evaluate_failed {e : Expr} {step : Value → Session → Session}
    (failed : Outcome.ofResult (fun value s => .done (step value s)) (s.evaluate e) =
      .failed fault last) : last.vars = s.vars := by
  rw [evaluate, perform] at failed
  rcases evaluated : e.eval s.vars s.sink with ⟨fault' | value, sink⟩
  · rw [evaluated] at failed
    cases failed
    rfl
  · rw [evaluated] at failed
    cases failed

/-- An assignment that fails leaves the variables as they were. -/
lemma vars_eq_of_assign_failed {target : Expr} {value : Option Expr}
    (failed : s.assign target value = .failed fault last) : last.vars = s.vars := by
  cases target with
  | invoke callee arguments => exact vars_eq_of_evaluate_failed failed
  | «variable» name =>
    cases value with
    | none => cases failed
    | some e => exact vars_eq_of_evaluate_failed failed
  | number | binary | unfinished | group | negate =>
    cases failed
    rfl

end Session

/-- A simple statement that fails has not touched the variables. -/
lemma Stmt.Simple.vars_eq_of_failed {stmt : Stmt} (simple : stmt.Simple) {fuel : Nat}
    {s last : Session} {fault : Fault} (failed : stmt.run fuel s = .failed fault last) :
    last.vars = s.vars := by
  cases stmt with
  | expr e =>
    rw [Stmt.run, Stmt.exec] at failed
    exact vars_eq_of_evaluate_failed failed
  | assign target value =>
    rw [Stmt.run, Stmt.exec] at failed
    exact vars_eq_of_assign_failed failed
  | ifThen | whileDo => exact simple.elim

/-! ## Output -/

namespace Sink

/-- The sink after it has taken some bytes more. -/
def taking (sink : Sink) (bytes : Array UInt8) : Sink :=
  { sink with
    written := sink.written ++ bytes
    room := sink.room.map (· - bytes.size) }

/-- A write only ever adds bytes to a sink, be they all or some of them. -/
lemma exists_taking_of_writeBytes {sink last : Sink} {bytes : Array UInt8}
    {result : Except String Unit} (wrote : sink.writeBytes bytes = (result, last)) :
    ∃ taken, last = sink.taking taken := by
  obtain ⟨written, _ | room, refusal⟩ := sink
  · cases wrote
    exact ⟨bytes, rfl⟩
  · by_cases fits : bytes.size ≤ room
    · rw [writeBytes_of_fits rfl fits] at wrote
      cases wrote
      exact ⟨bytes, rfl⟩
    · have short : room < bytes.size := Nat.lt_of_not_le fits
      rw [writeBytes_of_short rfl short] at wrote
      cases wrote
      refine ⟨bytes.take room, ?_⟩
      simp [taking, Nat.min_eq_left short.le]

end Sink

/-- The output after a run is the output before it and some bytes more. -/
lemma Program.exists_taking_of_leaves {program : Program} {fuel : Nat} {s last : Session}
    (leaves : (program.run fuel s).Leaves last) : ∃ bytes, last.sink = s.sink.taking bytes := by
  obtain ⟨bytes, outcome, told⟩ := Stmt.execAll_tells fuel program s
  rcases wrote : s.sink.writeBytes bytes with ⟨reason | _, sink⟩
  · obtain ⟨stopped, rfl, failed⟩ := told.cut wrote
    have same : program.run fuel s = .failed (.output reason) stopped := failed
    rw [same] at leaves
    obtain done | ⟨fault, failed⟩ := leaves
    · cases done
    · cases failed
      exact Sink.exists_taking_of_writeBytes wrote
  · have same : program.run fuel s = outcome.withSink sink := told.through wrote
    rw [same] at leaves
    rw [leaves.sink_eq]
    exact Sink.exists_taking_of_writeBytes wrote

/-- What a run leaves alone, be it through or failed. A name that no assignment in the program is
about has the value that it had, or none. Every bound name is still bound. An assignment or an
expression that fails has not touched the variables. The output begins with what it was. -/
theorem Program.run_leaves_alone (program : Program) (fuel : Nat) (s last : Session)
    (leaves : (program.run fuel s).Leaves last) :
    (∀ name, ¬ program.Assigns name → last.vars.find? name = s.vars.find? name) ∧
    (∀ name, (∃ value, s.vars.find? name = some value) →
      ∃ value, last.vars.find? name = some value) ∧
    (∀ (stmt : Stmt) (fuel : Nat) (fault : Fault) (before after : Session), stmt.Simple →
      stmt.run fuel before = .failed fault after → after.vars = before.vars) ∧
    ∃ bytes, last.sink = s.sink.taking bytes := by
  refine ⟨fun name => find?_eq_of_leaves leaves, fun name => isBound_of_leaves leaves, ?_,
    exists_taking_of_leaves leaves⟩
  intro stmt fuel fault before after simple failed
  exact simple.vars_eq_of_failed failed

/-- One variable is assigned, a call on the left of an assignment prints it, and the run stops at a
variable without a value. -/
theorem Program.run_leaves_alone_until_fault :
    ∃ last : Session,
      Program.run 0
        [.assign (.variable "x") (some (.variable "true")),
          .ifThen (.variable "x")
            [.assign (.call (.variable "print") [.variable "x"]) none, .expr (.variable "y")]]
        (Session.fresh 2 .unlimited) = .failed (.undefinedVariable "y") last ∧
      last.vars.find? "print" = some (.function (.print 2)) ∧ last.vars.find? "y" = none ∧
      last.sink = Sink.unlimited.taking "True\n".toUTF8.data := by
  obtain ⟨same, -, -, -⟩ := Program.run_leaves_alone
    [.assign (.variable "x") (some (.variable "true")),
      .ifThen (.variable "x")
        [.assign (.call (.variable "print") [.variable "x"]) none, .expr (.variable "y")]]
    0 (Session.fresh 2 .unlimited) _ (.inr ⟨_, rfl⟩)
  have kept := fun name (other : name ≠ "x") => same name fun ⟨stmt, member, inside⟩ => by
    cases member with
    | head =>
      cases inside
      exact other rfl
    | tail _ member =>
      obtain rfl := List.mem_singleton.1 member
      cases inside with
      | ifThen member inside =>
        -- the call on the left assigns nothing, and neither does the last statement
        cases member with
        | head => cases inside
        | tail _ member =>
          obtain rfl := List.mem_singleton.1 member
          cases inside
  exact ⟨_, rfl, kept "print" (by decide), kept "y" (by decide), rfl⟩

end Scriptlet
