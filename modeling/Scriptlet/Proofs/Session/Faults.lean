import Mathlib.Tactic.Common
import Scriptlet.Proofs.Program.Regular
import Scriptlet.Proofs.Session.Fuel

/-!
# Which faults a regular program can have

A regular program stops only because of a name, because of the kinds of two operands or of a
condition, or because its output is refused. The statement is proved once for all properties of the
output and of faults that the writing of a line respects (`Stmt.execAll_keeps`).
-/

namespace Scriptlet

/-- The fault is about a name or about the kind of a value, and no sign is involved. -/
def Fault.Ordinary : Fault → Prop
  | .undefinedVariable _ | .unknownFunction _ | .notCallable _ | .incompatible _ _ _
  | .nonBoolean _ => True
  | .illegalNegation _ | .unknownOperator _ | .invalidTarget _ | .output _ => False

/-- An ordinary fault is a name error or a type error. -/
lemma Fault.Ordinary.kind {fault : Fault} (ordinary : fault.Ordinary) :
    fault.kind = .name ∨ fault.kind = .type := by
  cases fault with
  | undefinedVariable | unknownFunction | notCallable => exact .inl rfl
  | incompatible | nonBoolean => exact .inr rfl
  | illegalNegation | unknownOperator | invalidTarget | output => exact ordinary.elim

namespace Writing

/-- The computation leaves a sink with the first property in such a state, and if it fails, it is
with a fault that has the second. -/
def Keeps {α : Type} (sound : Sink → Prop) (allowed : Fault → Prop) (action : Writing α) : Prop :=
  ∀ sink, sound sink →
    sound (action sink).2 ∧ ∀ fault, (action sink).1 = .error fault → allowed fault

variable {α β : Type} {sound : Sink → Prop} {allowed : Fault → Prop}

/-- A value by itself leaves the sink as it is and has no fault. -/
lemma keeps_pure (value : α) : Keeps sound allowed (pure value : Writing α) := by
  intro sink holds
  exact ⟨holds, nofun⟩

/-- A result that is there already keeps the properties, if its fault is allowed. -/
lemma keeps_ofResult {result : Except Fault α}
    (faults : ∀ fault, result = .error fault → allowed fault) :
    Keeps sound allowed (ofResult result) := by
  intro sink holds
  exact ⟨holds, faults⟩

/-- Two computations that keep the properties keep them in a row. -/
lemma Keeps.bind {action : Writing α} {next : α → Writing β} (first : Keeps sound allowed action)
    (second : ∀ value, Keeps sound allowed (next value)) :
    Keeps sound allowed (action >>= next) := by
  intro sink holds
  obtain ⟨holds', faults⟩ := first sink holds
  rw [bind_apply]
  rcases done : action sink with ⟨fault | value, sink'⟩
  · rw [done] at holds' faults
    exact ⟨holds', fun fault' same => faults fault' (congrArg Except.error (Except.error.inj same))⟩
  · rw [done] at holds'
    exact second value sink' holds'

/-- If the writing of every line keeps the properties, so does the writing of several. -/
lemma keeps_lines (line : ∀ text, Keeps sound allowed (Writing.line text)) (texts : List String) :
    Keeps sound allowed (lines texts) := by
  induction texts with
  | nil => exact keeps_pure ()
  | cons text rest ih => exact (line text).bind fun _ => ih

end Writing

/-! ## Expressions -/

/-- The symbol of an operator only fails because of the kind of an operand. -/
lemma Operator.ordinary_of_applySymbol {op : Operator} {left right : Value} {fault : Fault}
    (failed : Operator.applySymbol op.symbol left right = .error fault) : fault.Ordinary := by
  rw [Operator.applySymbol, Operator.ofSymbol?_symbol] at failed
  dsimp only at failed
  rw [Operator.apply.eq_def] at failed
  split at failed
  · cases failed
  · cases failed
  · cases failed
  · obtain rfl := Except.error.inj failed
    trivial

/-- The lookup of a variable only fails because it is not bound. -/
lemma Bindings.ordinary_of_get {vars : Bindings} {name : String} {fault : Fault}
    (failed : vars.get name = .error fault) : fault.Ordinary := by
  rw [Bindings.get] at failed
  split at failed
  · cases failed
  · obtain rfl := Except.error.inj failed
    trivial

/-- The lookup of a function only fails because of the name or because its value is no function. -/
lemma Bindings.ordinary_of_function {vars : Bindings} {name : String} {fault : Fault}
    (failed : vars.function name = .error fault) : fault.Ordinary := by
  rw [Bindings.function.eq_def] at failed
  split at failed
  · cases failed
  · obtain rfl := Except.error.inj failed
    trivial
  · obtain rfl := Except.error.inj failed
    trivial

/-- A test only fails because the value is no boolean. -/
lemma Value.ordinary_of_truth {value : Value} {fault : Fault}
    (failed : value.truth = .error fault) : fault.Ordinary := by
  rw [Value.truth.eq_def] at failed
  split at failed
  · cases failed
  · obtain rfl := Except.error.inj failed
    trivial

section Keeping
open Writing

variable {sound : Sink → Prop} {allowed : Fault → Prop}

/-- Expressions that keep the properties one by one keep them from left to right. -/
lemma Expr.evalAll_keeps {vars : Bindings} {list : List Expr}
    (each : ∀ e ∈ list, Keeps sound allowed (e.eval vars)) :
    Keeps sound allowed (Expr.evalAll vars list) := by
  induction list with
  | nil =>
    rw [Expr.evalAll]
    exact keeps_pure []
  | cons e list ih =>
    obtain ⟨first, others⟩ := List.forall_mem_cons.1 each
    rw [Expr.evalAll]
    exact first.bind fun value => (ih others).bind fun values => keeps_pure _

/-- Arguments that keep the properties one by one keep them in a call. -/
lemma Expr.evalArguments_keeps {vars : Bindings} {arguments : Option (List Expr)}
    (each : ∀ list ∈ arguments, ∀ e ∈ list, Keeps sound allowed (e.eval vars)) :
    Keeps sound allowed (Expr.evalArguments vars arguments) := by
  cases arguments with
  | none =>
    rw [Expr.evalArguments]
    exact keeps_pure []
  | some list =>
    rw [Expr.evalArguments]
    exact Expr.evalAll_keeps (each list rfl)

variable (ordinary : ∀ fault : Fault, fault.Ordinary → allowed fault)
  (line : ∀ text, Keeps sound allowed (Writing.line text))

include ordinary line

/-- The evaluation of a regular expression fails in the ordinary ways and in those of the output. -/
lemma Expr.Regular.eval_keeps {e : Expr} (regular : e.Regular) (vars : Bindings) :
    Keeps sound allowed (e.eval vars) := by
  induction regular with
  | number value =>
    rw [Expr.eval]
    exact keeps_pure _
  | name text =>
    rw [Expr.eval]
    exact keeps_ofResult fun fault failed => ordinary fault (Bindings.ordinary_of_get failed)
  | binary op first second ihFirst ihSecond =>
    rw [Expr.eval]
    refine ihFirst.bind fun left => ihSecond.bind fun right => keeps_ofResult fun fault failed => ?_
    exact ordinary fault (Operator.ordinary_of_applySymbol failed)
  | group whole ih =>
    rw [Expr.eval]
    exact ih
  | invoke first all ihFirst ihAll =>
    rw [Expr.eval]
    refine ihFirst.bind fun value => Keeps.bind (keeps_ofResult fun fault failed => ?_) fun f => ?_
    · exact ordinary fault (Bindings.ordinary_of_function failed)
    · refine (Expr.evalArguments_keeps ihAll).bind fun values => ?_
      obtain ⟨origin⟩ := f
      rw [Builtin.run]
      exact (keeps_lines line _).bind fun _ => keeps_pure _

/-- The test of a regular condition keeps the properties. -/
lemma Expr.Regular.holds_keeps {condition : Expr} (regular : condition.Regular) (vars : Bindings) :
    Keeps sound allowed (condition.holds vars) := by
  rw [Expr.holds]
  refine (regular.eval_keeps ordinary line vars).bind fun value => ?_
  refine keeps_ofResult fun fault failed => ?_
  exact ordinary fault (Value.ordinary_of_truth failed)

end Keeping

/-! ## Statements -/

namespace Outcome

/-- The outcome has a sink with the first property and, if there is a fault, it has the second. -/
def Keeps (sound : Sink → Prop) (allowed : Fault → Prop) : Outcome Fault → Prop
  | .done s => sound s.sink
  | .failed fault s => sound s.sink ∧ allowed fault
  | .outOfFuel => True

variable {sound : Sink → Prop} {allowed : Fault → Prop}

/-- Two runs that keep the properties keep them in a row. -/
lemma Keeps.andThen {first : Outcome Fault} {next : Session → Outcome Fault}
    (head : first.Keeps sound allowed)
    (tail : ∀ s : Session, sound s.sink → (next s).Keeps sound allowed) :
    (first.andThen next).Keeps sound allowed := by
  cases first with
  | done s => exact tail s head
  | failed fault s => exact head
  | outOfFuel => trivial

/-- A computation and what is done with its value keep the properties, if both do. -/
lemma keeps_ofResult_perform {α : Type} {s : Session} {action : Bindings → Writing α}
    {step : α → Session → Outcome Fault} (holds : sound s.sink)
    (acts : (action s.vars).Keeps sound allowed)
    (steps : ∀ value (s : Session), sound s.sink → (step value s).Keeps sound allowed) :
    (Outcome.ofResult step (s.perform action)).Keeps sound allowed := by
  obtain ⟨holds', faults⟩ := acts s.sink holds
  rw [Session.perform]
  rcases done : action s.vars s.sink with ⟨fault | value, sink⟩
  · rw [done] at holds' faults
    exact ⟨holds', faults fault rfl⟩
  · rw [done] at holds'
    exact steps value _ holds'

end Outcome

section Running

variable {sound : Sink → Prop} {allowed : Fault → Prop}

/-- The repetition keeps the properties, if its condition and its body do. -/
lemma Session.repeatWhile_keeps {condition : Expr} {body : Session → Outcome Fault}
    (tests : ∀ vars, (condition.holds vars).Keeps sound allowed)
    (bodies : ∀ s : Session, sound s.sink → (body s).Keeps sound allowed) (fuel : Nat) (s : Session)
    (holds : sound s.sink) : (Session.repeatWhile condition body fuel s).Keeps sound allowed := by
  induction fuel generalizing s with
  | zero => trivial
  | succ fuel ih =>
    rw [Session.repeatWhile_succ]
    refine Outcome.keeps_ofResult_perform holds (tests s.vars) ?_
    rintro (_ | _) s holds
    · exact holds
    · exact (bodies s holds).andThen ih

/-- Statements that keep the properties one by one keep them in a row. -/
lemma Stmt.execAll_keeps_of_each {enter : Stmt → Session → Session} {fuel : Nat} {stmts : List Stmt}
    (each : ∀ stmt ∈ stmts, ∀ s : Session, sound s.sink →
      (stmt.exec enter fuel s).Keeps sound allowed) (s : Session) (holds : sound s.sink) :
    (Stmt.execAll enter fuel stmts s).Keeps sound allowed := by
  induction stmts generalizing s with
  | nil =>
    rw [Stmt.execAll]
    exact holds
  | cons stmt more ih =>
    obtain ⟨first, others⟩ := List.forall_mem_cons.1 each
    rw [Stmt.execAll_cons]
    exact (first s holds).andThen (ih others)

variable (ordinary : ∀ fault : Fault, fault.Ordinary → allowed fault)
  (line : ∀ text, (Writing.line text).Keeps sound allowed)
  {enter : Stmt → Session → Session} (quiet : ∀ stmt s, (enter stmt s).sink = s.sink)

include ordinary line quiet

/-- A regular statement fails in the ordinary ways and in those of the output. -/
lemma Stmt.Regular.exec_keeps {stmt : Stmt} (regular : stmt.Regular) (fuel : Nat) (s : Session)
    (holds : sound s.sink) : (stmt.exec enter fuel s).Keeps sound allowed := by
  induction regular generalizing s with
  | @expr e action =>
    rw [Stmt.exec]
    refine Outcome.keeps_ofResult_perform (by rwa [quiet]) (action.eval_keeps ordinary line _) ?_
    exact fun _ _ holds => holds
  | @assign name value source =>
    rw [Stmt.exec]
    refine Outcome.keeps_ofResult_perform (by rwa [quiet]) (source.eval_keeps ordinary line _) ?_
    exact fun _ _ holds => holds
  | @ifThen condition body test block ih =>
    rw [Stmt.exec_ifThen]
    refine Outcome.keeps_ofResult_perform (by rwa [quiet]) (test.holds_keeps ordinary line _) ?_
    rintro (_ | _) s holds
    · exact holds
    · exact Stmt.execAll_keeps_of_each ih s holds
  | @whileDo condition body test block ih =>
    rw [Stmt.exec_whileDo]
    refine Outcome.keeps_ofResult_perform (by rwa [quiet]) (test.holds_keeps ordinary line _) ?_
    intro _ s holds
    exact Session.repeatWhile_keeps (test.holds_keeps ordinary line)
      (fun s holds => Stmt.execAll_keeps_of_each ih s holds) fuel s holds

/-- The run of a regular program keeps the properties. -/
lemma Program.Regular.execAll_keeps {program : Program} (regular : program.Regular) (fuel : Nat)
    (s : Session) (holds : sound s.sink) :
    (Stmt.execAll enter fuel program s).Keeps sound allowed :=
  Stmt.execAll_keeps_of_each
    (fun stmt member => (regular stmt member).exec_keeps ordinary line quiet fuel) s holds

end Running

/-! ## Source texts -/

/-- A source text is refused by the tokenizer, or else by the parser on the tokens without layout.
-/
lemma Program.ofSource_eq_error_iff {source : String} {e : Error} :
    Program.ofSource source = .error e ↔
      (∃ cause, tokenize source = .error cause ∧ e = .lex cause) ∨
        ∃ tokens cause, tokenize source = .ok tokens ∧
          Program.ofTokens (Token.withoutLayout tokens) = .error cause ∧ e = .parse cause := by
  rw [Program.ofSource, sourceTokens]
  cases tokenize source with
  | error cause => simp [bind, Except.bind, eq_comm]
  | ok tokens =>
    cases read : Program.ofTokens (Token.withoutLayout tokens) <;>
      simp [bind, Except.bind, read, eq_comm]

namespace Session

variable {s last : Session} {source : String} {fuel : Nat}

/-- A source text that is no program fails with the same error for any fuel, and nothing changes. -/
lemma run_of_refused {e : Error} (refused : Program.ofSource source = .error e) (fuel : Nat)
    (s : Session) : s.run fuel source = .failed e s := by
  simp only [run, runBy, refused]

/-- A text that spells a program fails with a fault only. -/
lemma exists_fault_of_run {program : Program} {e : Error}
    (accepted : Program.ofSource source = .ok program)
    (failed : s.run fuel source = .failed e last) :
    ∃ fault, e = .fault fault ∧ program.run fuel s = .failed fault last := by
  simp only [run, runBy, accepted] at failed
  cases ran : program.run fuel s with
  | done _ => simp [ran, Outcome.mapCause] at failed
  | failed fault _ =>
    simp only [ran, Outcome.mapCause, Outcome.failed.injEq] at failed
    obtain ⟨rfl, rfl⟩ := failed
    exact ⟨fault, rfl, rfl⟩
  | outOfFuel => simp [ran, Outcome.mapCause] at failed

/-- Every fault of a source text is ordinary or one that the output allows. -/
lemma allowed_of_run (sound : Sink → Prop) (allowed : Fault → Prop) {fault : Fault}
    (ordinary : ∀ fault : Fault, fault.Ordinary → allowed fault)
    (line : ∀ text, (Writing.line text).Keeps sound allowed) (holds : sound s.sink)
    (failed : s.run fuel source = .failed (.fault fault) last) : allowed fault := by
  cases read : Program.ofSource source with
  | error e =>
    rw [run_of_refused read] at failed
    obtain rfl := (Outcome.failed.inj failed).1
    rcases Program.ofSource_eq_error_iff.1 read with ⟨_, _, same⟩ | ⟨_, _, _, _, same⟩
    · cases same
    · cases same
  | ok program =>
    obtain ⟨fault', same, ran⟩ := exists_fault_of_run read failed
    obtain rfl := Error.fault.inj same
    have regular := Program.regular_of_ofSource read
    have keeps := regular.execAll_keeps ordinary line (fun _ _ => rfl) fuel s holds
    rw [← Program.run, ran] at keeps
    exact keeps.2

/-- The fault of a run is ordinary, or the output has been refused. -/
lemma fault_of_run {fault : Fault} (failed : s.run fuel source = .failed (.fault fault) last) :
    fault.Ordinary ∨ ∃ reason, fault = .output reason := by
  refine allowed_of_run (fun _ => True)
    (fun fault => fault.Ordinary ∨ ∃ reason, fault = .output reason) (fun _ => .inl) ?_ trivial
    failed
  intro text sink _
  refine ⟨trivial, fun fault refused => ?_⟩
  rw [Writing.line] at refused
  split at refused
  · cases refused
  · exact .inr ⟨_, (Except.error.inj refused).symm⟩

/-- While the output takes everything, every fault is ordinary. -/
lemma ordinary_of_run {fault : Fault} (unlimited : s.sink.room = none)
    (failed : s.run fuel source = .failed (.fault fault) last) : fault.Ordinary := by
  refine allowed_of_run (fun sink => sink.room = none) Fault.Ordinary (fun _ => id) ?_ unlimited
    failed
  intro text sink room
  simp [Writing.line, Sink.write, Sink.writeBytes, room]

end Session

end Scriptlet
