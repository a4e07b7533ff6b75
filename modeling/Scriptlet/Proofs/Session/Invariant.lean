import Scriptlet.Proofs.Program.WellFormed
import Scriptlet.Proofs.Session.Output

/-!
# What the variables of a session can be

However many source texts a session has run, and however each of them ended, the names that it
started with are bound, every bound name can be written down and is no keyword, and every bound
value is a number, a truth value, the empty value or the function that the session was made with.
Well-formed statements bind no other names, and expressions have no other values.
-/

namespace Scriptlet

/-- The value is not a function of another session. -/
def Value.Owned (origin : Nat) : Value → Prop
  | .number _ | .boolean _ | .null => True
  | .function f => f = .print origin

/-- What holds of the variables of a session between source texts. -/
structure Bindings.Sound (origin : Nat) (vars : Bindings) : Prop where
  given : ∀ name ∈ ["true", "false", "print"], ∃ value, vars.find? name = some value
  named : ∀ {name value}, vars.find? name = some value →
    Text.IsName name ∧ name ≠ "if" ∧ name ≠ "while"
  owned : ∀ {name value}, vars.find? name = some value → value.Owned origin

namespace Bindings

variable {origin : Nat} {vars : Bindings} {name other : String} {value found : Value}

/-- After a definition a name has the new value, or the one it had before. -/
lemma find?_define_cases (bound : (vars.define name value).find? other = some found) :
    (other = name ∧ found = value) ∨ vars.find? other = some found := by
  by_cases same : other = name
  · subst same
    rw [find?_define_self] at bound
    exact .inl ⟨rfl, (Option.some.inj bound).symm⟩
  · rw [find?_define_of_ne vars value same] at bound
    exact .inr bound

/-- A name that is bound stays bound after a definition. -/
lemma exists_find?_define (bound : ∃ found, vars.find? other = some found) :
    ∃ found, (vars.define name value).find? other = some found := by
  by_cases same : other = name
  · subst same
    exact ⟨value, find?_define_self vars other value⟩
  · rw [find?_define_of_ne vars value same]
    exact bound

/-- Sound variables stay sound after a definition of a name that is no keyword. -/
lemma Sound.define (sound : vars.Sound origin) (named : Text.IsName name)
    (noKeyword : name ≠ "if" ∧ name ≠ "while") (owned : value.Owned origin) :
    (vars.define name value).Sound origin where
  given other among := exists_find?_define (sound.given other among)
  named bound := by
    rcases find?_define_cases bound with ⟨rfl, -⟩ | old
    · exact ⟨named, noKeyword⟩
    · exact sound.named old
  owned bound := by
    rcases find?_define_cases bound with ⟨-, rfl⟩ | old
    · exact owned
    · exact sound.owned old

end Bindings

/-- The variables of a fresh session are `print`, `false` and `true`. -/
lemma Session.find?_builtins_cases {origin : Nat} {name : String} {value : Value}
    (bound : (Session.builtins origin).find? name = some value) :
    (name = "print" ∧ value = .function (.print origin)) ∨
      (name = "false" ∧ value = .boolean false) ∨ (name = "true" ∧ value = .boolean true) := by
  rcases Bindings.find?_define_cases bound with print | bound
  · exact .inl print
  rcases Bindings.find?_define_cases bound with no | bound
  · exact .inr (.inl no)
  rcases Bindings.find?_define_cases bound with yes | bound
  · exact .inr (.inr yes)
  · cases bound

/-- The variables of a fresh session are sound. -/
lemma Session.sound_builtins (origin : Nat) : (Session.builtins origin).Sound origin where
  given name among := by
    simp only [List.mem_cons, List.not_mem_nil, or_false] at among
    rcases among with rfl | rfl | rfl
    · exact ⟨.boolean true, rfl⟩
    · exact ⟨.boolean false, rfl⟩
    · exact ⟨.function (.print origin), rfl⟩
  named bound := by
    rcases Session.find?_builtins_cases bound with ⟨rfl, -⟩ | ⟨rfl, -⟩ | ⟨rfl, -⟩
    · exact ⟨by decide, by decide⟩
    · exact ⟨by decide, by decide⟩
    · exact ⟨by decide, by decide⟩
  owned bound := by
    rcases Session.find?_builtins_cases bound with ⟨-, rfl⟩ | ⟨-, rfl⟩ | ⟨-, rfl⟩
    · rfl
    · trivial
    · trivial

/-! ## Values of expressions -/

namespace Writing

variable {α β : Type} {property : β → Prop}

/-- Every result of the computation has the property, whatever the sink. -/
def Yields (property : α → Prop) (action : Writing α) : Prop :=
  ∀ sink value, (action sink).1 = .ok value → property value

/-- A result that is there already yields the property, if its value has it. -/
lemma yields_ofResult {result : Except Fault β}
    (results : ∀ value, result = .ok value → property value) :
    Yields property (ofResult result) :=
  fun _ => results

/-- A value by itself yields the property, if it has it. -/
lemma yields_pure {value : β} (holds : property value) :
    Yields property (pure value : Writing β) :=
  yields_ofResult fun _ same => Except.ok.inj same ▸ holds

/-- The result of a sequence is that of its second part. -/
lemma yields_bind {action : Writing α} {next : α → Writing β}
    (second : ∀ value, Yields property (next value)) : Yields property (action >>= next) := by
  intro sink value result
  rw [bind_apply] at result
  rcases done : action sink with ⟨fault | middle, taken⟩
  · simp only [done] at result
    cases result
  · simp only [done] at result
    exact second middle taken value result

end Writing

section Evaluation
open Writing

variable {origin : Nat}

/-- An operator on numbers never has a function as its value. -/
lemma Operator.owned_onNumbers (op : Operator) (a b : Float) : (op.onNumbers a b).Owned origin := by
  cases op <;> trivial

/-- The value of a binary operation is no function of another session. -/
lemma Operator.owned_of_applySymbol {symbol : String} {left right value : Value}
    (applied : Operator.applySymbol symbol left right = .ok value) : value.Owned origin := by
  rw [Operator.applySymbol.eq_def] at applied
  split at applied
  · rw [Operator.apply.eq_def] at applied
    split at applied
    · exact Except.ok.inj applied ▸ Operator.owned_onNumbers _ _ _
    · exact Except.ok.inj applied ▸ trivial
    · exact Except.ok.inj applied ▸ trivial
    · cases applied
  · cases applied

/-- The value of a negation is no function of another session. -/
lemma Value.owned_of_negated {inner value : Value} (negated : inner.negated = .ok value) :
    value.Owned origin := by
  cases inner with
  | number x => exact Except.ok.inj negated ▸ trivial
  | boolean | null | function => cases negated

/-- Over values that are the session's own, expressions have no other values. -/
lemma Expr.eval_owned {vars : Bindings}
    (owned : ∀ {name value}, vars.find? name = some value → value.Owned origin) (e : Expr) :
    (e.eval vars).Yields (Value.Owned origin) := by
  cases e with
  | number x =>
    rw [Expr.eval]
    exact yields_pure trivial
  | «variable» name =>
    rw [Expr.eval]
    apply yields_ofResult
    intro value got
    rw [Bindings.get.eq_def] at got
    split at got
    · exact Except.ok.inj got ▸ owned ‹_›
    · cases got
  | binary symbol left right =>
    rw [Expr.eval]
    apply yields_bind
    intro a
    apply yields_bind
    intro b
    exact yields_ofResult fun _ => Operator.owned_of_applySymbol
  | unfinished symbol left =>
    rw [Expr.eval]
    exact yields_pure trivial
  | group inner =>
    rw [Expr.eval]
    exact Expr.eval_owned owned inner
  | invoke callee arguments =>
    rw [Expr.eval]
    apply yields_bind
    intro value
    apply yields_bind
    intro f
    apply yields_bind
    intro values
    -- the only function there is returns the empty value
    obtain ⟨origin'⟩ := f
    rw [Builtin.run]
    exact yields_bind fun _ => yields_pure trivial
  | negate inner =>
    rw [Expr.eval]
    apply yields_bind
    intro value
    exact yields_ofResult fun _ => Value.owned_of_negated

end Evaluation

/-! ## Statements -/

/-- The property holds of the variables that the outcome leaves behind. -/
def Outcome.Satisfies {ε : Type} (property : Bindings → Prop) : Outcome ε → Prop
  | .done s => property s.vars
  | .failed _ s => property s.vars
  | .outOfFuel => True

/-- The session that an outcome leaves behind has variables with the property. -/
lemma Outcome.Satisfies.of_leaves {ε : Type} {property : Bindings → Prop} {outcome : Outcome ε}
    {last : Session} (satisfies : outcome.Satisfies property) (leaves : outcome.Leaves last) :
    property last.vars := by
  obtain rfl | ⟨cause, rfl⟩ := leaves
  · exact satisfies
  · exact satisfies

namespace Session

variable {property : Bindings → Prop} {run next : Session → Outcome Fault}

/-- From variables with the property the run only leads to such variables. -/
def Preserves (property : Bindings → Prop) (run : Session → Outcome Fault) : Prop :=
  ∀ s : Session, property s.vars → (run s).Satisfies property

/-- Doing nothing preserves every property of the variables. -/
lemma preserves_done : Preserves property fun s => .done s :=
  fun _ holds => holds

/-- Two runs that preserve a property preserve it in a row. -/
lemma Preserves.andThen (head : Preserves property run) (tail : Preserves property next) :
    Preserves property fun s => (run s).andThen next := by
  intro s holds
  have first := head s holds
  show ((run s).andThen next).Satisfies property
  cases ran : run s with
  | done middle =>
    rw [ran] at first
    exact tail middle first
  | failed cause middle =>
    rw [ran] at first
    exact first
  | outOfFuel => trivial

/-- A computation does not touch the variables, and if it has a result, the run goes on with it. -/
lemma preserves_perform {α : Type} {result : α → Prop} {action : Bindings → Writing α}
    {step : α → Session → Outcome Fault}
    (yields : ∀ vars, property vars → (action vars).Yields result)
    (steps : ∀ value, result value → Preserves property (step value)) :
    Preserves property fun s => .ofResult step (s.perform action) := by
  intro s holds
  have results := yields s.vars holds s.sink
  simp only [perform]
  rcases acted : action s.vars s.sink with ⟨fault | value, taken⟩
  · exact holds
  · rw [acted] at results
    exact steps value (results value rfl) { s with sink := taken } holds

/-- If the run can go on from every result, it does not matter which one there is. -/
lemma preserves_perform_of_steps {α : Type} {action : Bindings → Writing α}
    {step : α → Session → Outcome Fault} (steps : ∀ value, Preserves property (step value)) :
    Preserves property fun s => .ofResult step (s.perform action) := by
  have yields : ∀ vars, property vars → (action vars).Yields fun _ => True :=
    fun _ _ _ _ _ => trivial
  exact preserves_perform yields fun value _ => steps value

/-- A test decides how the run goes on. -/
lemma preserves_test {condition : Expr} {step : Bool → Session → Outcome Fault}
    (steps : ∀ holds, Preserves property (step holds)) :
    Preserves property fun s => .ofResult step (s.test condition) :=
  preserves_perform_of_steps steps

/-- The repetition preserves what its body preserves. -/
lemma preserves_repeatWhile {condition : Expr} {body : Session → Outcome Fault}
    (bodies : Preserves property body) (fuel : Nat) :
    Preserves property (repeatWhile condition body fuel) := by
  induction fuel with
  | zero => exact fun _ _ => trivial
  | succ fuel ih =>
    rw [funext (repeatWhile_succ condition body fuel)]
    apply preserves_test
    intro holds
    cases holds with
    | false => exact preserves_done
    | true => exact bodies.andThen ih

end Session

open Session

/-- Statements preserve in a row what they preserve one by one. -/
lemma Stmt.execAll_preserves {property : Bindings → Prop} {enter : Stmt → Session → Session}
    {fuel : Nat} {stmts : List Stmt}
    (each : ∀ stmt ∈ stmts, Preserves property (stmt.exec enter fuel)) :
    Preserves property (Stmt.execAll enter fuel stmts) := by
  induction stmts with
  | nil =>
    intro s holds
    rw [Stmt.execAll]
    exact holds
  | cons stmt more ih =>
    obtain ⟨first, others⟩ := List.forall_mem_cons.1 each
    rw [funext (Stmt.execAll_cons enter fuel stmt more)]
    exact first.andThen (ih others)

/-- A well-formed statement keeps the variables sound. -/
lemma Stmt.WellFormed.exec_sound {origin : Nat} {stmt : Stmt} (formed : stmt.WellFormed)
    (fuel : Nat) : Preserves (Bindings.Sound origin) (stmt.exec (fun _ s => s) fuel) := by
  have values : ∀ (e : Expr) (vars : Bindings), vars.Sound origin →
      (e.eval vars).Yields (Value.Owned origin) := fun e _ sound => e.eval_owned sound.owned
  induction formed with
  | @expr e action noKeyword =>
    intro s sound
    rw [Stmt.exec]
    exact preserves_perform (values e) (fun _ _ => preserves_done) s sound
  | @assign name value named noKeyword source =>
    intro s sound
    rw [Stmt.exec]
    apply preserves_perform (values value) _ s sound
    intro result owned s sound
    exact sound.define named noKeyword owned
  | @ifThen condition body test block ih =>
    rw [funext (Stmt.exec_ifThen (fun _ s => s) fuel condition body)]
    apply preserves_test
    intro holds
    cases holds with
    | false => exact preserves_done
    | true => exact Stmt.execAll_preserves ih
  | @whileDo condition body test block ih =>
    rw [funext (Stmt.exec_whileDo (fun _ s => s) fuel condition body)]
    apply preserves_test
    intro _
    exact preserves_repeatWhile (Stmt.execAll_preserves ih) fuel

/-! ## Source texts -/

namespace Session

variable {origin fuel : Nat} {source : String} {s : Session}

/-- Running a source text keeps the variables sound, however the run ends. -/
lemma run_sound (source : String) (sound : s.vars.Sound origin) :
    (s.run fuel source).Satisfies (Bindings.Sound origin) := by
  rw [run, runBy]
  cases read : Program.ofSource source with
  | error e => exact sound
  | ok program =>
    have formed := Program.wellFormed_of_ofSource read
    have ran := Stmt.execAll_preserves (fun stmt member => (formed stmt member).exec_sound fuel)
      s sound
    rw [← Program.run] at ran
    show ((program.run fuel s).mapCause _).Satisfies _
    cases outcome : program.run fuel s with
    | done last | failed fault last =>
      rw [outcome] at ran
      exact ran
    | outOfFuel => trivial

/-- The session that runs of the source texts one after the other lead to, each of them through or
failed with some fuel. What becomes of the sink in the meantime is not the session's doing. -/
inductive Reaches (start : Session) : List String → Session → Prop where
  | start : Reaches start [] start
  | step {sources : List String} {middle last : Session} {source : String} (fuel : Nat)
      (sink : Sink) (before : Reaches start sources middle)
      (leaves : (run fuel source { middle with sink }).Leaves last) :
      Reaches start (sources ++ [source]) last

/-- What holds of the variables at the start and is kept by every run holds of all that follow. -/
lemma Reaches.property {property : Bindings → Prop} {start s : Session}
    {sources : List String} (reaches : Reaches start sources s) (first : property start.vars)
    (kept : ∀ (fuel : Nat) (source : String) (s : Session), property s.vars →
      (s.run fuel source).Satisfies property) : property s.vars := by
  induction reaches with
  | start => exact first
  | @step sources middle last source fuel sink before leaves ih =>
    exact (kept fuel source { middle with sink } ih).of_leaves leaves

/-- Whatever a session has run, its variables are sound. -/
theorem vars_sound_of_reaches (origin : Nat) (sink : Sink) (sources : List String) (s : Session)
    (reaches : Reaches (fresh origin sink) sources s) : s.vars.Sound origin := by
  apply reaches.property (sound_builtins origin)
  intro fuel source s sound
  exact run_sound source sound

/-- A run that is through, one that fails at a name, a text that is no program, and a run whose
output is refused. -/
theorem vars_sound_of_reaches_rebound :
    ∃ s : Session,
      Reaches (fresh 7 (.limited 3 "sink full"))
        ["log=print;", "true=log;x;", "if", "print=log(log,);"] s ∧
      s.vars.find? "true" = some (.function (.print 7)) ∧ s.vars.Sound 7 := by
  have first : Reaches (fresh 7 (.limited 3 "sink full")) ["log=print;"] _ :=
    .step 0 (.limited 3 "sink full") .start (.inl rfl)
  have second : Reaches _ ["log=print;", "true=log;x;"] _ :=
    first.step 0 (.limited 3 "sink full") (.inr ⟨_, rfl⟩)
  have third : Reaches _ ["log=print;", "true=log;x;", "if"] _ :=
    second.step 0 (.limited 3 "sink full") (.inr ⟨_, rfl⟩)
  have fourth : Reaches _ ["log=print;", "true=log;x;", "if", "print=log(log,);"] _ :=
    third.step 0 (.limited 3 "sink full") (.inr ⟨_, rfl⟩)
  exact ⟨_, fourth, rfl, vars_sound_of_reaches _ _ _ _ fourth⟩

end Session

end Scriptlet
