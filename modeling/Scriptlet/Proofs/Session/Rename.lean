import Mathlib.Logic.Equiv.Basic
import Scriptlet.Proofs.Program.Rename
import Scriptlet.Proofs.Session.Invariant

/-!
# Running a renamed program

A program and the same program with its variables renamed run in step, each in a session of its own:
after every statement the second session is the first with the names in its table renamed. A call
looks up the text of a value, which need not be a variable of the program. Such a text is a name
that no renaming touches, or it is no name, and then neither session has bound it
(`Bindings.function_rename`).
-/

namespace Scriptlet

/-! ## Renamed tables -/

/-- The same function of another session. -/
def Builtin.movedTo (origin : Nat) : Builtin → Builtin
  | .print _ => .print origin

/-- The same value in another session, whose functions have the given origin. -/
def Value.movedTo (origin : Nat) : Value → Value
  | .function f => .function (f.movedTo origin)
  | value => value

/-- A value has the same text in every session. -/
@[simp]
lemma Value.text_movedTo (origin : Nat) (value : Value) :
    (value.movedTo origin).text = value.text := by
  cases value with
  | function f =>
    obtain ⟨_⟩ := f
    rfl
  | number | boolean | null => rfl

section Renamed

variable (ρ : Renaming) (origin : Nat)

/-- The same fault of the renamed program in another session. -/
def Fault.rename : Fault → Fault
  | .undefinedVariable name => .undefinedVariable (ρ name)
  | .unknownFunction name => .unknownFunction name
  | .notCallable name => .notCallable name
  | .incompatible op left right => .incompatible op (left.movedTo origin) (right.movedTo origin)
  | .nonBoolean value => .nonBoolean (value.movedTo origin)
  | .illegalNegation value => .illegalNegation (value.movedTo origin)
  | .unknownOperator symbol => .unknownOperator symbol
  | .invalidTarget target => .invalidTarget (target.rename ρ)
  | .output reason => .output reason

/-- The table with its names renamed and the same values. -/
def Bindings.rename (vars : Bindings) : Bindings :=
  ⟨vars.entries.map fun entry => (ρ entry.1, entry.2.movedTo origin)⟩

/-- The session with its names renamed and the same values and output. -/
def Session.rename (s : Session) : Session :=
  ⟨s.vars.rename ρ origin, s.sink, s.journal.map (Stmt.rename ρ)⟩

/-- The same outcome of the renamed program. -/
def Outcome.rename : Outcome Fault → Outcome Fault
  | .done s => .done (s.rename ρ origin)
  | .failed fault s => .failed (fault.rename ρ origin) (s.rename ρ origin)
  | .outOfFuel => .outOfFuel

namespace Bindings

/-- Every name in the table can be written down. -/
def Named (vars : Bindings) : Prop :=
  ∀ entry ∈ vars.entries, Text.IsName entry.1

/-- The names of sound variables can all be written down. -/
lemma Sound.all_named {own : Nat} {vars : Bindings} (sound : vars.Sound own) : vars.Named := by
  intro entry member
  have bound : ∃ value, vars.find? entry.1 = some value := by
    rw [← Option.isSome_iff_exists, find?, List.lookup_isSome_iff]
    exact ⟨entry, member, beq_self_eq_true entry.1⟩
  obtain ⟨value, found⟩ := bound
  exact (sound.named found).1

variable {vars : Bindings} {name : String}

/-- A renamed table has the value of a name at the new name. -/
lemma find?_rename (named : vars.Named) (isName : Text.IsName name) :
    (vars.rename ρ origin).find? (ρ name) = (vars.find? name).map (Value.movedTo origin) := by
  obtain ⟨entries⟩ := vars
  simp only [find?, rename]
  induction entries with
  | nil => rfl
  | cons entry rest ih =>
    obtain ⟨bound, value⟩ := entry
    obtain ⟨isBound, others⟩ := List.forall_mem_cons.1 named
    rw [List.map_cons, List.lookup_cons, List.lookup_cons]
    by_cases same : name = bound
    · subst same
      simp
    · have distinct : ρ name ≠ ρ bound := fun equal => same (ρ.injective isName isBound equal)
      rw [beq_false_of_ne same, beq_false_of_ne distinct]
      exact ih others

/-- What is no name is bound neither before nor after. -/
lemma find?_of_not_isName (named : vars.Named) (noName : ¬ Text.IsName name) :
    vars.find? name = none := by
  rw [find?, List.lookup_eq_none_iff]
  intro entry member
  apply bne_iff_ne.2
  rintro rfl
  exact noName (named entry member)

/-- The names of a renamed table can be written down as well. -/
lemma Named.rename (named : vars.Named) : (vars.rename ρ origin).Named := by
  intro entry member
  obtain ⟨old, among, rfl⟩ := List.mem_map.1 member
  exact ρ.named (named old among)

/-- A definition can be made before or after the renaming. -/
lemma rename_define (named : vars.Named) (isName : Text.IsName name) (value : Value) :
    (vars.define name value).rename ρ origin =
      (vars.rename ρ origin).define (ρ name) (value.movedTo origin) := by
  obtain ⟨entries⟩ := vars
  simp only [define, rename, mk.injEq]
  induction entries with
  | nil => rfl
  | cons entry rest ih =>
    obtain ⟨bound, old⟩ := entry
    obtain ⟨isBound, others⟩ := List.forall_mem_cons.1 named
    by_cases same : bound = name
    · simp [define.go, same]
    · have distinct : ρ bound ≠ ρ name := fun equal => same (ρ.injective isBound isName equal)
      simp only [define.go, if_neg same, if_neg distinct, List.map_cons, ih others]

/-- A lookup in a renamed table has the same value, or the fault about the new name. -/
lemma get_rename (named : vars.Named) (isName : Text.IsName name) :
    (vars.rename ρ origin).get (ρ name) =
      ((vars.get name).map (Value.movedTo origin)).mapError (Fault.rename ρ origin) := by
  rw [get, get, find?_rename ρ origin named isName]
  cases vars.find? name <;> rfl

/-- A call finds the same function in the renamed table. -/
lemma function_rename (named : vars.Named) (value : Value) :
    (vars.rename ρ origin).function value.text =
      ((vars.function value.text).map (Builtin.movedTo origin)).mapError
        (Fault.rename ρ origin) := by
  have found : (vars.rename ρ origin).find? value.text =
      (vars.find? value.text).map (Value.movedTo origin) := by
    rcases value.text_mem_or_not_isName with among | noName
    · have kept : ∀ text ∈ Value.texts, Text.IsName text ∧ text ∈ Renaming.kept := by decide
      obtain ⟨isName, fixed⟩ := kept _ among
      have renamed := find?_rename ρ origin named isName
      rwa [ρ.fixed _ fixed] at renamed
    · rw [find?_of_not_isName named noName, find?_of_not_isName (named.rename ρ origin) noName]
      rfl
  rw [function, function, found]
  rcases vars.find? value.text with _ | ⟨_ | _ | _ | _⟩ <;> rfl

end Bindings

/-- A fresh session stays one, since the names of its variables are kept. -/
lemma Session.rename_fresh (own : Nat) (sink : Sink) :
    (Session.fresh own sink).rename ρ origin = Session.fresh origin sink := by
  have kept := ρ.fixed
  simp only [Renaming.kept, List.forall_mem_cons] at kept
  obtain ⟨yes, no, print, -⟩ := kept
  simp only [fresh, Session.rename, List.map_nil, Session.mk.injEq, and_true]
  show Bindings.mk [(ρ "true", _), (ρ "false", _), (ρ "print", _)] = _
  rw [yes, no, print]
  rfl

/-! ## Expressions -/

namespace Writing

variable {α β γ δ : Type} {result : α → β} {result' : γ → δ} {cause : Fault → Fault}

/-- The second computation writes what the first one writes, and it has the corresponding result or
fault. -/
def Mirrors (result : α → β) (cause : Fault → Fault) (first : Writing α) (second : Writing β) :
    Prop :=
  ∀ sink, second sink = (((first sink).1.map result).mapError cause, (first sink).2)

/-- A value by itself mirrors itself. -/
lemma mirrors_pure (value : α) :
    Mirrors result cause (pure value : Writing α) (pure (result value)) :=
  fun _ => rfl

/-- Results that are there already mirror each other, if they correspond. -/
lemma mirrors_ofResult {first : Except Fault α} {second : Except Fault β}
    (same : second = (first.map result).mapError cause) :
    Mirrors result cause (ofResult first) (ofResult second) := by
  intro sink
  rw [same]
  rfl

/-- Two computations mirror others in a row, if both do. -/
lemma Mirrors.bind {first : Writing α} {second : Writing β} {next : α → Writing γ}
    {next' : β → Writing δ} (head : Mirrors result cause first second)
    (tail : ∀ value, Mirrors result' cause (next value) (next' (result value))) :
    Mirrors result' cause (first >>= next) (second >>= next') := by
  intro sink
  rw [bind_apply, bind_apply, head sink]
  rcases first sink with ⟨fault | value, taken⟩
  · rfl
  · exact tail value taken

/-- A write that is refused has nothing to do with names. -/
lemma mirrors_lines (texts : List String) :
    Mirrors id (Fault.rename ρ origin) (lines texts) (lines texts) := by
  induction texts with
  | nil => exact mirrors_pure ()
  | cons text rest ih =>
    have head : Mirrors id (Fault.rename ρ origin) (line text) (line text) := by
      intro sink
      rw [line]
      rcases sink.write (text ++ "\n") with ⟨_ | _, _⟩ <;> rfl
    exact head.bind fun _ => ih

end Writing

open Writing

/-- A function of another session prints the same, since values have the same texts there. -/
lemma Builtin.run_mirrors (f : Builtin) (values : List Value) :
    Mirrors (Value.movedTo origin) (Fault.rename ρ origin) (f.run values)
      ((f.movedTo origin).run (values.map (Value.movedTo origin))) := by
  obtain ⟨own⟩ := f
  have texts : (values.map (Value.movedTo origin)).map Value.text = values.map Value.text := by
    simp
  rw [Builtin.movedTo, Builtin.run, Builtin.run, texts]
  exact (mirrors_lines ρ origin _).bind fun _ => mirrors_pure Value.null

/-- An operator on numbers has a value that is the same in every session. -/
lemma Operator.onNumbers_movedTo (op : Operator) (a b : Float) :
    (op.onNumbers a b).movedTo origin = op.onNumbers a b := by
  cases op <;> rfl

/-- A binary operation has the same value in another session, or the same fault. -/
lemma Operator.applySymbol_movedTo (symbol : String) (left right : Value) :
    Operator.applySymbol symbol (left.movedTo origin) (right.movedTo origin) =
      ((Operator.applySymbol symbol left right).map (Value.movedTo origin)).mapError
        (Fault.rename ρ origin) := by
  rw [Operator.applySymbol, Operator.applySymbol]
  cases Operator.ofSymbol? symbol with
  | none => rfl
  | some op =>
    cases left with
    | number a =>
      cases right with
      | number b => exact congrArg Except.ok (op.onNumbers_movedTo origin a b).symm
      | boolean | null | function => cases op <;> rfl
    | boolean | null | function => cases right <;> cases op <;> rfl

/-- A value has the same truth in every session, or the same fault. -/
lemma Value.truth_movedTo (value : Value) :
    (value.movedTo origin).truth = (value.truth.map id).mapError (Fault.rename ρ origin) := by
  cases value <;> rfl

section Evaluation

variable {vars : Bindings}

/-- Expressions that mirror others one by one mirror them from left to right. -/
lemma Expr.evalAll_mirrors {list : List Expr}
    (each : ∀ e ∈ list, Mirrors (Value.movedTo origin) (Fault.rename ρ origin) (e.eval vars)
      ((e.rename ρ).eval (vars.rename ρ origin))) :
    Mirrors (List.map (Value.movedTo origin)) (Fault.rename ρ origin) (Expr.evalAll vars list)
      (Expr.evalAll (vars.rename ρ origin) (list.map (Expr.rename ρ))) := by
  induction list with
  | nil =>
    rw [List.map_nil, Expr.evalAll, Expr.evalAll]
    exact mirrors_pure []
  | cons e list ih =>
    obtain ⟨head, others⟩ := List.forall_mem_cons.1 each
    rw [List.map_cons, Expr.evalAll, Expr.evalAll]
    apply head.bind
    intro value
    apply (ih others).bind
    intro values
    exact mirrors_pure (value :: values)

/-- Arguments that mirror others one by one mirror them in a call. -/
lemma Expr.evalArguments_mirrors {arguments : Option (List Expr)}
    (each : ∀ list ∈ arguments, ∀ e ∈ list, Mirrors (Value.movedTo origin) (Fault.rename ρ origin)
      (e.eval vars) ((e.rename ρ).eval (vars.rename ρ origin))) :
    Mirrors (List.map (Value.movedTo origin)) (Fault.rename ρ origin)
      (Expr.evalArguments vars arguments)
      (Expr.evalArguments (vars.rename ρ origin) (arguments.map (List.map (Expr.rename ρ)))) := by
  cases arguments with
  | none =>
    rw [Option.map_none, Expr.evalArguments, Expr.evalArguments]
    exact mirrors_pure []
  | some list =>
    rw [Option.map_some, Expr.evalArguments, Expr.evalArguments]
    exact Expr.evalAll_mirrors ρ origin (each list rfl)

variable {ρ origin}

/-- A binary operation mirrors its renaming, if both operands do. -/
lemma Expr.eval_binary_mirrors (symbol : String) {left right : Expr}
    (first : Mirrors (Value.movedTo origin) (Fault.rename ρ origin) (left.eval vars)
      ((left.rename ρ).eval (vars.rename ρ origin)))
    (second : Mirrors (Value.movedTo origin) (Fault.rename ρ origin) (right.eval vars)
      ((right.rename ρ).eval (vars.rename ρ origin))) :
    Mirrors (Value.movedTo origin) (Fault.rename ρ origin)
      ((Expr.binary symbol left right).eval vars)
      (((Expr.binary symbol left right).rename ρ).eval (vars.rename ρ origin)) := by
  rw [Expr.rename, Expr.eval, Expr.eval]
  apply first.bind
  intro a
  apply second.bind
  intro b
  exact mirrors_ofResult (Operator.applySymbol_movedTo ρ origin symbol a b)

/-- A well-formed expression has the same value after renaming, over the renamed table. -/
lemma Expr.WellFormed.eval_mirrors {rank : Expr.Rank} {e : Expr} (formed : e.WellFormed rank)
    (named : vars.Named) :
    Mirrors (Value.movedTo origin) (Fault.rename ρ origin) (e.eval vars)
      ((e.rename ρ).eval (vars.rename ρ origin)) := by
  induction formed with
  | @number value literal =>
    rw [Expr.rename, Expr.eval, Expr.eval]
    exact mirrors_pure (Value.number value)
  | name isName =>
    rw [Expr.rename, Expr.eval, Expr.eval]
    exact mirrors_ofResult (Bindings.get_rename ρ origin named isName)
  | group whole ih =>
    rw [Expr.rename, Expr.eval, Expr.eval]
    exact ih
  | invoke first solid all ihFirst ihAll =>
    rw [Expr.rename_invoke, Expr.eval, Expr.eval]
    apply ihFirst.bind
    intro value
    rw [Value.text_movedTo]
    apply (mirrors_ofResult (Bindings.function_rename ρ origin named value)).bind
    intro f
    apply (Expr.evalArguments_mirrors ρ origin ihAll).bind
    intro values
    exact f.run_mirrors ρ origin values
  | ofPrimary whole ih | ofProduct whole ih | ofSum whole ih | ofChain whole ih => exact ih
  | product among first second ihFirst ihSecond | sum among first second ihFirst ihSecond
  | comparison among first second ihFirst ihSecond
  | longer among first second ihFirst ihSecond => exact Expr.eval_binary_mirrors _ ihFirst ihSecond

/-- The test of a condition mirrors that of the renamed condition. -/
lemma Expr.WellFormed.holds_mirrors {condition : Expr} (formed : condition.WellFormed .expression)
    (named : vars.Named) :
    Mirrors id (Fault.rename ρ origin) (condition.holds vars)
      ((condition.rename ρ).holds (vars.rename ρ origin)) := by
  rw [Expr.holds, Expr.holds]
  apply (formed.eval_mirrors named).bind
  intro value
  exact mirrors_ofResult (value.truth_movedTo ρ origin)

end Evaluation

/-! ## Statements -/

namespace Session

variable (own : Nat)

/-- From sound variables the second run does after renaming what the first does. -/
def Mirrors (run run' : Session → Outcome Fault) : Prop :=
  ∀ s : Session, s.vars.Sound own → run' (s.rename ρ origin) = (run s).rename ρ origin

variable {ρ origin own} {run run' next next' : Session → Outcome Fault}

/-- Doing nothing mirrors itself. -/
lemma mirrors_done : Mirrors ρ origin own (fun s => .done s) fun s => .done s :=
  fun _ _ => rfl

/-- Two runs mirror others in a row, if the variables stay sound in between. -/
lemma Mirrors.andThen (head : Mirrors ρ origin own run run')
    (keeps : Preserves (Bindings.Sound own) run) (tail : Mirrors ρ origin own next next') :
    Mirrors ρ origin own (fun s => (run s).andThen next) fun s => (run' s).andThen next' := by
  intro s sound
  have kept := keeps s sound
  show (run' (s.rename ρ origin)).andThen next' = ((run s).andThen next).rename ρ origin
  rw [head s sound]
  cases ran : run s with
  | done middle =>
    rw [ran] at kept
    exact tail middle kept
  | failed fault last => rfl
  | outOfFuel => rfl

/-- A computation and what is done with its value mirror others, if both do. -/
lemma mirrors_perform {α β : Type} {result : α → β} {action : Bindings → Writing α}
    {action' : Bindings → Writing β} {step : α → Session → Outcome Fault}
    {step' : β → Session → Outcome Fault}
    (acts : ∀ {vars : Bindings}, vars.Named →
      (action vars).Mirrors result (Fault.rename ρ origin) (action' (vars.rename ρ origin)))
    (steps : ∀ value, Mirrors ρ origin own (step value) (step' (result value))) :
    Mirrors ρ origin own (fun s => .ofResult step (s.perform action))
      fun s => .ofResult step' (s.perform action') := by
  intro s sound
  have acted : action' (s.rename ρ origin).vars (s.rename ρ origin).sink = _ :=
    acts sound.all_named s.sink
  simp only [perform, acted]
  rcases action s.vars s.sink with ⟨fault | value, sink⟩
  · rfl
  · exact steps value { s with sink } sound

/-- A definition mirrors that of the new name. -/
lemma mirrors_define {name : String} (isName : Text.IsName name) (value : Value) :
    Mirrors ρ origin own (fun s => .done (s.define name value))
      fun s => .done (s.define (ρ name) (value.movedTo origin)) := by
  intro s sound
  simp only [Outcome.rename, define, Session.rename,
    Bindings.rename_define ρ origin sound.all_named isName]

/-- A repetition mirrors the renamed one, if their bodies do. -/
lemma mirrors_repeatWhile {condition : Expr} (formed : condition.WellFormed .expression)
    (bodies : Mirrors ρ origin own run run') (keeps : Preserves (Bindings.Sound own) run)
    (fuel : Nat) :
    Mirrors ρ origin own (repeatWhile condition run fuel)
      (repeatWhile (condition.rename ρ) run' fuel) := by
  induction fuel with
  | zero => exact fun _ _ => rfl
  | succ fuel ih =>
    rw [funext (repeatWhile_succ condition run fuel),
      funext (repeatWhile_succ (condition.rename ρ) run' fuel)]
    apply mirrors_perform formed.holds_mirrors
    intro holds
    cases holds with
    | false => exact mirrors_done
    | true => exact bodies.andThen keeps ih

end Session

open Session

variable {ρ origin} {own fuel : Nat}

/-- Statements that mirror their renaming one by one mirror it in a row. -/
lemma Stmt.execAll_mirrors {stmts : List Stmt} (formed : ∀ stmt ∈ stmts, stmt.WellFormed)
    (each : ∀ stmt ∈ stmts, Session.Mirrors ρ origin own (stmt.exec (fun _ s => s) fuel)
      ((stmt.rename ρ).exec (fun _ s => s) fuel)) :
    Session.Mirrors ρ origin own (Stmt.execAll (fun _ s => s) fuel stmts)
      (Stmt.execAll (fun _ s => s) fuel (Stmt.renameAll ρ stmts)) := by
  induction stmts with
  | nil =>
    intro s _
    rw [Stmt.renameAll, Stmt.execAll, Stmt.execAll]
    rfl
  | cons stmt more ih =>
    obtain ⟨formedHead, formedOthers⟩ := List.forall_mem_cons.1 formed
    obtain ⟨head, others⟩ := List.forall_mem_cons.1 each
    rw [Stmt.renameAll, funext (Stmt.execAll_cons _ fuel stmt more),
      funext (Stmt.execAll_cons _ fuel (stmt.rename ρ) (Stmt.renameAll ρ more))]
    exact head.andThen (formedHead.exec_sound fuel) (ih formedOthers others)

/-- A well-formed statement does after renaming what it did before. -/
lemma Stmt.WellFormed.exec_mirrors {stmt : Stmt} (formed : stmt.WellFormed) :
    Session.Mirrors ρ origin own (stmt.exec (fun _ s => s) fuel)
      ((stmt.rename ρ).exec (fun _ s => s) fuel) := by
  induction formed with
  | @expr e action noKeyword =>
    intro s sound
    rw [Stmt.rename, Stmt.exec, Stmt.exec]
    exact mirrors_perform action.eval_mirrors (fun _ => mirrors_done) s sound
  | @assign name value isName noKeyword source =>
    intro s sound
    rw [Stmt.rename, Expr.rename, Stmt.exec, Stmt.exec]
    exact mirrors_perform source.eval_mirrors (mirrors_define isName) s sound
  | @ifThen condition body test block ih =>
    rw [Stmt.rename, funext (Stmt.exec_ifThen _ fuel condition body),
      funext (Stmt.exec_ifThen _ fuel (condition.rename ρ) (Stmt.renameAll ρ body))]
    apply mirrors_perform test.holds_mirrors
    intro holds
    cases holds with
    | false => exact mirrors_done
    | true => exact Stmt.execAll_mirrors block ih
  | @whileDo condition body test block ih =>
    rw [Stmt.rename, funext (Stmt.exec_whileDo _ fuel condition body),
      funext (Stmt.exec_whileDo _ fuel (condition.rename ρ) (Stmt.renameAll ρ body))]
    apply mirrors_perform test.holds_mirrors
    intro _
    apply mirrors_repeatWhile test (Stmt.execAll_mirrors block ih)
    exact Stmt.execAll_preserves fun stmt member => (block stmt member).exec_sound fuel

/-- The run of a program mirrors that of the renamed program. -/
lemma Program.WellFormed.run_mirrors {program : Program} (formed : program.WellFormed)
    (fuel : Nat) : Session.Mirrors ρ origin own (program.run fuel) ((program.rename ρ).run fuel) :=
  Stmt.execAll_mirrors formed fun stmt member => (formed stmt member).exec_mirrors

end Renamed

/-- The names of variables do not matter. Of a program that a text spells, the renamed program is
spelled by some text, too. With the same fuel and the same sink, each of them in a new session, both
use up their fuel or both end: with the same output, with the same fault but for the name of a
variable without a value, and with the same variables but for their names. -/
theorem Program.run_rename (ρ : Renaming) (source : String) (program : Program)
    (accepted : Program.ofSource source = .ok program) (origin own : Nat) (sink : Sink) :
    (∃ source', Program.ofSource source' = .ok (program.rename ρ)) ∧
    ∀ fuel, (program.rename ρ).run fuel (Session.fresh origin sink) =
      (program.run fuel (Session.fresh own sink)).rename ρ origin := by
  have formed := Program.wellFormed_of_ofSource accepted
  refine ⟨formed.rename.exists_source, ?_⟩
  intro fuel
  have mirrors : Session.Mirrors ρ origin own _ _ := formed.run_mirrors fuel
  rw [← mirrors (Session.fresh own sink) (Session.sound_builtins own), Session.rename_fresh]

/-- Two variables change their names. -/
def Renaming.exchanged : Renaming where
  rename := Equiv.swap "x" "z"
  named := by
    intro name isName
    rw [Equiv.swap_apply_def]
    split
    · decide
    · split
      · decide
      · exact isName
  injective _ _ same := (Equiv.swap "x" "z").injective same
  fixed := by decide

/-- The program prints a value through another name of the function and stops at a variable without
a value. -/
theorem Program.run_rename_exchanged :
    ∃ program last,
      Program.ofSource "x=print;x(true,);y=z;" = .ok program ∧
      program.run 0 (Session.fresh 1 .unlimited) = .failed (.undefinedVariable "z") last ∧
      (program.rename .exchanged).run 0 (Session.fresh 2 .unlimited) =
        .failed (.undefinedVariable "x") (last.rename .exchanged 2) ∧
      last.sink.written = "True\n".toUTF8.data ∧
      (last.rename .exchanged 2).vars.find? "z" = some (.function (.print 2)) := by
  have accepted : Program.ofSource "x=print;x(true,);y=z;" = .ok _ := rfl
  have runs := (Program.run_rename .exchanged _ _ accepted 2 1 .unlimited).2 0
  exact ⟨_, _, accepted, rfl, runs, rfl, rfl⟩

end Scriptlet
