import Scriptlet.Proofs.Session.Calls
import Scriptlet.Proofs.Session.Invariant
import Scriptlet.Proofs.Value.Text

/-!
# How calls find their function

A call looks up the text of its callee's value. In a session that has only run source texts, every
name in the table can be written down, every function is the session's own, and `print` is bound. So
the text of a function leads back to that function or to nothing callable, the texts of most numbers
lead nowhere, and the texts of the other values lead to whatever the variable of that name holds.
All this holds in the middle of a program as well (`Session.Arises`).
-/

namespace Scriptlet

/-! ## The sessions that arise -/

/-- The run of the program comes from the first session to the second, which is the one before a
statement, before a test of a loop, or at the end. -/
inductive Program.Meets : Program → Session → Session → Prop where
  | here (program : Program) (s : Session) : Meets program s s
  | next {stmt : Stmt} {more : List Stmt} {s middle t : Session} (ran : stmt.Ends s (.done middle))
      (meets : Meets more middle t) : Meets (stmt :: more) s t
  | ifThen {condition : Expr} {body more : List Stmt} {s middle t : Session}
      (tested : s.test condition = (.ok true, middle)) (meets : Meets body middle t) :
      Meets (.ifThen condition body :: more) s t
  | whileDo {condition : Expr} {body more : List Stmt} {s middle t : Session}
      (tested : s.test condition = (.ok true, middle)) (meets : Meets body middle t) :
      Meets (.whileDo condition body :: more) s t
  | again {condition : Expr} {body more : List Stmt} {s middle next t : Session}
      (tested : s.test condition = (.ok true, middle)) (ran : Program.Ends body middle (.done next))
      (meets : Meets (.whileDo condition body :: more) next t) :
      Meets (.whileDo condition body :: more) s t

/-- The session comes up when source texts are run one after the other in a new session: between two
of them, or while one of them is running. -/
inductive Session.Arises (origin : Nat) : Session → Prop where
  | between {sink : Sink} {sources : List String} {s : Session}
      (reaches : Reaches (fresh origin sink) sources s) : Arises origin s
  | during {sink : Sink} {sources : List String} {s t : Session} {source : String}
      {program : Program} (taken : Sink) (reaches : Reaches (fresh origin sink) sources s)
      (accepted : Program.ofSource source = .ok program)
      (meets : program.Meets { s with sink := taken } t) : Arises origin t

section Soundness

variable {origin : Nat}

/-- A statement that is through leaves sound variables behind. -/
lemma Stmt.WellFormed.sound_of_ends {stmt : Stmt} (formed : stmt.WellFormed) {s next : Session}
    (ran : stmt.Ends s (.done next)) (sound : s.vars.Sound origin) : next.vars.Sound origin := by
  obtain ⟨-, fuel, ran⟩ := ran
  exact (formed.exec_sound fuel s sound).of_leaves (.inl ran)

/-- A program that is through leaves sound variables behind. -/
lemma Program.WellFormed.sound_of_ends {program : Program} (formed : program.WellFormed)
    {s next : Session} (ran : program.Ends s (.done next)) (sound : s.vars.Sound origin) :
    next.vars.Sound origin := by
  obtain ⟨-, fuel, ran⟩ := ran
  have kept := Stmt.execAll_preserves (fun stmt member => (formed stmt member).exec_sound fuel)
    s sound
  exact kept.of_leaves (.inl ran)

/-- A well-formed program comes through sound variables only. -/
lemma Program.WellFormed.sound_of_meets {program : Program} {s t : Session}
    (formed : program.WellFormed) (meets : program.Meets s t) (sound : s.vars.Sound origin) :
    t.vars.Sound origin := by
  induction meets with
  | here program s => exact sound
  | next ran meets ih =>
    obtain ⟨head, others⟩ := List.forall_mem_cons.1 formed
    exact ih others (head.sound_of_ends ran sound)
  | ifThen tested meets ih =>
    obtain ⟨-, rfl⟩ := Session.test_eq_ok_iff.1 tested
    cases formed _ List.mem_cons_self with
    | ifThen test block => exact ih block sound
  | whileDo tested meets ih =>
    obtain ⟨-, rfl⟩ := Session.test_eq_ok_iff.1 tested
    cases formed _ List.mem_cons_self with
    | whileDo test block => exact ih block sound
  | again tested ran meets ih =>
    obtain ⟨-, rfl⟩ := Session.test_eq_ok_iff.1 tested
    cases formed _ List.mem_cons_self with
    | whileDo test block => exact ih formed (Program.WellFormed.sound_of_ends block ran sound)

/-- Every session that arises has sound variables, also in the middle of a program. -/
lemma Session.Arises.sound {s : Session} (arises : s.Arises origin) : s.vars.Sound origin := by
  have reached : ∀ {sink : Sink} {sources : List String} {s : Session},
      Reaches (fresh origin sink) sources s → s.vars.Sound origin := fun reaches =>
    reaches.property (sound_builtins origin) fun _ source _ sound => run_sound source sound
  cases arises with
  | between reaches => exact reached reaches
  | during taken reaches accepted meets =>
    have sound := reached reaches
    exact (Program.wellFormed_of_ofSource accepted).sound_of_meets meets sound

end Soundness

/-! ## The names that calls go by -/

/-- The values other than functions whose text is a name, and the name. -/
inductive Value.Worded : Value → String → Prop where
  | yes : Worded (.boolean true) "True"
  | no : Worded (.boolean false) "False"
  | null : Worded .null "nil"
  | infinite {x : Float} (kind : Magnitude.ofFloat x = .infinite false) : Worded (.number x) "inf"
  | undefined {x : Float} (kind : Magnitude.ofFloat x = .undefined) : Worded (.number x) "NaN"

/-- The name that belongs to a value is its text. -/
lemma Value.Worded.text_eq {value : Value} {name : String} (worded : value.Worded name) :
    value.text = name := by
  cases worded with
  | yes | no | null => rfl
  | infinite kind | undefined kind =>
    rw [text, Number.text, kind]
    rfl

/-- A call that goes by the name has the result: that of the function if the name is bound to one,
with the arguments evaluated first, and otherwise a fault about the name, before any argument is
looked at. -/
structure Bindings.Dispatches (vars : Bindings) (name : String) (arguments : Option (List Expr))
    (sink : Sink) (result : Except Fault Value × Sink) : Prop where
  function : ∀ f, vars.find? name = some (.function f) →
    result = (Expr.evalArguments vars arguments >>= f.run) sink
  other : ∀ value, vars.find? name = some value → (∀ f, value ≠ .function f) →
    result = (.error (.notCallable name), sink)
  unbound : vars.find? name = none → result = (.error (.unknownFunction name), sink)

/-- A call goes by the text of its callee's value. -/
lemma Expr.dispatches_text {vars : Bindings} {callee : Expr} {sink after : Sink} {value : Value}
    (evaluated : callee.eval vars sink = (.ok value, after)) (arguments : Option (List Expr)) :
    vars.Dispatches value.text arguments after ((Expr.invoke callee arguments).eval vars sink) := by
  rw [Expr.eval, Writing.bind_apply, evaluated]
  constructor
  · intro f bound
    simp only [Bindings.function, bound]
    rfl
  · intro held bound noFunction
    cases held with
    | function f => exact absurd rfl (noFunction f)
    | number | boolean | null =>
      simp only [Bindings.function, bound]
      rfl
  · intro missing
    simp only [Bindings.function, missing]
    rfl

/-- A call that does not find a function ends there. Only the callee has been evaluated. -/
lemma Expr.eval_and_calls_of_no_function {vars : Bindings} {callee : Expr} {sink after : Sink}
    {value : Value} {fault : Fault} (evaluated : callee.eval vars sink = (.ok value, after))
    (refused : vars.function value.text = .error fault) (arguments : Option (List Expr)) :
    (Expr.invoke callee arguments).eval vars sink = (.error fault, after) ∧
      (Expr.invoke callee arguments).calls vars sink = callee.calls vars sink := by
  constructor
  · rw [Expr.eval, Writing.bind_apply, evaluated]
    simp only [refused]
    rfl
  · rw [Expr.calls, evaluated]
    simp [Call.following, Writing.ofResult, refused]

/-- Sound variables bind nothing but names. -/
lemma Bindings.Sound.find?_eq_none {origin : Nat} {vars : Bindings} {name : String}
    (sound : vars.Sound origin) (noName : ¬ Text.IsName name) : vars.find? name = none := by
  cases found : vars.find? name with
  | none => rfl
  | some value => exact absurd (sound.named found).1 noName

/-- How a call comes out in any session that arises, by the value of its callee. A function leads to
`print`, which is bound; if it is bound to a function, it is the same one. A finite number leads
nowhere, nor does the number below all finite ones. Every other value leads to the variable that is
named like its text. Where no function is found, no argument is evaluated. -/
theorem Session.call_resolution (origin : Nat) (s : Session) (arises : s.Arises origin)
    (callee : Expr) (arguments : Option (List Expr)) (sink after : Sink) (value : Value)
    (evaluated : callee.eval s.vars sink = (.ok value, after)) :
    (∀ f, value = .function f →
      s.vars.Dispatches "print" arguments after ((Expr.invoke callee arguments).eval s.vars sink) ∧
      s.vars.find? "print" ≠ none ∧ ∀ g, s.vars.find? "print" = some (.function g) → g = f) ∧
    (∀ x, value = .number x →
      ((∃ negative size, Magnitude.ofFloat x = .finite negative size) ∨
        Magnitude.ofFloat x = .infinite true) →
      (Expr.invoke callee arguments).eval s.vars sink =
        (.error (.unknownFunction value.text), after)) ∧
    (∀ name, value.Worded name →
      s.vars.Dispatches name arguments after ((Expr.invoke callee arguments).eval s.vars sink)) ∧
    (∀ fault, s.vars.function value.text = .error fault →
      (Expr.invoke callee arguments).eval s.vars sink = (.error fault, after) ∧
      (Expr.invoke callee arguments).calls s.vars sink = callee.calls s.vars sink) := by
  have sound := arises.sound
  have dispatches := Expr.dispatches_text evaluated arguments
  refine ⟨?_, ?_, ?_, ?_⟩
  · rintro f rfl
    -- the callee's function and the one bound to the name are both the session's own
    have own : f = .print origin :=
      callee.eval_owned sound.owned sink (.function f) (congrArg Prod.fst evaluated)
    subst own
    refine ⟨dispatches, ?_, fun g bound => sound.owned bound⟩
    obtain ⟨held, bound⟩ := sound.given "print" (by simp)
    rw [bound]
    exact nofun
  · rintro x rfl kind
    obtain ⟨c, first, other⟩ := Number.head?_text kind
    exact dispatches.unbound (sound.find?_eq_none (Text.not_isName_of_head? first other))
  · intro name worded
    rw [worded.text_eq] at dispatches
    exact dispatches
  · intro fault refused
    exact Expr.eval_and_calls_of_no_function evaluated refused arguments

/-- Another name of the function has become useless, and the empty value can be called. -/
theorem Session.call_resolution_rebound :
    ∃ s : Session, s.Arises 3 ∧
      (Expr.call (.variable "f") [.variable "true"]).eval s.vars .unlimited =
        (.error (.notCallable "print"), .unlimited) ∧
      (Expr.call (.variable "n") [.variable "true"]).eval s.vars .unlimited =
        (.ok .null, { Sink.unlimited with written := "True\n".toUTF8.data }) := by
  have reaches : Reaches (fresh 3 .unlimited) ["f=print;n=f();nil=f;print=true;"] _ :=
    .step 0 .unlimited .start (.inl rfl)
  obtain ⟨function, -⟩ := call_resolution 3 _ (.between reaches) (.variable "f")
    (some [.variable "true"]) .unlimited .unlimited (.function (.print 3)) rfl
  obtain ⟨-, -, worded, -⟩ := call_resolution 3 _ (.between reaches) (.variable "n")
    (some [.variable "true"]) .unlimited .unlimited .null rfl
  have useless := (function (.print 3) rfl).1.other (.boolean true) rfl nofun
  have called := (worded "nil" .null).function (.print 3) rfl
  exact ⟨_, .between reaches, useless, called.trans rfl⟩

end Scriptlet
