import Scriptlet.Proofs.Session.Calls
import Scriptlet.Proofs.Session.Output

/-!
# What is called and when

The calls of an expression, of statements and of a whole program, in the order in which they are
made. The rules name every place at which an evaluation can stop early, and a call that is not
reached does not occur (`Expr.Performs`, `Program.Performs`). No sink has a part in the rules. Runs
follow them as long as the sink takes everything (`Program.run_reports`), and they leave no choice.
-/

namespace Scriptlet

/-! ## The calls of expressions -/

mutual

/-- Evaluating the expression makes the calls one after the other and has the result. What the
callee and the arguments call comes before the call itself, which is only made if they all have
values and the callee's value leads to a function. -/
inductive Expr.Performs (vars : Bindings) : Expr → List Call → Except Fault Value → Prop where
  | number (x : Float) : Expr.Performs vars (.number x) [] (.ok (.number x))
  | name (name : String) : Expr.Performs vars (.variable name) [] (vars.get name)
  | unfinished (symbol : String) (left : Expr) :
      Expr.Performs vars (.unfinished symbol left) [] (.ok .null)
  | group {inner : Expr} {calls : List Call} {result : Except Fault Value}
      (whole : Expr.Performs vars inner calls result) :
      Expr.Performs vars (.group inner) calls result
  | negate {inner : Expr} {calls : List Call} {result : Except Fault Value}
      (operand : Expr.Performs vars inner calls result) :
      Expr.Performs vars (.negate inner) calls (result.bind Value.negated)
  | leftFails {symbol : String} {left right : Expr} {calls : List Call} {fault : Fault}
      (first : Expr.Performs vars left calls (.error fault)) :
      Expr.Performs vars (.binary symbol left right) calls (.error fault)
  | binary {symbol : String} {left right : Expr} {calls more : List Call} {a : Value}
      {result : Except Fault Value} (first : Expr.Performs vars left calls (.ok a))
      (second : Expr.Performs vars right more result) :
      Expr.Performs vars (.binary symbol left right) (calls ++ more)
        (result.bind (Operator.applySymbol symbol a))
  | calleeFails {callee : Expr} {arguments : Option (List Expr)} {calls : List Call} {fault : Fault}
      (first : Expr.Performs vars callee calls (.error fault)) :
      Expr.Performs vars (.invoke callee arguments) calls (.error fault)
  | unresolved {callee : Expr} {arguments : Option (List Expr)} {calls : List Call} {value : Value}
      {fault : Fault} (first : Expr.Performs vars callee calls (.ok value))
      (resolved : vars.function value.text = .error fault) :
      Expr.Performs vars (.invoke callee arguments) calls (.error fault)
  | argumentFails {callee : Expr} {arguments : Option (List Expr)} {calls more : List Call}
      {value : Value} {f : Builtin} {fault : Fault}
      (first : Expr.Performs vars callee calls (.ok value))
      (resolved : vars.function value.text = .ok f)
      (rest : Expr.PerformsAll vars (arguments.getD []) more (.error fault)) :
      Expr.Performs vars (.invoke callee arguments) (calls ++ more) (.error fault)
  | call {callee : Expr} {arguments : Option (List Expr)} {calls more : List Call} {value : Value}
      {f : Builtin} {values : List Value} (first : Expr.Performs vars callee calls (.ok value))
      (resolved : vars.function value.text = .ok f)
      (rest : Expr.PerformsAll vars (arguments.getD []) more (.ok values)) :
      Expr.Performs vars (.invoke callee arguments) (calls ++ more ++ [⟨f, values⟩]) (.ok .null)

/-- Evaluating the expressions from left to right makes the calls and has the results, or stops at
the first expression without one. -/
inductive Expr.PerformsAll (vars : Bindings) :
    List Expr → List Call → Except Fault (List Value) → Prop where
  | nil : Expr.PerformsAll vars [] [] (.ok [])
  | headFails {e : Expr} {rest : List Expr} {calls : List Call} {fault : Fault}
      (first : Expr.Performs vars e calls (.error fault)) :
      Expr.PerformsAll vars (e :: rest) calls (.error fault)
  | cons {e : Expr} {rest : List Expr} {calls more : List Call} {value : Value}
      {values : Except Fault (List Value)} (first : Expr.Performs vars e calls (.ok value))
      (others : Expr.PerformsAll vars rest more values) :
      Expr.PerformsAll vars (e :: rest) (calls ++ more) (values.map (value :: ·))

end

namespace Sink

/-- The sink after a text has been written, if there is no limit. -/
def after (sink : Sink) (text : String) : Sink :=
  { sink with written := sink.written ++ text.toUTF8.data }

/-- A text leaves the room of a sink as it is. -/
lemma room_after (sink : Sink) (text : String) : (sink.after text).room = sink.room := rfl

/-- The empty text leaves a sink as it is. -/
lemma after_empty (sink : Sink) : sink.after "" = sink := by
  simp [after]

/-- Two texts can be written one after the other or in one piece. -/
lemma after_append (sink : Sink) (first second : String) :
    sink.after (first ++ second) = (sink.after first).after second := by
  simp [after, Array.append_assoc]

end Sink

namespace Writing

variable {α β : Type} {sink : Sink}

/-- A sink without a limit has none after a write. -/
lemma Tells.room_eq_none {action : Writing α} (tells : action.Tells)
    (unlimited : sink.room = none) : (action sink).2.room = none := by
  obtain ⟨bytes, result, rfl⟩ := tells
  rw [telling, Sink.writeBytes_of_unlimited unlimited]
  exact unlimited

/-- The result of a computation can be taken further without the sink. -/
lemma fst_bind_ofResult (action : Writing α) (next : α → Except Fault β) (sink : Sink) :
    ((action >>= fun value => ofResult (next value)) sink).1 = (action sink).1.bind next := by
  rw [bind_apply]
  rcases action sink with ⟨_ | _, _⟩ <;> rfl

/-- The value of a computation can be changed without the sink. -/
lemma fst_bind_pure (action : Writing α) (make : α → β) (sink : Sink) :
    ((action >>= fun value => pure (make value)) sink).1 = (action sink).1.map make := by
  rw [bind_apply]
  rcases action sink with ⟨_ | _, _⟩ <;> rfl

/-- A sink without a limit takes all lines. -/
lemma lines_of_unlimited (texts : List String) (unlimited : sink.room = none) :
    lines texts sink = (.ok (), sink.after (String.join (texts.map (· ++ "\n")))) := by
  induction texts generalizing sink with
  | nil => exact congrArg (Prod.mk _) sink.after_empty.symm
  | cons text rest ih =>
    have first : line text sink = (.ok (), sink.after (text ++ "\n")) := by
      simp only [line, Sink.write, Sink.writeBytes_of_unlimited unlimited]
      rfl
    rw [lines, bind_apply, first, List.map_cons, String.join_cons,
      sink.after_append (text ++ "\n")]
    exact ih ((sink.room_after (text ++ "\n")).trans unlimited)

end Writing

/-- A call has the null value, if the sink has no limit. -/
lemma Builtin.fst_run (f : Builtin) (values : List Value) {sink : Sink}
    (unlimited : sink.room = none) : (f.run values sink).1 = .ok .null := by
  obtain ⟨origin⟩ := f
  rw [Builtin.run, Writing.bind_apply, Writing.lines_of_unlimited _ unlimited]
  rfl

section Evaluation
open Writing

/-- A call without a list of arguments evaluates the empty list. -/
lemma Expr.evalArguments_eq (vars : Bindings) (arguments : Option (List Expr)) :
    Expr.evalArguments vars arguments = Expr.evalAll vars (arguments.getD []) := by
  cases arguments with
  | none => rw [Expr.evalArguments, Option.getD_none, Expr.evalAll]
  | some list => rw [Expr.evalArguments, Option.getD_some]

/-- A call without a list of arguments makes the calls of the empty list. -/
lemma Expr.argumentCalls_eq (vars : Bindings) (arguments : Option (List Expr)) (sink : Sink) :
    Expr.argumentCalls vars arguments sink = Expr.allCalls vars (arguments.getD []) sink := by
  cases arguments with
  | none => rw [Expr.argumentCalls, Option.getD_none, Expr.allCalls]
  | some list => rw [Expr.argumentCalls, Option.getD_some]

mutual

/-- An evaluation makes its calls by the rules, if the sink takes everything. -/
lemma Expr.performs_calls (vars : Bindings) : ∀ (e : Expr) {sink : Sink}, sink.room = none →
    e.Performs vars (e.calls vars sink) (e.eval vars sink).1
  | .number x, sink, _ => by
    rw [Expr.calls, Expr.eval]
    exact .number x
  | .variable name, sink, _ => by
    rw [Expr.calls, Expr.eval]
    exact .name name
  | .unfinished symbol left, sink, _ => by
    rw [Expr.calls, Expr.eval]
    exact .unfinished symbol left
  | .group inner, sink, unlimited => by
    rw [Expr.calls, Expr.eval]
    exact .group (Expr.performs_calls vars inner unlimited)
  | .negate inner, sink, unlimited => by
    rw [Expr.calls, Expr.eval, fst_bind_ofResult]
    exact .negate (Expr.performs_calls vars inner unlimited)
  | .binary symbol left right, sink, unlimited => by
    have first := Expr.performs_calls vars left unlimited
    have room := (left.eval_tells vars).room_eq_none unlimited
    rw [Expr.calls, Expr.eval, bind_apply]
    rcases evaluated : left.eval vars sink with ⟨fault | a, middle⟩
    · rw [evaluated] at first
      rw [Call.following, List.append_nil]
      exact .leftFails first
    · rw [evaluated] at first room
      rw [Call.following]
      dsimp only
      rw [fst_bind_ofResult]
      exact .binary first (Expr.performs_calls vars right room)
  | .invoke callee arguments, sink, unlimited => by
    have first := Expr.performs_calls vars callee unlimited
    have room := (callee.eval_tells vars).room_eq_none unlimited
    rw [Expr.calls, Expr.eval, bind_apply]
    rcases evaluated : callee.eval vars sink with ⟨fault | value, middle⟩
    · rw [evaluated] at first
      rw [Call.following, List.append_nil]
      exact .calleeFails first
    · rw [evaluated] at first room
      have rest := Expr.performsArguments_calls vars arguments room
      have room' := (Expr.evalArguments_tells vars arguments).room_eq_none room
      rcases resolved : vars.function value.text with fault | f
      · simp only [Call.following, resolved, ofResult, bind_apply, List.append_nil]
        exact .unresolved first resolved
      · simp only [Call.following, resolved, ofResult, bind_apply]
        rcases answered : Expr.evalArguments vars arguments middle with ⟨fault | values, last⟩
        · rw [answered] at rest
          rw [List.append_nil]
          exact .argumentFails first resolved rest
        · rw [answered] at rest room'
          dsimp only
          rw [f.fst_run values room', ← List.append_assoc]
          exact .call first resolved rest

/-- The calls and results of the arguments of a call follow the rules. -/
lemma Expr.performsArguments_calls (vars : Bindings) : ∀ (arguments : Option (List Expr))
    {sink : Sink}, sink.room = none →
      Expr.PerformsAll vars (arguments.getD []) (Expr.argumentCalls vars arguments sink)
        (Expr.evalArguments vars arguments sink).1
  | none, sink, _ => by
    rw [Expr.argumentCalls, Expr.evalArguments]
    exact .nil
  | some list, sink, unlimited => by
    rw [Expr.argumentCalls, Expr.evalArguments]
    exact Expr.performsAll_calls vars list unlimited

/-- The calls and results of expressions from left to right follow the rules. -/
lemma Expr.performsAll_calls (vars : Bindings) : ∀ (list : List Expr) {sink : Sink},
    sink.room = none →
      Expr.PerformsAll vars list (Expr.allCalls vars list sink) (Expr.evalAll vars list sink).1
  | [], sink, _ => by
    rw [Expr.allCalls, Expr.evalAll]
    exact .nil
  | e :: rest, sink, unlimited => by
    have first := Expr.performs_calls vars e unlimited
    have room := (e.eval_tells vars).room_eq_none unlimited
    rw [Expr.allCalls, Expr.evalAll, bind_apply]
    rcases evaluated : e.eval vars sink with ⟨fault | value, middle⟩
    · rw [evaluated] at first
      rw [Call.following, List.append_nil]
      exact .headFails first
    · rw [evaluated] at first room
      rw [Call.following]
      dsimp only
      rw [fst_bind_pure]
      exact .cons first (Expr.performsAll_calls vars rest room)

end

mutual

/-- The rules leave no choice: they lead to the calls and the result of the evaluation. -/
lemma Expr.Performs.eq_calls {vars : Bindings} : ∀ {e : Expr} {calls : List Call}
    {result : Except Fault Value}, e.Performs vars calls result →
      ∀ {sink : Sink}, sink.room = none → calls = e.calls vars sink ∧
        ∃ last, last.room = none ∧ e.eval vars sink = (result, last)
  | _, _, _, .number x, sink, unlimited => by
    rw [Expr.calls, Expr.eval]
    exact ⟨rfl, sink, unlimited, rfl⟩
  | _, _, _, .name text, sink, unlimited => by
    rw [Expr.calls, Expr.eval]
    exact ⟨rfl, sink, unlimited, rfl⟩
  | _, _, _, .unfinished symbol left, sink, unlimited => by
    rw [Expr.calls, Expr.eval]
    exact ⟨rfl, sink, unlimited, rfl⟩
  | _, _, _, .group whole, sink, unlimited => by
    rw [Expr.calls, Expr.eval]
    exact whole.eq_calls unlimited
  | _, _, _, @Expr.Performs.negate _ _ _ result operand, sink, unlimited => by
    obtain ⟨rfl, last, room, evaluated⟩ := operand.eq_calls unlimited
    rw [Expr.calls, Expr.eval, bind_apply, evaluated]
    cases result <;> exact ⟨rfl, last, room, rfl⟩
  | _, _, _, .leftFails first, sink, unlimited => by
    obtain ⟨rfl, last, room, evaluated⟩ := first.eq_calls unlimited
    rw [Expr.calls, Expr.eval, bind_apply, evaluated]
    exact ⟨(List.append_nil _).symm, last, room, rfl⟩
  | _, _, _, @Expr.Performs.binary _ _ _ _ _ _ _ result first second, sink, unlimited => by
    obtain ⟨rfl, middle, room, evaluated⟩ := first.eq_calls unlimited
    obtain ⟨rfl, last, room', evaluated'⟩ := second.eq_calls room
    rw [Expr.calls, Expr.eval, bind_apply, evaluated]
    dsimp only
    rw [bind_apply, evaluated']
    cases result <;> exact ⟨rfl, last, room', rfl⟩
  | _, _, _, .calleeFails first, sink, unlimited => by
    obtain ⟨rfl, last, room, evaluated⟩ := first.eq_calls unlimited
    rw [Expr.calls, Expr.eval, bind_apply, evaluated]
    exact ⟨(List.append_nil _).symm, last, room, rfl⟩
  | _, _, _, .unresolved first resolved, sink, unlimited => by
    obtain ⟨rfl, last, room, evaluated⟩ := first.eq_calls unlimited
    rw [Expr.calls, Expr.eval, bind_apply, evaluated]
    refine ⟨?_, last, room, ?_⟩
    · simp [Call.following, ofResult, resolved]
    · simp only [ofResult, bind_apply, resolved]
  | _, _, _, .argumentFails first resolved rest, sink, unlimited => by
    obtain ⟨rfl, middle, room, evaluated⟩ := first.eq_calls unlimited
    obtain ⟨rfl, last, room', evaluated'⟩ := rest.eq_calls room
    rw [← Expr.evalArguments_eq] at evaluated'
    rw [Expr.calls, Expr.eval, bind_apply, evaluated, ← Expr.argumentCalls_eq]
    refine ⟨?_, last, room', ?_⟩
    · simp [Call.following, ofResult, resolved, evaluated']
    · simp only [ofResult, bind_apply, resolved, evaluated']
  | _, _, _, @Expr.Performs.call _ _ _ _ _ _ f values first resolved rest, sink, unlimited => by
    obtain ⟨rfl, middle, room, evaluated⟩ := first.eq_calls unlimited
    obtain ⟨rfl, last, room', evaluated'⟩ := rest.eq_calls room
    rw [← Expr.evalArguments_eq] at evaluated'
    rw [Expr.calls, Expr.eval, bind_apply, evaluated, ← Expr.argumentCalls_eq]
    refine ⟨?_, _, (f.run_tells values).room_eq_none room', ?_⟩
    · simp [Call.following, ofResult, resolved, evaluated']
    · simp only [ofResult, bind_apply, resolved, evaluated']
      exact Prod.ext (f.fst_run values room') rfl

/-- The rules for expressions from left to right only lead to the calls that are made and to the
results that they have. -/
lemma Expr.PerformsAll.eq_calls {vars : Bindings} : ∀ {list : List Expr} {calls : List Call}
    {results : Except Fault (List Value)}, Expr.PerformsAll vars list calls results →
      ∀ {sink : Sink}, sink.room = none → calls = Expr.allCalls vars list sink ∧
        ∃ last, last.room = none ∧ Expr.evalAll vars list sink = (results, last)
  | _, _, _, .nil, sink, unlimited => by
    rw [Expr.allCalls, Expr.evalAll]
    exact ⟨rfl, sink, unlimited, rfl⟩
  | _, _, _, .headFails first, sink, unlimited => by
    obtain ⟨rfl, last, room, evaluated⟩ := first.eq_calls unlimited
    rw [Expr.allCalls, Expr.evalAll, bind_apply, evaluated]
    exact ⟨(List.append_nil _).symm, last, room, rfl⟩
  | _, _, _, @Expr.PerformsAll.cons _ _ _ _ _ _ values first others, sink, unlimited => by
    obtain ⟨rfl, middle, room, evaluated⟩ := first.eq_calls unlimited
    obtain ⟨rfl, last, room', evaluated'⟩ := others.eq_calls room
    rw [Expr.allCalls, Expr.evalAll, bind_apply, evaluated]
    dsimp only
    rw [bind_apply, evaluated']
    cases values <;> exact ⟨rfl, last, room', rfl⟩

end

end Evaluation

/-- The rules lead from an expression to one list of calls and one result. -/
lemma Expr.Performs.unique {vars : Bindings} {e : Expr} {calls calls' : List Call}
    {result result' : Except Fault Value} (first : e.Performs vars calls result)
    (second : e.Performs vars calls' result') : calls = calls' ∧ result = result' := by
  have unlimited : Sink.unlimited.room = none := rfl
  obtain ⟨same, _, -, evaluated⟩ := first.eq_calls unlimited
  obtain ⟨same', _, -, evaluated'⟩ := second.eq_calls unlimited
  exact ⟨same.trans same'.symm, (Prod.mk.inj (evaluated.symm.trans evaluated')).1⟩

/-- Testing the condition makes the calls and has the answer. -/
def Expr.Tests (vars : Bindings) (condition : Expr) (calls : List Call)
    (answer : Except Fault Bool) : Prop :=
  ∃ result, condition.Performs vars calls result ∧ answer = result.bind Value.truth

/-- The rules lead from a condition to one list of calls and one answer. -/
lemma Expr.Tests.unique {vars : Bindings} {condition : Expr} {calls calls' : List Call}
    {answer answer' : Except Fault Bool} (first : condition.Tests vars calls answer)
    (second : condition.Tests vars calls' answer') : calls = calls' ∧ answer = answer' := by
  obtain ⟨result, performs, rfl⟩ := first
  obtain ⟨result', performs', rfl⟩ := second
  obtain ⟨rfl, rfl⟩ := performs.unique performs'
  exact ⟨rfl, rfl⟩

/-! ## The calls of statements -/

/-- A statement without a block makes the calls and leaves the variables behind, or fails. -/
inductive Stmt.Acts (vars : Bindings) : Stmt → List Call → Except Fault Bindings → Prop where
  | effect {e : Expr} {calls : List Call} {result : Except Fault Value}
      (performs : e.Performs vars calls result) :
      Acts vars (.expr e) calls (result.map fun _ => vars)
  | callTarget {callee : Expr} {arguments : Option (List Expr)} {value : Option Expr}
      {calls : List Call} {result : Except Fault Value}
      (performs : (Expr.invoke callee arguments).Performs vars calls result) :
      Acts vars (.assign (.invoke callee arguments) value) calls (result.map fun _ => vars)
  | assigned {name : String} {e : Expr} {calls : List Call} {result : Except Fault Value}
      (performs : e.Performs vars calls result) :
      Acts vars (.assign (.variable name) (some e)) calls (result.map (vars.define name))
  | emptied (name : String) :
      Acts vars (.assign (.variable name) none) [] (.ok (vars.define name .null))
  | noTarget {target : Expr} {value : Option Expr}
      (noCall : ∀ callee arguments, target ≠ .invoke callee arguments)
      (noName : ∀ name, target ≠ .variable name) :
      Acts vars (.assign target value) [] (.error (.invalidTarget target))

/-- The condition of a statement with a block, and what it stands for if the condition holds: its
block, and behind the block of a loop the loop itself. -/
def Stmt.guard? : Stmt → Option (Expr × Program)
  | .ifThen condition body => some (condition, body)
  | .whileDo condition body => some (condition, body ++ [.whileDo condition body])
  | .assign _ _ | .expr _ => none

/-- A statement without a block has no guard. -/
lemma Stmt.Acts.guard?_eq_none {vars : Bindings} {stmt : Stmt} {calls : List Call}
    {result : Except Fault Bindings} (acts : stmt.Acts vars calls result) :
    stmt.guard? = none := by
  cases acts <;> rfl

/-- The rules lead from a statement without a block to one list of calls and one result. -/
lemma Stmt.Acts.unique {vars : Bindings} {stmt : Stmt} {calls calls' : List Call}
    {result result' : Except Fault Bindings} (first : stmt.Acts vars calls result)
    (second : stmt.Acts vars calls' result') : calls = calls' ∧ result = result' := by
  cases first with
  | effect performs =>
    cases second with
    | effect performs' =>
      obtain ⟨rfl, rfl⟩ := performs.unique performs'
      exact ⟨rfl, rfl⟩
  | callTarget performs =>
    cases second with
    | callTarget performs' =>
      obtain ⟨rfl, rfl⟩ := performs.unique performs'
      exact ⟨rfl, rfl⟩
    | noTarget noCall noName => exact absurd rfl (noCall _ _)
  | assigned performs =>
    cases second with
    | assigned performs' =>
      obtain ⟨rfl, rfl⟩ := performs.unique performs'
      exact ⟨rfl, rfl⟩
    | noTarget noCall noName => exact absurd rfl (noName _)
  | emptied name =>
    cases second with
    | emptied _ => exact ⟨rfl, rfl⟩
    | noTarget noCall noName => exact absurd rfl (noName _)
  | noTarget noCall noName =>
    cases second with
    | callTarget _ => exact absurd rfl (noCall _ _)
    | assigned _ => exact absurd rfl (noName _)
    | emptied _ => exact absurd rfl (noName _)
    | noTarget _ _ => exact ⟨rfl, rfl⟩

/-- Running the statements one after the other makes the calls, ends with the fault, if there is
one, and leaves the variables behind. A condition that holds puts what it guards in the place of its
statement. -/
inductive Program.Performs :
    Bindings → Program → List Call → Option Fault → Bindings → Prop where
  | done (vars : Bindings) : Performs vars [] [] none vars
  | fails {vars : Bindings} {stmt : Stmt} {rest : Program} {calls : List Call} {fault : Fault}
      (now : stmt.Acts vars calls (.error fault)) :
      Performs vars (stmt :: rest) calls (some fault) vars
  | acts {vars middle last : Bindings} {stmt : Stmt} {rest : Program} {calls more : List Call}
      {error : Option Fault} (now : stmt.Acts vars calls (.ok middle))
      (later : Performs middle rest more error last) :
      Performs vars (stmt :: rest) (calls ++ more) error last
  | refused {vars : Bindings} {stmt : Stmt} {condition : Expr} {block rest : Program}
      {calls : List Call} {fault : Fault} (guarded : stmt.guard? = some (condition, block))
      (tested : condition.Tests vars calls (.error fault)) :
      Performs vars (stmt :: rest) calls (some fault) vars
  | skipped {vars last : Bindings} {stmt : Stmt} {condition : Expr} {block rest : Program}
      {calls more : List Call} {error : Option Fault}
      (guarded : stmt.guard? = some (condition, block))
      (tested : condition.Tests vars calls (.ok false))
      (later : Performs vars rest more error last) :
      Performs vars (stmt :: rest) (calls ++ more) error last
  | entered {vars last : Bindings} {stmt : Stmt} {condition : Expr} {block rest : Program}
      {calls more : List Call} {error : Option Fault}
      (guarded : stmt.guard? = some (condition, block))
      (tested : condition.Tests vars calls (.ok true))
      (inside : Performs vars (block ++ rest) more error last) :
      Performs vars (stmt :: rest) (calls ++ more) error last

namespace Program.Performs

variable {vars middle last : Bindings} {first second : Program} {calls more : List Call}
  {error : Option Fault} {fault : Fault}

/-- The calls of a program are those of its first part and, unless that fails, those of its
second. -/
lemma append_cases (head : Performs vars first calls error middle) (second : Program) :
    (∀ fault, error = some fault → Performs vars (first ++ second) calls error middle) ∧
      (error = none → ∀ {more error' last}, Performs middle second more error' last →
        Performs vars (first ++ second) (calls ++ more) error' last) := by
  induction head with
  | done vars => exact ⟨nofun, fun _ _ _ _ tail => tail⟩
  | fails now => exact ⟨fun _ _ => .fails now, nofun⟩
  | acts now later ih =>
    refine ⟨fun fault failed => .acts now (ih.1 fault failed), fun through _ _ _ tail => ?_⟩
    rw [List.append_assoc]
    exact .acts now (ih.2 through tail)
  | refused guarded tested => exact ⟨fun _ _ => .refused guarded tested, nofun⟩
  | skipped guarded tested later ih =>
    refine ⟨fun fault failed => .skipped guarded tested (ih.1 fault failed),
      fun through _ _ _ tail => ?_⟩
    rw [List.append_assoc]
    exact .skipped guarded tested (ih.2 through tail)
  | entered guarded tested inside ih =>
    rw [List.append_assoc] at ih
    refine ⟨fun fault failed => .entered guarded tested (ih.1 fault failed),
      fun through _ _ _ tail => ?_⟩
    rw [List.append_assoc]
    exact .entered guarded tested (ih.2 through tail)

/-- Programs in a row make the calls of the first and then those of the second. -/
lemma append (head : Performs vars first calls none middle)
    (tail : Performs middle second more error last) :
    Performs vars (first ++ second) (calls ++ more) error last :=
  (head.append_cases second).2 rfl tail

/-- A fault in the first of two programs is the end of both. -/
lemma append_of_fault (head : Performs vars first calls (some fault) last) (second : Program) :
    Performs vars (first ++ second) calls (some fault) last :=
  (head.append_cases second).1 fault rfl

variable {stmt : Stmt} {rest : Program} {start : List Call}

/-- A statement without a block comes first, and then the rest if it does not fail. -/
lemma cases_of_acts {result : Except Fault Bindings} (now : stmt.Acts vars start result)
    (whole : Performs vars (stmt :: rest) calls error last) :
    (∃ fault, result = .error fault ∧ calls = start ∧ error = some fault ∧ last = vars) ∨
      ∃ middle more, result = .ok middle ∧ calls = start ++ more ∧
        Performs middle rest more error last := by
  have simple := now.guard?_eq_none
  cases whole with
  | fails now' =>
    obtain ⟨rfl, rfl⟩ := now.unique now'
    exact .inl ⟨_, rfl, rfl, rfl, rfl⟩
  | acts now' later =>
    obtain ⟨rfl, rfl⟩ := now.unique now'
    exact .inr ⟨_, _, rfl, rfl, later⟩
  | refused guarded | skipped guarded | entered guarded => cases simple.symm.trans guarded

/-- A condition comes first, and then the rest, with what is guarded before it if the condition
holds. -/
lemma cases_of_tests {condition : Expr} {block : Program} {answer : Except Fault Bool}
    (guarded : stmt.guard? = some (condition, block))
    (tested : condition.Tests vars start answer)
    (whole : Performs vars (stmt :: rest) calls error last) :
    (∃ fault, answer = .error fault ∧ calls = start ∧ error = some fault ∧ last = vars) ∨
      ∃ holds more, answer = .ok holds ∧ calls = start ++ more ∧
        Performs vars (if holds then block ++ rest else rest) more error last := by
  cases whole with
  | fails now | acts now => cases now.guard?_eq_none.symm.trans guarded
  | refused guarded' tested' =>
    cases guarded.symm.trans guarded'
    obtain ⟨rfl, rfl⟩ := tested.unique tested'
    exact .inl ⟨_, rfl, rfl, rfl, rfl⟩
  | skipped guarded' tested' later =>
    cases guarded.symm.trans guarded'
    obtain ⟨rfl, rfl⟩ := tested.unique tested'
    exact .inr ⟨_, _, rfl, rfl, later⟩
  | entered guarded' tested' inside =>
    cases guarded.symm.trans guarded'
    obtain ⟨rfl, rfl⟩ := tested.unique tested'
    exact .inr ⟨_, _, rfl, rfl, inside⟩

/-- There is one way to run a program at most. -/
lemma unique {program : Program} {calls' : List Call} {error' : Option Fault} {last' : Bindings}
    (head : Performs vars program calls error last)
    (other : Performs vars program calls' error' last') :
    calls = calls' ∧ error = error' ∧ last = last' := by
  induction head generalizing calls' error' last' with
  | done vars =>
    cases other
    exact ⟨rfl, rfl, rfl⟩
  | fails now =>
    obtain ⟨_, same, rfl, rfl, rfl⟩ | ⟨_, _, same, -⟩ := other.cases_of_acts now
    · cases same
      exact ⟨rfl, rfl, rfl⟩
    · cases same
  | acts now later ih =>
    obtain ⟨_, same, -⟩ | ⟨_, _, same, rfl, later'⟩ := other.cases_of_acts now
    · cases same
    · cases same
      obtain ⟨rfl, rfl, rfl⟩ := ih later'
      exact ⟨rfl, rfl, rfl⟩
  | refused guarded tested =>
    obtain ⟨_, same, rfl, rfl, rfl⟩ | ⟨_, _, same, -⟩ := other.cases_of_tests guarded tested
    · cases same
      exact ⟨rfl, rfl, rfl⟩
    · cases same
  | skipped guarded tested later ih | entered guarded tested later ih =>
    obtain ⟨_, same, -⟩ | ⟨_, _, same, rfl, later'⟩ := other.cases_of_tests guarded tested
    · cases same
    · cases same
      obtain ⟨rfl, rfl, rfl⟩ := ih later'
      exact ⟨rfl, rfl, rfl⟩

end Program.Performs

end Scriptlet
