import Scriptlet.Proofs.Session.Loop

/-!
# The calls of an evaluation

Whatever an evaluation does to a session, it does by calling functions. The calls are listed in the
order in which the functions are run (`Expr.calls`), and the output is what they write one after the
other (`Expr.eval_makes`). An expression that denotes a value makes no call. So calls go together
with an empty value or a fault, and a condition in which a call stands is no condition at all.
-/

namespace Scriptlet

/-- A function that is run with the values of its arguments. -/
structure Call where
  /-- The function. -/
  function : Builtin
  /-- What it is given. -/
  arguments : List Value
  deriving DecidableEq, Repr

namespace Call

/-- The sink after the call. -/
def writeTo (sink : Sink) (call : Call) : Sink :=
  (call.function.run call.arguments sink).2

/-- The calls made after a result: those of what goes on with it, and none after a fault. -/
def following {α : Type} (next : α → Sink → List Call) : Except Fault α × Sink → List Call
  | (.ok value, sink) => next value sink
  | (.error _, _) => []

end Call

mutual

/-- The calls that an expression makes when it is evaluated. A function is run once its name has
been found and all its arguments have values. -/
def Expr.calls (vars : Bindings) : Expr → Sink → List Call
  | .number _, _ | .variable _, _ | .unfinished _ _, _ => []
  | .binary _ left right, sink =>
    left.calls vars sink ++ Call.following (fun _ => right.calls vars) (left.eval vars sink)
  | .group inner, sink | .negate inner, sink => inner.calls vars sink
  | .invoke callee arguments, sink =>
    let run f sink :=
      Expr.argumentCalls vars arguments sink ++
        Call.following (fun values _ => [⟨f, values⟩]) (Expr.evalArguments vars arguments sink)
    let reach value sink := Call.following run (Writing.ofResult (vars.function value.text) sink)
    callee.calls vars sink ++ Call.following reach (callee.eval vars sink)

/-- The calls that the arguments of a call make. -/
def Expr.argumentCalls (vars : Bindings) : Option (List Expr) → Sink → List Call
  | none, _ => []
  | some arguments, sink => Expr.allCalls vars arguments sink

/-- The calls that expressions make from left to right. -/
def Expr.allCalls (vars : Bindings) : List Expr → Sink → List Call
  | [], _ => []
  | e :: more, sink =>
    e.calls vars sink ++ Call.following (fun _ => Expr.allCalls vars more) (e.eval vars sink)

end

/-! ## What the calls write -/

namespace Writing

variable {α β : Type} {action : Writing α} {next : α → Writing β} {calls : Sink → List Call}

/-- The computation does to every sink what the calls do to it. -/
def Makes (action : Writing α) (calls : Sink → List Call) : Prop :=
  ∀ sink, (action sink).2 = (calls sink).foldl Call.writeTo sink

/-- A value by itself makes no call. -/
lemma makes_pure (value : α) : Makes (pure value : Writing α) fun _ => [] :=
  fun _ => rfl

/-- A result that is there already makes no call. -/
lemma makes_ofResult (result : Except Fault α) : Makes (ofResult result) fun _ => [] :=
  fun _ => rfl

/-- The calls of two computations in a row are those of the first and then, if it has a value, those
of the second with that value. -/
lemma Makes.bind {calls' : α → Sink → List Call} (first : Makes action calls)
    (second : ∀ value, Makes (next value) (calls' value)) :
    Makes (action >>= next) fun sink => calls sink ++ Call.following calls' (action sink) := by
  intro sink
  have head := first sink
  rw [bind_apply, List.foldl_append, ← head]
  rcases action sink with ⟨fault | value, taken⟩
  · rfl
  · exact second value taken

/-- Where nothing is written after the first part, no calls are added. -/
lemma Makes.bind_silent (first : Makes action calls)
    (second : ∀ value, Makes (next value) fun _ => []) : Makes (action >>= next) calls := by
  intro sink
  have whole := first.bind second sink
  have none : Call.following (fun (_ : α) (_ : Sink) => []) (action sink) = [] := by
    rcases action sink with ⟨_ | _, _⟩ <;> rfl
  simpa only [none, List.append_nil] using whole

end Writing

section Evaluation
open Writing

mutual

/-- The output of an evaluation is what its calls write. -/
lemma Expr.eval_makes (vars : Bindings) : ∀ e : Expr, (e.eval vars).Makes (e.calls vars)
  | .number x => by
    rw [Expr.eval]
    intro sink
    rw [Expr.calls]
    exact makes_pure _ sink
  | .variable name => by
    rw [Expr.eval]
    intro sink
    rw [Expr.calls]
    exact makes_ofResult _ sink
  | .binary symbol left right => by
    rw [Expr.eval]
    intro sink
    rw [Expr.calls]
    apply (Expr.eval_makes vars left).bind
    intro a
    exact (Expr.eval_makes vars right).bind_silent fun b => makes_ofResult _
  | .unfinished symbol left => by
    rw [Expr.eval]
    intro sink
    rw [Expr.calls]
    exact makes_pure _ sink
  | .group inner => by
    rw [Expr.eval]
    intro sink
    rw [Expr.calls]
    exact Expr.eval_makes vars inner sink
  | .invoke callee arguments => by
    rw [Expr.eval]
    intro sink
    rw [Expr.calls]
    apply (Expr.eval_makes vars callee).bind
    intro value
    apply (makes_ofResult _).bind
    intro f
    apply (Expr.evalArguments_makes vars arguments).bind
    exact fun values _ => rfl
  | .negate inner => by
    rw [Expr.eval]
    intro sink
    rw [Expr.calls]
    exact (Expr.eval_makes vars inner).bind_silent (fun _ => makes_ofResult _) sink

/-- The evaluation of the arguments of a call does to the sink what their calls do. -/
lemma Expr.evalArguments_makes (vars : Bindings) : ∀ arguments : Option (List Expr),
    (Expr.evalArguments vars arguments).Makes (Expr.argumentCalls vars arguments)
  | none => by
    rw [Expr.evalArguments]
    intro sink
    rw [Expr.argumentCalls]
    exact makes_pure _ sink
  | some list => by
    rw [Expr.evalArguments]
    intro sink
    rw [Expr.argumentCalls]
    exact Expr.evalAll_makes vars list sink

/-- The evaluation of expressions from left to right does to the sink what their calls do. -/
lemma Expr.evalAll_makes (vars : Bindings) : ∀ list : List Expr,
    (Expr.evalAll vars list).Makes (Expr.allCalls vars list)
  | [] => by
    rw [Expr.evalAll]
    intro sink
    rw [Expr.allCalls]
    exact makes_pure _ sink
  | e :: more => by
    rw [Expr.evalAll]
    intro sink
    rw [Expr.allCalls]
    apply (Expr.eval_makes vars e).bind
    intro value
    exact (Expr.evalAll_makes vars more).bind_silent fun _ => makes_pure _

end

end Evaluation

/-- An expression that denotes a value makes no call. -/
lemma Expr.Denotes.calls_eq_nil {vars : Bindings} {e : Expr} {value : Value}
    (denotes : e.Denotes vars value) (sink : Sink) : e.calls vars sink = [] := by
  induction denotes with
  | number x => rw [Expr.calls]
  | name bound => rw [Expr.calls]
  | binary first second applied ihFirst ihSecond =>
    rw [Expr.calls, ihFirst, first.eval sink]
    exact ihSecond
  | group whole ih =>
    rw [Expr.calls]
    exact ih
  | negate operand negated ih =>
    rw [Expr.calls]
    exact ih

/-! ## Conditions with calls -/

/-- A test of a condition in which a call stands has no answer. -/
lemma Expr.HasCall.test {condition : Expr} (hasCall : condition.HasCall) (s : Session) :
    ∃ fault last, s.test condition = (.error fault, last) := by
  rcases tested : s.test condition with ⟨fault | holds, last⟩
  · exact ⟨fault, last, rfl⟩
  · exact absurd hasCall (Session.test_eq_ok_iff.1 tested).1.not_hasCall

/-- Evaluating an expression changes nothing but the output, and that only by the calls that are
made. If the value is not empty, there is no call and no output. If a call stands in the expression,
whether it is reached or not, there is no such value; and as a condition the expression makes its
statement fail in the test, so that nothing of the body is entered. -/
theorem Session.effects_only_without_value (s : Session) (e : Expr) :
    (s.evaluate e).2 = { s with sink := (e.calls s.vars s.sink).foldl Call.writeTo s.sink } ∧
    (∀ value last, s.evaluate e = (.ok value, last) → value ≠ .null →
      e.calls s.vars s.sink = [] ∧ last = s) ∧
    (e.HasCall →
      (∀ value last, s.evaluate e = (.ok value, last) → value = .null) ∧
      ∀ (enter : Stmt → Session → Session) (fuel : Nat) (body : Program) (stmt : Stmt),
        stmt = .ifThen e body ∨ stmt = .whileDo e body →
          ∃ fault last, (enter stmt s).test e = (.error fault, last) ∧
            stmt.exec enter fuel s = .failed fault last) := by
  refine ⟨?_, ?_, ?_⟩
  · rw [← e.eval_makes s.vars s.sink]
    rfl
  · intro value last evaluated full
    obtain ⟨denotes, rfl⟩ := (evaluate_eq_ok_iff full).1 evaluated
    exact ⟨denotes.calls_eq_nil last.sink, rfl⟩
  · intro hasCall
    constructor
    · intro value last evaluated
      by_contra full
      exact ((evaluate_eq_ok_iff full).1 evaluated).1.not_hasCall hasCall
    · rintro enter fuel body stmt (rfl | rfl)
      · obtain ⟨fault, last, tested⟩ := hasCall.test (enter (.ifThen e body) s)
        refine ⟨fault, last, tested, ?_⟩
        rw [Stmt.exec_ifThen, tested]
        rfl
      · obtain ⟨fault, last, tested⟩ := hasCall.test (enter (.whileDo e body) s)
        refine ⟨fault, last, tested, ?_⟩
        rw [Stmt.exec_whileDo, tested]
        rfl

/-- Of two conditions, the first is true and makes no call. The second prints a line, and then its
loop fails. -/
theorem Session.effects_only_without_value_of_conditions :
    (Expr.group (.variable "true")).calls (builtins 4) .unlimited = [] ∧
    (Expr.binary "==" (.call (.variable "print") [.variable "true"]) (.variable "true")).calls
      (builtins 4) .unlimited = [⟨.print 4, [.boolean true]⟩] ∧
    ∃ fault last,
      (Stmt.whileDo (.binary "==" (.call (.variable "print") [.variable "true"])
        (.variable "true")) []).run 1 (fresh 4 .unlimited) = .failed fault last ∧
      last.sink.written = "True\n".toUTF8.data := by
  obtain ⟨-, silent, -⟩ :=
    effects_only_without_value (fresh 4 .unlimited) (.group (.variable "true"))
  have none := (silent (.boolean true) _ rfl nofun).1
  have hasCall : Expr.HasCall
      (.binary "==" (.call (.variable "print") [.variable "true"]) (.variable "true")) :=
    ⟨_, _, .deeper List.mem_cons_self .here⟩
  obtain ⟨-, -, fails⟩ := effects_only_without_value (fresh 4 .unlimited) _
  obtain ⟨fault, last, tested, failed⟩ := (fails hasCall).2 (fun _ s => s) 1 [] _ (.inr rfl)
  have written := congrArg (fun result => result.2.sink.written) tested
  exact ⟨none, rfl, fault, last, failed, written.symm⟩

end Scriptlet
