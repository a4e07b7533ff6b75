import Scriptlet.Proofs.Program.Denotation
import Scriptlet.Proofs.Session.Frame

/-!
# Repeated assignments

An assignment whose variable does not stand in its expression can be repeated without a change of
the variables. The expression may still depend on the variable, because a call goes by the text of a
value, and so the second run may fail where the first one is through. But if it is through, it
assigns the same value: whatever denotes a value denotes the same one over all tables that agree on
its own variables (`Expr.Denotes.congr`), and what has a value without denoting one is empty.
-/

namespace Scriptlet

/-- A definition that is repeated changes nothing. -/
lemma Bindings.define_define_self (vars : Bindings) (name : String) (value : Value) :
    (vars.define name value).define name value = vars.define name value := by
  obtain ⟨entries⟩ := vars
  simp only [define, mk.injEq]
  induction entries with
  | nil => simp [define.go]
  | cons entry rest ih =>
    by_cases same : entry.1 = name
    · simp [define.go, same]
    · simp [define.go, same, ih]

namespace Expr

variable {vars others : Bindings}

/-- Over two tables that agree on its variables an expression has the same value, if it has one over
both. -/
lemma value_unique {e : Expr}
    (agree : ∀ name, e.Mentions name → others.find? name = vars.find? name)
    {value value' : Value} {sink sink' last last' : Sink}
    (evaluated : e.eval vars sink = (.ok value, last))
    (evaluated' : e.eval others sink' = (.ok value', last')) : value' = value := by
  by_cases full : value = .null
  · by_contra distinct
    have full' : value' ≠ .null := fun empty => distinct (empty.trans full.symm)
    have denotes := (denotes_of_eval e evaluated' full').congr fun name inside =>
      (agree name inside).symm
    rw [denotes.eval sink] at evaluated
    cases evaluated
    exact distinct rfl
  · have denotes := (denotes_of_eval e evaluated full).congr agree
    rw [denotes.eval sink'] at evaluated'
    cases evaluated'
    rfl

/-! ## Expressions without calls -/

/-- An expression has the calls of its parts. -/
lemma HasCall.deeper {e child : Expr} (member : child ∈ e.parts) (inside : child.HasCall) :
    e.HasCall := by
  obtain ⟨callee, arguments, contains⟩ := inside
  exact ⟨callee, arguments, .deeper member contains⟩

/-- Both tables lead to the same result, and nothing is written on the way. -/
def SameResult (vars others : Bindings) (e : Expr) : Prop :=
  ∃ result, e.eval vars = Writing.ofResult result ∧ e.eval others = Writing.ofResult result

/-- An expression without calls has the same result over all tables that agree on its variables. -/
lemma sameResult_of_not_hasCall (e : Expr) (noCall : ¬ e.HasCall)
    (agree : ∀ name, e.Mentions name → others.find? name = vars.find? name) :
    SameResult vars others e := by
  have inside : ∀ child ∈ e.parts, ¬ child.HasCall ∧
      ∀ name, child.Mentions name → others.find? name = vars.find? name := by
    intro child member
    exact ⟨fun call => noCall (call.deeper member),
      fun name mentioned => agree name (mentioned.deeper member)⟩
  cases e with
  | number x => exact ⟨.ok (.number x), by rw [eval]; rfl, by rw [eval]; rfl⟩
  | «variable» name =>
    refine ⟨vars.get name, by rw [eval], ?_⟩
    rw [eval, Bindings.get, Bindings.get, agree name .here]
  | binary symbol left right =>
    obtain ⟨noCallLeft, agreeLeft⟩ := inside left (by simp [parts])
    obtain ⟨noCallRight, agreeRight⟩ := inside right (by simp [parts])
    obtain ⟨a, first, first'⟩ := sameResult_of_not_hasCall left noCallLeft agreeLeft
    obtain ⟨b, second, second'⟩ := sameResult_of_not_hasCall right noCallRight agreeRight
    refine ⟨a >>= fun a => b >>= fun b => Operator.applySymbol symbol a b, ?_, ?_⟩
    · rw [eval, first, second]
      cases a <;> cases b <;> rfl
    · rw [eval, first', second']
      cases a <;> cases b <;> rfl
  | unfinished symbol left => exact ⟨.ok .null, by rw [eval]; rfl, by rw [eval]; rfl⟩
  | group inner =>
    obtain ⟨noCallInner, agreeInner⟩ := inside inner (by simp [parts])
    obtain ⟨result, whole, whole'⟩ := sameResult_of_not_hasCall inner noCallInner agreeInner
    exact ⟨result, by rw [eval, whole], by rw [eval, whole']⟩
  | invoke callee arguments => exact absurd ⟨callee, arguments, .here⟩ noCall
  | negate inner =>
    obtain ⟨noCallInner, agreeInner⟩ := inside inner (by simp [parts])
    obtain ⟨result, whole, whole'⟩ := sameResult_of_not_hasCall inner noCallInner agreeInner
    refine ⟨result >>= Value.negated, ?_, ?_⟩
    · rw [eval, whole]
      cases result <;> rfl
    · rw [eval, whole']
      cases result <;> rfl

end Expr

/-! ## Assignments -/

namespace Stmt

variable {name : String} {e : Expr} {fuel : Nat} {s : Session}

/-- An assignment to a variable evaluates its right side and then binds the variable. -/
lemma run_assign (name : String) (e : Expr) (fuel : Nat) (s : Session) :
    (Stmt.assign (.variable name) (some e)).run fuel s =
      .ofResult (fun value s => .done (s.define name value)) (s.evaluate e) := by
  rw [Stmt.run, Stmt.exec]
  rfl

/-- An assignment to a variable is through if its right side has a value, and the variable and the
sink are all that it changes. -/
lemma run_assign_eq_done_iff {last : Session} :
    (Stmt.assign (.variable name) (some e)).run fuel s = .done last ↔
      ∃ value sink, e.eval s.vars s.sink = (.ok value, sink) ∧
        last = { s with vars := s.vars.define name value, sink } := by
  rw [run_assign, Session.evaluate, Session.perform]
  rcases e.eval s.vars s.sink with ⟨fault | value, sink⟩
  · simp [Outcome.ofResult]
  · simp [Outcome.ofResult, Session.define, eq_comm]

/-- An assignment that is through can be repeated without a change of the variables, if its variable
does not stand in its expression: the second run assigns the same value or fails. Without a call in
the expression it is through, and nothing at all changes. -/
theorem assign_twice_keeps_vars (name : String) (e : Expr) (free : ¬ e.Mentions name)
    (fuel more : Nat) (s first : Session)
    (ran : (Stmt.assign (.variable name) (some e)).run fuel s = .done first) :
    (∃ second, ((Stmt.assign (.variable name) (some e)).run more first).Leaves second ∧
      second.vars = first.vars) ∧
    (¬ e.HasCall → (Stmt.assign (.variable name) (some e)).run more first = .done first) := by
  obtain ⟨value, sink, evaluated, rfl⟩ := run_assign_eq_done_iff.1 ran
  have agree : ∀ other, e.Mentions other →
      (s.vars.define name value).find? other = s.vars.find? other := by
    intro other inside
    have distinct : other ≠ name := fun same => free (same ▸ inside)
    exact Bindings.find?_define_of_ne s.vars value distinct
  constructor
  · rcases again : e.eval (s.vars.define name value) sink with ⟨fault | value', last⟩
    · refine ⟨{ s with vars := s.vars.define name value, sink := last }, .inr ⟨fault, ?_⟩, rfl⟩
      rw [run_assign, Session.evaluate, Session.perform, again]
      rfl
    · obtain rfl := Expr.value_unique agree evaluated again
      refine ⟨_, .inl (run_assign_eq_done_iff.2 ⟨value', last, again, rfl⟩), ?_⟩
      exact Bindings.define_define_self s.vars name value'
  · intro noCall
    obtain ⟨result, before, after⟩ := Expr.sameResult_of_not_hasCall e noCall agree
    rw [before] at evaluated
    obtain ⟨rfl, rfl⟩ := Writing.ofResult_eq_ok_iff.1 evaluated
    refine run_assign_eq_done_iff.2 ⟨value, s.sink, ?_, ?_⟩
    · rw [after]
      rfl
    · rw [Bindings.define_define_self]

/-- The function is called by another name and its own name is assigned the empty value. There is no
function for the second call, and the variables stay. -/
theorem assign_twice_keeps_vars_of_own_name :
    ∃ first second : Session,
      (Stmt.assign (.variable "print") (some (.call (.variable "f") [.variable "true"]))).run 0
        ((Session.fresh 1 .unlimited).define "f" (.function (.print 1))) = .done first ∧
      (Stmt.assign (.variable "print") (some (.call (.variable "f") [.variable "true"]))).run 0
        first = .failed (.notCallable "print") second ∧
      first.vars.find? "print" = some .null ∧ second.vars = first.vars := by
  have free : ¬ (Expr.call (.variable "f") [.variable "true"]).Mentions "print" := by
    intro inside
    obtain same | ⟨child, member, inside⟩ := inside.inv
    · cases same
    · simp only [Expr.call, Expr.parts, Option.getD_some, List.mem_cons, List.not_mem_nil,
        or_false] at member
      obtain rfl | rfl := member
      all_goals
        obtain same | ⟨child, member, -⟩ := inside.inv
        · exact absurd same (by simp)
        · cases member
  obtain ⟨⟨second, leaves, same⟩, -⟩ := assign_twice_keeps_vars "print" _ free 0 0
    ((Session.fresh 1 .unlimited).define "f" (.function (.print 1))) _ rfl
  refine ⟨_, second, rfl, ?_, rfl, same⟩
  obtain done | ⟨fault, failed⟩ := leaves
  · cases done
  · cases failed
    rfl

end Stmt

end Scriptlet
