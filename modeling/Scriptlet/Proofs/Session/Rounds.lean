import Scriptlet.Proofs.Session.Frame
import Scriptlet.Proofs.Session.Loop

/-!
# Loops that finish

A loop finishes because its condition does not hold any more. A condition with an answer depends on
its own variables only. So if the body assigns none of them and the condition holds in the first
round, then it holds in every round, and the loop goes on for ever
(`Session.Rounds.not_denotes_true`).
-/

namespace Scriptlet

namespace Session

/-- The loop runs its body so many times, each time after a test that holds, and finishes with a
test that does not. -/
inductive Rounds (condition : Expr) (body : Program) : Nat → Session → Session → Prop where
  | finished {s last : Session} (tested : s.test condition = (.ok false, last)) :
      Rounds condition body 0 s last
  | again {rounds : Nat} {s middle next last : Session}
      (tested : s.test condition = (.ok true, middle)) (ran : body.Ends middle (.done next))
      (more : Rounds condition body rounds next last) : Rounds condition body (rounds + 1) s last

variable {condition : Expr} {body : Program} {rounds : Nat} {s last : Session}

/-- A loop that is through has a number of rounds. -/
lemma Loops.exists_rounds {outcome : Outcome Fault} (loops : Loops condition body s outcome)
    (through : outcome = .done last) : ∃ rounds, Rounds condition body rounds s last := by
  induction loops with
  | refused tested => cases through
  | finished tested =>
    cases through
    exact ⟨0, .finished tested⟩
  | stopped tested ran => cases through
  | again tested ran more ih =>
    obtain ⟨rounds, counted⟩ := ih through
    exact ⟨rounds + 1, .again tested ran counted⟩

/-- The condition is false after the last round. -/
lemma Rounds.denotes_false (counted : Rounds condition body rounds s last) :
    condition.Denotes last.vars (.boolean false) := by
  induction counted with
  | finished tested =>
    obtain ⟨denotes, rfl⟩ := test_eq_ok_iff.1 tested
    exact denotes
  | again tested ran more ih => exact ih

/-- A loop that touches no variable of its condition cannot finish once the condition holds. -/
lemma Rounds.not_denotes_true (counted : Rounds condition body rounds s last)
    (free : ∀ name, condition.Mentions name → ¬ body.Assigns name) :
    ¬ condition.Denotes s.vars (.boolean true) := by
  induction counted with
  | finished tested =>
    intro holds
    have answer := (test_eq_ok_iff.2 ⟨holds, rfl⟩).symm.trans tested
    cases answer
  | @again rounds s middle next last tested ran more ih =>
    intro holds
    obtain ⟨-, rfl⟩ := test_eq_ok_iff.1 tested
    obtain ⟨-, fuel, ran⟩ := ran
    apply ih
    -- the body leaves the variables of the condition alone, so that it still holds
    apply holds.congr
    intro name mentioned
    exact Program.find?_eq_of_leaves (.inl ran) (free name mentioned)

end Session

/-- If a loop is through, its condition is false in the end, and finding that out writes nothing. If
the body was run at all, it contains an assignment to a variable of the condition. -/
theorem Stmt.whileDo_touches_condition (condition : Expr) (body : Program) (fuel : Nat)
    (s last : Session) (through : (Stmt.whileDo condition body).run fuel s = .done last) :
    last.evaluate condition = (.ok (.boolean false), last) ∧
    (∃ rounds, Session.Rounds condition body rounds s last) ∧
    ∀ rounds, Session.Rounds condition body (rounds + 1) s last →
      ∃ name, body.Assigns name ∧ condition.Mentions name := by
  have loops := (Stmt.ends_whileDo_iff condition body s (.done last)).1 ⟨nofun, fuel, through⟩
  obtain ⟨number, counted⟩ := loops.exists_rounds rfl
  refine ⟨?_, ⟨number, counted⟩, ?_⟩
  · have full : Value.boolean false ≠ .null := nofun
    exact (Session.evaluate_eq_ok_iff full).2 ⟨counted.denotes_false, rfl⟩
  · intro rounds counted
    by_contra untouched
    have free : ∀ name, condition.Mentions name → ¬ body.Assigns name :=
      fun name mentioned assigned => untouched ⟨name, assigned, mentioned⟩
    cases counted with
    | again tested ran more =>
      have holds := (Session.test_eq_ok_iff.1 tested).1
      exact (Session.Rounds.again tested ran more).not_denotes_true free holds

/-- The only round of the loop ends with an assignment inside a conditional. -/
theorem Stmt.whileDo_touches_condition_once :
    ∃ last : Session,
      (Stmt.whileDo (.variable "go")
        [.ifThen (.variable "go") [.assign (.variable "go") (some (.variable "false"))]]).run 2
          ((Session.fresh 0 .unlimited).define "go" (.boolean true)) = .done last ∧
      last.evaluate (.variable "go") = (.ok (.boolean false), last) ∧
      ∃ name, Program.Assigns
          [.ifThen (.variable "go") [.assign (.variable "go") (some (.variable "false"))]] name ∧
        (Expr.variable "go").Mentions name := by
  obtain ⟨off, -, touched⟩ := Stmt.whileDo_touches_condition (.variable "go")
    [.ifThen (.variable "go") [.assign (.variable "go") (some (.variable "false"))]] 2
    ((Session.fresh 0 .unlimited).define "go" (.boolean true)) _ rfl
  have assigned := touched 0 (.again rfl ⟨nofun, 0, rfl⟩ (.finished rfl))
  exact ⟨_, rfl, off, assigned⟩

end Scriptlet
