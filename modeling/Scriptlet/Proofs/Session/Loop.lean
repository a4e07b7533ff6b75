import Scriptlet.Proofs.Program.Denotation
import Scriptlet.Proofs.Session.Fuel

/-!
# Loops

A loop tests its condition once before it starts to repeat, and nothing shows that it does. A test
with an answer leaves the session as it was (`Session.test_eq_ok_iff`), and so the next test has the
same answer. A loop therefore ends exactly as one that tests its condition once in each round
(`Session.Loops`).
-/

namespace Scriptlet

namespace Session

variable {s last : Session}

/-- A computation in a session has a value if it has it with the session's variables and sink, and
the sink is all that it changes. -/
lemma perform_eq_ok_iff {α : Type} {action : Bindings → Writing α} {result : α} :
    s.perform action = (.ok result, last) ↔
      ∃ sink, action s.vars s.sink = (.ok result, sink) ∧ last = { s with sink } := by
  rw [perform]
  rcases action s.vars s.sink with ⟨known, taken⟩
  constructor
  · intro same
    cases same
    exact ⟨taken, rfl, rfl⟩
  · rintro ⟨sink, same, rfl⟩
    cases same
    rfl

/-- An expression has a value other than the empty one exactly if it denotes it, and then the
session stays as it was. -/
lemma evaluate_eq_ok_iff {e : Expr} {value : Value} (full : value ≠ .null) :
    s.evaluate e = (.ok value, last) ↔ e.Denotes s.vars value ∧ last = s := by
  rw [evaluate, perform_eq_ok_iff]
  constructor
  · rintro ⟨sink, evaluated, rfl⟩
    obtain ⟨denotes, rfl⟩ := (Expr.eval_eq_ok_iff_denotes full).1 evaluated
    exact ⟨denotes, rfl⟩
  · rintro ⟨denotes, rfl⟩
    exact ⟨last.sink, denotes.eval last.sink, rfl⟩

/-- A test has an answer exactly if its condition denotes it, and then the session stays as it
was. -/
lemma test_eq_ok_iff {condition : Expr} {holds : Bool} :
    s.test condition = (.ok holds, last) ↔
      condition.Denotes s.vars (.boolean holds) ∧ last = s := by
  rw [test, perform_eq_ok_iff]
  constructor
  · rintro ⟨sink, answered, rfl⟩
    obtain ⟨denotes, rfl⟩ := Expr.holds_eq_ok_iff.1 answered
    exact ⟨denotes, rfl⟩
  · rintro ⟨denotes, rfl⟩
    exact ⟨last.sink, Expr.holds_eq_ok_iff.2 ⟨denotes, rfl⟩, rfl⟩

end Session

/-! ## Runs that end -/

/-- An outcome with fuel left is the outcome of every run that it is within. -/
lemma Outcome.Within.eq {ε : Type} {first second : Outcome ε} (within : first.Within second)
    (ends : first ≠ .outOfFuel) : second = first := by
  rcases within with used | same
  · exact absurd used ends
  · exact same.symm

/-- The run of a statement ends in the outcome, if the fuel suffices. -/
def Stmt.Ends (stmt : Stmt) (s : Session) (outcome : Outcome Fault) : Prop :=
  outcome ≠ .outOfFuel ∧ ∃ fuel, stmt.run fuel s = outcome

/-- The run of a program ends in the outcome, if the fuel suffices. -/
def Program.Ends (program : Program) (s : Session) (outcome : Outcome Fault) : Prop :=
  outcome ≠ .outOfFuel ∧ ∃ fuel, program.run fuel s = outcome

/-- With more fuel the run of a program has the same outcome, unless the fuel was used up. -/
lemma Program.run_within (program : Program) {fuel more : Nat} (le : fuel ≤ more) (s : Session) :
    (program.run fuel s).Within (program.run more s) :=
  Stmt.execAll_within _ le program s

namespace Session

/-- A loop that tests its condition once in each round. It fails if the test has no answer, finishes
if the condition does not hold, and otherwise runs its body, which may fail, and starts again. -/
inductive Loops (condition : Expr) (body : Program) : Session → Outcome Fault → Prop where
  | refused {s last : Session} {fault : Fault} (tested : s.test condition = (.error fault, last)) :
      Loops condition body s (.failed fault last)
  | finished {s last : Session} (tested : s.test condition = (.ok false, last)) :
      Loops condition body s (.done last)
  | stopped {s middle last : Session} {fault : Fault}
      (tested : s.test condition = (.ok true, middle))
      (ran : body.Ends middle (.failed fault last)) : Loops condition body s (.failed fault last)
  | again {s middle next : Session} {outcome : Outcome Fault}
      (tested : s.test condition = (.ok true, middle)) (ran : body.Ends middle (.done next))
      (more : Loops condition body next outcome) : Loops condition body s outcome

variable {condition : Expr} {body : Program} {s : Session} {outcome : Outcome Fault}

/-- A repetition that ends is a loop. -/
lemma loops_of_repeatWhile {fuel rounds : Nat} (ends : outcome ≠ .outOfFuel)
    (repeated : repeatWhile condition (body.run fuel) rounds s = outcome) :
    Loops condition body s outcome := by
  induction rounds generalizing s with
  | zero => exact absurd repeated.symm ends
  | succ rounds ih =>
    rw [repeatWhile_succ] at repeated
    rcases tested : s.test condition with ⟨fault | _ | _, middle⟩
    · rw [tested] at repeated
      exact repeated ▸ .refused tested
    · rw [tested] at repeated
      exact repeated ▸ .finished tested
    · rw [tested] at repeated
      simp only [Outcome.ofResult, if_true] at repeated
      cases ran : body.run fuel middle with
      | done next =>
        rw [ran] at repeated
        exact .again tested ⟨by simp, fuel, ran⟩ (ih repeated)
      | failed fault last =>
        rw [ran] at repeated
        exact repeated ▸ .stopped tested ⟨by simp, fuel, ran⟩
      | outOfFuel =>
        rw [ran] at repeated
        exact absurd repeated.symm ends

/-- A loop is a repetition with enough fuel, which ends. -/
lemma Loops.exists_repeatWhile (loops : Loops condition body s outcome) :
    outcome ≠ .outOfFuel ∧
      ∃ fuel, repeatWhile condition (body.run (fuel + 1)) (fuel + 1) s = outcome := by
  induction loops with
  | refused tested => exact ⟨nofun, 0, by rw [repeatWhile_succ, tested]; rfl⟩
  | finished tested => exact ⟨nofun, 0, by rw [repeatWhile_succ, tested]; rfl⟩
  | @stopped s middle last fault tested ran =>
    obtain ⟨ends, fuel, ran⟩ := ran
    have ran' := (body.run_within (Nat.le_succ fuel) middle).eq (ran ▸ ends)
    refine ⟨ends, fuel, ?_⟩
    rw [repeatWhile_succ, tested]
    simp only [Outcome.ofResult, if_true, ran', ran]
    rfl
  | @again s middle next outcome tested ran more ih =>
    obtain ⟨ends, rounds, repeated⟩ := ih
    obtain ⟨through, fuel, ran⟩ := ran
    -- one round more than the rest of the loop takes, and enough for the body
    obtain ⟨all, enough, room⟩ : ∃ all, fuel ≤ all + 1 ∧ rounds + 1 ≤ all :=
      ⟨max fuel (rounds + 1), by omega, by omega⟩
    have ran' := (body.run_within enough middle).eq (ran ▸ through)
    have rest : (repeatWhile condition (body.run (rounds + 1)) (rounds + 1) next).Within
        (repeatWhile condition (body.run (all + 1)) all next) :=
      repeatWhile_within (body.run_within (Nat.le_succ_of_le room)) room next
    refine ⟨ends, all, ?_⟩
    rw [repeatWhile_succ, tested]
    simp only [Outcome.ofResult, if_true, ran', ran]
    exact (rest.eq (repeated ▸ ends)).trans repeated

end Session

/-- The test before the first round makes no difference. -/
lemma Stmt.run_whileDo_succ (condition : Expr) (body : Program) (fuel : Nat) (s : Session) :
    (Stmt.whileDo condition body).run (fuel + 1) s =
      Session.repeatWhile condition (body.run (fuel + 1)) (fuel + 1) s := by
  rw [Stmt.run, Stmt.exec_whileDo]
  rcases tested : s.test condition with ⟨fault | holds, middle⟩
  · rw [Session.repeatWhile_succ, tested]
    rfl
  · rw [(Session.test_eq_ok_iff.1 tested).2]
    rfl

/-- With more fuel the run of one statement has the same outcome, unless the fuel was used up. -/
lemma Stmt.run_within (stmt : Stmt) {fuel more : Nat} (le : fuel ≤ more) (s : Session) :
    (stmt.run fuel s).Within (stmt.run more s) :=
  Stmt.exec_within _ le stmt s

/-- A loop ends as if its condition were tested once before each round, and in no other way. -/
lemma Stmt.ends_whileDo_iff (condition : Expr) (body : Program) (s : Session)
    (outcome : Outcome Fault) :
    (Stmt.whileDo condition body).Ends s outcome ↔ Session.Loops condition body s outcome := by
  constructor
  · rintro ⟨ends, fuel, ran⟩
    have ran' := ((Stmt.whileDo condition body).run_within (Nat.le_succ fuel) s).eq (ran ▸ ends)
    rw [Stmt.run_whileDo_succ] at ran'
    exact Session.loops_of_repeatWhile ends (ran'.trans ran)
  · intro loops
    obtain ⟨ends, fuel, repeated⟩ := loops.exists_repeatWhile
    exact ⟨ends, fuel + 1, (Stmt.run_whileDo_succ condition body fuel s).trans repeated⟩

/-- Whatever the session, the condition and the body, a loop ends exactly as one that tests its
condition once in each round: with the same fault or none, the same variables and the same output.
It goes on for ever exactly if the other one does. -/
theorem Stmt.whileDo_tests_once (condition : Expr) (body : Program) (s : Session) :
    (∀ outcome, (Stmt.whileDo condition body).Ends s outcome ↔
      Session.Loops condition body s outcome) ∧
    ((∀ fuel, (Stmt.whileDo condition body).run fuel s = .outOfFuel) ↔
      ¬ ∃ outcome, Session.Loops condition body s outcome) := by
  have same := Stmt.ends_whileDo_iff condition body s
  refine ⟨same, ?_⟩
  constructor
  · rintro forever ⟨outcome, loops⟩
    obtain ⟨ends, fuel, ran⟩ := (same outcome).2 loops
    exact ends (ran.symm.trans (forever fuel))
  · intro never fuel
    by_contra ends
    exact never ⟨_, (same _).1 ⟨ends, fuel, rfl⟩⟩

end Scriptlet
