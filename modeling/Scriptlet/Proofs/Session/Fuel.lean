import Mathlib.Tactic.Common
import Scriptlet.Session.Run

/-!
# Runs without fuel

A run with more fuel has the same outcome, unless the smaller one was used up
(`Stmt.execAll_within`). So a source text ends in at most one way, whatever the fuel
(`Session.Ends`), and one run after another ends as the whole does.
-/

namespace Scriptlet

namespace Outcome

variable {ε ε' : Type}

/-- Goes on from where the first outcome is through. -/
def andThen (first : Outcome ε) (next : Session → Outcome ε) : Outcome ε :=
  match first with
  | .done s => next s
  | .failed cause s => .failed cause s
  | .outOfFuel => .outOfFuel

/-- Going on is associative. -/
lemma andThen_assoc (first : Outcome ε) (next last : Session → Outcome ε) :
    (first.andThen next).andThen last = first.andThen fun s => (next s).andThen last := by
  cases first <;> rfl

/-- A change of the causes can be made in both parts of a run. -/
lemma mapCause_andThen (f : ε → ε') (first : Outcome ε) (next : Session → Outcome ε) :
    (first.andThen next).mapCause f = (first.mapCause f).andThen fun s => (next s).mapCause f := by
  cases first <;> rfl

/-- The first outcome is the second one, unless its fuel was used up. -/
def Within (first second : Outcome ε) : Prop :=
  first = .outOfFuel ∨ first = second

/-- Every outcome is within itself. -/
lemma Within.refl (outcome : Outcome ε) : outcome.Within outcome :=
  .inr rfl

/-- Runs in a row are within each other, if their parts are. -/
lemma Within.andThen {first first' : Outcome ε} {next next' : Session → Outcome ε}
    (head : first.Within first') (tail : ∀ s, (next s).Within (next' s)) :
    (first.andThen next).Within (first'.andThen next') := by
  rcases head with rfl | rfl
  · exact .inl rfl
  · cases first with
    | done s => exact tail s
    | failed cause s => exact .inr rfl
    | outOfFuel => exact .inl rfl

/-- A change of the causes keeps an outcome within the other. -/
lemma Within.mapCause {first second : Outcome ε} (f : ε → ε') (within : first.Within second) :
    (first.mapCause f).Within (second.mapCause f) := by
  rcases within with rfl | rfl
  · exact .inl rfl
  · exact .inr rfl

/-- What is done with a result is within the other, if it is for every value. -/
lemma Within.ofResult {α : Type} {step step' : α → Session → Outcome ε}
    (steps : ∀ value s, (step value s).Within (step' value s)) (result : Except ε α × Session) :
    (Outcome.ofResult step result).Within (Outcome.ofResult step' result) := by
  obtain ⟨_ | value, s⟩ := result
  · exact .refl _
  · exact steps value s

end Outcome

/-! ## Runs as sequences -/

/-- A repetition with fuel left is a test and, if it holds, the body and the repetition with less
fuel. -/
lemma Session.repeatWhile_succ (condition : Expr) (body : Session → Outcome Fault) (fuel : Nat)
    (s : Session) :
    Session.repeatWhile condition body (fuel + 1) s =
      .ofResult (fun holds s => if holds then
        (body s).andThen (Session.repeatWhile condition body fuel) else .done s)
        (s.test condition) := by
  rw [Session.repeatWhile]
  rcases s.test condition with ⟨_ | _ | _, s⟩
  · rfl
  · rfl
  · simp only [Outcome.ofResult, if_true]
    cases body s <;> rfl

/-- Statements are run from the first to the last. -/
lemma Stmt.execAll_cons (enter : Stmt → Session → Session) (fuel : Nat) (stmt : Stmt)
    (more : List Stmt) (s : Session) :
    Stmt.execAll enter fuel (stmt :: more) s =
      (stmt.exec enter fuel s).andThen (Stmt.execAll enter fuel more) := by
  rw [Stmt.execAll]
  cases stmt.exec enter fuel s <;> rfl

/-- A conditional tests its condition and runs its block, if the condition holds. -/
lemma Stmt.exec_ifThen (enter : Stmt → Session → Session) (fuel : Nat) (condition : Expr)
    (body : List Stmt) (s : Session) :
    (Stmt.ifThen condition body).exec enter fuel s =
      .ofResult (fun holds s => if holds then Stmt.execAll enter fuel body s else .done s)
        ((enter (.ifThen condition body) s).test condition) := by
  rw [Stmt.exec]
  rcases (enter (.ifThen condition body) s).test condition with ⟨_ | _ | _, s⟩ <;> rfl

/-- A loop tests its condition once before the repetition starts, which tests it again. -/
lemma Stmt.exec_whileDo (enter : Stmt → Session → Session) (fuel : Nat) (condition : Expr)
    (body : List Stmt) (s : Session) :
    (Stmt.whileDo condition body).exec enter fuel s =
      .ofResult
        (fun _ s => Session.repeatWhile condition (fun s => Stmt.execAll enter fuel body s) fuel s)
        ((enter (.whileDo condition body) s).test condition) := by
  rw [Stmt.exec]
  rcases (enter (.whileDo condition body) s).test condition with ⟨_ | _, s⟩ <;> rfl

/-- Statements one after the other run in two parts. -/
lemma Stmt.execAll_append (enter : Stmt → Session → Session) (fuel : Nat) (first second : List Stmt)
    (s : Session) :
    Stmt.execAll enter fuel (first ++ second) s =
      (Stmt.execAll enter fuel first s).andThen (Stmt.execAll enter fuel second) := by
  induction first generalizing s with
  | nil =>
    rw [List.nil_append, Stmt.execAll]
    rfl
  | cons stmt more ih =>
    rw [List.cons_append, Stmt.execAll_cons, Stmt.execAll_cons, Outcome.andThen_assoc]
    exact congrArg _ (funext ih)

/-! ## More fuel -/

/-- With more fuel and a body that goes further, a repetition only ends more often. -/
lemma Session.repeatWhile_within {condition : Expr} {body body' : Session → Outcome Fault}
    (bodies : ∀ s, (body s).Within (body' s)) {fuel more : Nat} (le : fuel ≤ more) (s : Session) :
    (Session.repeatWhile condition body fuel s).Within
      (Session.repeatWhile condition body' more s) := by
  induction fuel generalizing more s with
  | zero => exact .inl rfl
  | succ fuel ih =>
    obtain ⟨more, rfl⟩ : ∃ n, more = n + 1 := ⟨more - 1, by omega⟩
    rw [Session.repeatWhile_succ, Session.repeatWhile_succ]
    refine .ofResult ?_ _
    rintro (_ | _) s
    · exact .refl _
    · exact (bodies s).andThen fun s => ih (Nat.le_of_succ_le_succ le) s

mutual

/-- With more fuel the run of a statement has the same outcome, unless the fuel was used up. -/
lemma Stmt.exec_within (enter : Stmt → Session → Session) {fuel more : Nat} (le : fuel ≤ more) :
    ∀ (stmt : Stmt) (s : Session), (stmt.exec enter fuel s).Within (stmt.exec enter more s)
  | .expr e, s => by
    rw [Stmt.exec, Stmt.exec]
    exact .refl _
  | .assign target value, s => by
    rw [Stmt.exec, Stmt.exec]
    exact .refl _
  | .ifThen condition body, s => by
    rw [Stmt.exec_ifThen, Stmt.exec_ifThen]
    refine .ofResult ?_ _
    rintro (_ | _) s
    · exact .refl _
    · exact Stmt.execAll_within enter le body s
  | .whileDo condition body, s => by
    rw [Stmt.exec_whileDo, Stmt.exec_whileDo]
    refine .ofResult ?_ _
    intro _ s
    exact Session.repeatWhile_within (Stmt.execAll_within enter le body) le s

/-- With more fuel statements have the same outcome, unless the fuel was used up. -/
lemma Stmt.execAll_within (enter : Stmt → Session → Session) {fuel more : Nat} (le : fuel ≤ more) :
    ∀ (stmts : List Stmt) (s : Session),
      (Stmt.execAll enter fuel stmts s).Within (Stmt.execAll enter more stmts s)
  | [], s => by
    rw [Stmt.execAll, Stmt.execAll]
    exact .refl _
  | stmt :: rest, s => by
    rw [Stmt.execAll_cons, Stmt.execAll_cons]
    exact (Stmt.exec_within enter le stmt s).andThen (Stmt.execAll_within enter le rest)

end

namespace Session

/-- The run of a source text ends in the outcome, if the fuel suffices. -/
def Ends (s : Session) (source : String) (outcome : Outcome Error) : Prop :=
  outcome ≠ .outOfFuel ∧ ∃ fuel, s.run fuel source = outcome

/-- With more fuel the run of a source text has the same outcome, unless the fuel was used up. -/
lemma run_within {fuel more : Nat} (le : fuel ≤ more) (source : String) (s : Session) :
    (s.run fuel source).Within (s.run more source) := by
  rw [run, run, runBy, runBy]
  cases Program.ofSource source with
  | error e => exact .refl _
  | ok program => exact (Stmt.execAll_within _ le program s).mapCause _

variable {s : Session} {source : String} {outcome : Outcome Error}

/-- A run that ends has its outcome with all fuel from some amount on. -/
lemma Ends.of_le {fuel : Nat} (ends : outcome ≠ .outOfFuel) (run : s.run fuel source = outcome)
    {more : Nat} (le : fuel ≤ more) : s.run more source = outcome := by
  rcases run_within le source s with used | same
  · exact absurd (run.symm.trans used) ends
  · exact same.symm.trans run

/-- The run of a source text ends in one outcome only. -/
lemma Ends.unique {other : Outcome Error} (first : s.Ends source outcome)
    (second : s.Ends source other) : outcome = other := by
  obtain ⟨ends, fuel, run⟩ := first
  obtain ⟨ends', fuel', run'⟩ := second
  have left := Ends.of_le ends run (Nat.le_max_left fuel fuel')
  have right := Ends.of_le ends' run' (Nat.le_max_right fuel fuel')
  exact left.symm.trans right

/-- If a text runs as two others one after the other, it ends as the second does where the first is
through, or as the first does where it fails. -/
lemma ends_iff_of_sequence {whole first second : String}
    (sequence : ∀ fuel (s : Session),
      s.run fuel whole = (s.run fuel first).andThen fun s => s.run fuel second) :
    s.Ends whole outcome ↔
      (∃ middle, s.Ends first (.done middle) ∧ middle.Ends second outcome) ∨
        ∃ e last, outcome = .failed e last ∧ s.Ends first (.failed e last) := by
  constructor
  · rintro ⟨ends, fuel, run⟩
    rw [sequence] at run
    cases head : s.run fuel first with
    | done middle =>
      rw [head] at run
      exact .inl ⟨middle, ⟨by simp, fuel, head⟩, ends, fuel, run⟩
    | failed e last =>
      rw [head] at run
      exact .inr ⟨e, last, run.symm, by simp, fuel, head⟩
    | outOfFuel =>
      rw [head] at run
      exact absurd run.symm ends
  · rintro (⟨middle, ⟨ends, fuel, run⟩, ends', fuel', run'⟩ | ⟨e, last, rfl, ends, fuel, run⟩)
    · -- the larger of the two amounts of fuel suffices for both parts
      refine ⟨ends', max fuel fuel', ?_⟩
      rw [sequence, Ends.of_le ends run (Nat.le_max_left fuel fuel')]
      exact Ends.of_le ends' run' (Nat.le_max_right fuel fuel')
    · refine ⟨ends, fuel, ?_⟩
      rw [sequence, run]
      rfl

end Session

end Scriptlet
