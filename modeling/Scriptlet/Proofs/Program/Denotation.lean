import Scriptlet.Program.Eval
import Scriptlet.Proofs.Program.Parts

/-!
# Values without effects

Some expressions have a value that can be read off the variables: numbers, variables, and what
operators make of such values. No call is among them, since a call has an empty value or none, and
no operator applies to that. So an expression with a value that is not empty denotes this value, and
it writes nothing (`Expr.eval_eq_ok_iff_denotes`). The value depends only on the variables that
stand in the expression (`Expr.Denotes.congr`).
-/

namespace Scriptlet

namespace Writing

variable {α β : Type} {sink last : Sink}

/-- A constant computation has its constant as result and writes nothing. -/
lemma pure_eq_ok_iff {value result : α} :
    (pure value : Writing α) sink = (.ok result, last) ↔ value = result ∧ sink = last := by
  simp

/-- A known result is the result, and nothing is written. -/
lemma ofResult_eq_ok_iff {known : Except Fault α} {result : α} :
    ofResult known sink = (.ok result, last) ↔ known = .ok result ∧ sink = last := by
  simp [ofResult]

/-- A sequence has a result exactly if its first part has one with which the second goes on. -/
lemma bind_eq_ok_iff {first : Writing α} {next : α → Writing β} {result : β} :
    (first >>= next) sink = (.ok result, last) ↔
      ∃ value middle, first sink = (.ok value, middle) ∧
        next value middle = (.ok result, last) := by
  rw [bind_apply]
  rcases first sink with ⟨fault | value, middle⟩ <;> simp

end Writing

/-! ## The empty value -/

/-- No operator applies to an empty value. -/
lemma Operator.ne_null_of_applySymbol {symbol : String} {left right value : Value}
    (applied : Operator.applySymbol symbol left right = .ok value) :
    left ≠ .null ∧ right ≠ .null := by
  rw [Operator.applySymbol.eq_def] at applied
  split at applied
  · rw [Operator.apply.eq_def] at applied
    split at applied
    · exact ⟨nofun, nofun⟩
    · exact ⟨nofun, nofun⟩
    · exact ⟨nofun, nofun⟩
    · cases applied
  · cases applied

/-- The empty value cannot be negated. -/
lemma Value.ne_null_of_negated {inner value : Value} (negated : inner.negated = .ok value) :
    inner ≠ .null := by
  rintro rfl
  cases negated

/-- Only truth values have a truth. -/
lemma Value.truth_eq_ok_iff {value : Value} {holds : Bool} :
    value.truth = .ok holds ↔ value = .boolean holds := by
  cases value with
  | boolean b => simp [Value.truth]
  | number | null | function => simp [Value.truth]

/-- A function that returns returns the empty value. -/
lemma Builtin.eq_null_of_run {f : Builtin} {values : List Value} {sink last : Sink} {value : Value}
    (ran : f.run values sink = (.ok value, last)) : value = .null := by
  obtain ⟨origin⟩ := f
  rw [Builtin.run] at ran
  obtain ⟨_, _, _, returned⟩ := Writing.bind_eq_ok_iff.1 ran
  exact (Writing.pure_eq_ok_iff.1 returned).1.symm

/-! ## Values that are read off the variables -/

/-- A variable has the value that it is bound to. -/
lemma Bindings.get_eq_ok_iff {vars : Bindings} {name : String} {value : Value} :
    vars.get name = .ok value ↔ vars.find? name = some value := by
  rw [Bindings.get]
  cases vars.find? name <;> simp

namespace Expr

/-- The expression has the value, and no call is needed to find it. -/
inductive Denotes (vars : Bindings) : Expr → Value → Prop where
  | number (x : Float) : Denotes vars (.number x) (.number x)
  | name {name : String} {value : Value} (bound : vars.find? name = some value) :
      Denotes vars (.variable name) value
  | binary {symbol : String} {left right : Expr} {a b value : Value} (first : Denotes vars left a)
      (second : Denotes vars right b) (applied : Operator.applySymbol symbol a b = .ok value) :
      Denotes vars (.binary symbol left right) value
  | group {inner : Expr} {value : Value} (whole : Denotes vars inner value) :
      Denotes vars (.group inner) value
  | negate {inner : Expr} {a value : Value} (operand : Denotes vars inner a)
      (negated : a.negated = .ok value) : Denotes vars (.negate inner) value

variable {vars : Bindings} {e : Expr} {value : Value} {sink last : Sink}

section Evaluation
open Writing

/-- A value that is not empty is denoted. -/
lemma denotes_of_eval (e : Expr) {value : Value} {sink last : Sink}
    (evaluated : e.eval vars sink = (.ok value, last)) (full : value ≠ .null) :
    e.Denotes vars value := by
  cases e with
  | number x =>
    rw [eval] at evaluated
    obtain ⟨rfl, -⟩ := pure_eq_ok_iff.1 evaluated
    exact .number x
  | «variable» name =>
    rw [eval] at evaluated
    obtain ⟨got, -⟩ := ofResult_eq_ok_iff.1 evaluated
    exact .name (Bindings.get_eq_ok_iff.1 got)
  | binary symbol left right =>
    rw [eval] at evaluated
    obtain ⟨a, _, first, evaluated⟩ := bind_eq_ok_iff.1 evaluated
    obtain ⟨b, _, second, evaluated⟩ := bind_eq_ok_iff.1 evaluated
    obtain ⟨applied, -⟩ := ofResult_eq_ok_iff.1 evaluated
    obtain ⟨fullA, fullB⟩ := Operator.ne_null_of_applySymbol applied
    exact .binary (denotes_of_eval left first fullA) (denotes_of_eval right second fullB) applied
  | unfinished symbol left =>
    rw [eval] at evaluated
    exact absurd (pure_eq_ok_iff.1 evaluated).1.symm full
  | group inner =>
    rw [eval] at evaluated
    exact .group (denotes_of_eval inner evaluated full)
  | invoke callee arguments =>
    rw [eval] at evaluated
    obtain ⟨_, _, _, evaluated⟩ := bind_eq_ok_iff.1 evaluated
    obtain ⟨f, _, _, evaluated⟩ := bind_eq_ok_iff.1 evaluated
    obtain ⟨_, _, _, ran⟩ := bind_eq_ok_iff.1 evaluated
    exact absurd (Builtin.eq_null_of_run ran) full
  | negate inner =>
    rw [eval] at evaluated
    obtain ⟨_, _, first, evaluated⟩ := bind_eq_ok_iff.1 evaluated
    obtain ⟨negated, -⟩ := ofResult_eq_ok_iff.1 evaluated
    exact .negate (denotes_of_eval inner first (Value.ne_null_of_negated negated)) negated

/-- A denoted value is found without writing. -/
lemma Denotes.eval (denotes : e.Denotes vars value) (sink : Sink) :
    e.eval vars sink = (.ok value, sink) := by
  induction denotes with
  | number x => rw [Expr.eval, pure_apply]
  | name bound =>
    rw [Expr.eval, ofResult_eq_ok_iff]
    exact ⟨Bindings.get_eq_ok_iff.2 bound, rfl⟩
  | binary first second applied ihFirst ihSecond =>
    rw [Expr.eval, bind_eq_ok_iff]
    refine ⟨_, _, ihFirst, bind_eq_ok_iff.2 ⟨_, _, ihSecond, ?_⟩⟩
    exact ofResult_eq_ok_iff.2 ⟨applied, rfl⟩
  | group whole ih =>
    rw [Expr.eval]
    exact ih
  | negate operand negated ih =>
    rw [Expr.eval, bind_eq_ok_iff]
    exact ⟨_, _, ih, ofResult_eq_ok_iff.2 ⟨negated, rfl⟩⟩

/-- An expression has a value other than the empty one exactly if it denotes that value, and then it
writes nothing. -/
lemma eval_eq_ok_iff_denotes (full : value ≠ .null) :
    e.eval vars sink = (.ok value, last) ↔ e.Denotes vars value ∧ last = sink := by
  constructor
  · intro evaluated
    have denotes := denotes_of_eval e evaluated full
    rw [denotes.eval sink] at evaluated
    exact ⟨denotes, (congrArg Prod.snd evaluated).symm⟩
  · rintro ⟨denotes, rfl⟩
    exact denotes.eval last

/-- A test has an answer exactly if its condition denotes it, and then it writes nothing. -/
lemma holds_eq_ok_iff {condition : Expr} {holds : Bool} :
    condition.holds vars sink = (.ok holds, last) ↔
      condition.Denotes vars (.boolean holds) ∧ last = sink := by
  have full : Value.boolean holds ≠ .null := nofun
  rw [← eval_eq_ok_iff_denotes full, Expr.holds, bind_eq_ok_iff]
  constructor
  · rintro ⟨value, _, evaluated, answered⟩
    obtain ⟨answer, rfl⟩ := ofResult_eq_ok_iff.1 answered
    rwa [Value.truth_eq_ok_iff.1 answer] at evaluated
  · intro evaluated
    exact ⟨_, _, evaluated, ofResult_eq_ok_iff.2 ⟨Value.truth_eq_ok_iff.2 rfl, rfl⟩⟩

end Evaluation

/-- What is denoted depends on the variables that stand in the expression, and on no others. -/
lemma Denotes.congr {others : Bindings} (denotes : e.Denotes vars value)
    (agree : ∀ name, e.Mentions name → others.find? name = vars.find? name) :
    e.Denotes others value := by
  induction denotes with
  | number x => exact .number x
  | @name name value bound => exact .name ((agree name .here).trans bound)
  | binary first second applied ihFirst ihSecond =>
    have left := ihFirst fun name inside => agree name (inside.deeper (by simp [parts]))
    have right := ihSecond fun name inside => agree name (inside.deeper (by simp [parts]))
    exact .binary left right applied
  | group whole ih =>
    exact .group (ih fun name inside => agree name (inside.deeper (by simp [parts])))
  | negate operand negated ih =>
    exact .negate (ih fun name inside => agree name (inside.deeper (by simp [parts]))) negated

/-- No call stands in an expression that denotes a value. -/
lemma Denotes.not_hasCall (denotes : e.Denotes vars value) : ¬ e.HasCall := by
  rintro ⟨callee, arguments, contains⟩
  induction denotes with
  | number x | name bound =>
    obtain same | ⟨child, member, -⟩ := contains.inv
    · cases same
    · cases member
  | binary first second applied ihFirst ihSecond =>
    obtain same | ⟨child, member, inside⟩ := contains.inv
    · cases same
    · simp only [parts, List.mem_cons, List.not_mem_nil, or_false] at member
      obtain rfl | rfl := member
      · exact ihFirst inside
      · exact ihSecond inside
  | group whole ih | negate operand negated ih =>
    obtain same | ⟨child, member, inside⟩ := contains.inv
    · cases same
    · obtain rfl := List.mem_singleton.1 member
      exact ih inside

end Expr

end Scriptlet
