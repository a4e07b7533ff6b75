import Scriptlet.Proofs.Grammar.Soundness
import Scriptlet.Proofs.Parser.Procedure

/-!
# Expressions are maximal

Behind an expression stands no opening parenthesis and no operator (`front?_of_expression`). A
statement has a branch for a parenthesis behind its expression, and without this branch the
procedures make up the same parser (`implements_withoutCall`). What a run enters on its way is said
by `Enters`: arguments are entered only where a parenthesis is opened.
-/

namespace Scriptlet.Parser
open Token (front?)

variable {α : Type}

/-- Nothing that would extend an expression stands behind it. -/
lemma front?_of_expression {tokens rest : List Token} {value : Expr}
    (read : expression tokens = .ok value rest) :
    front? rest ≠ some "(" ∧ ∀ op : Operator, front? rest ≠ some op.symbol := by
  obtain ⟨phrase, -, -, follow⟩ := Grammar.sound_expression read
  refine ⟨follow "(" (by decide), fun op => follow op.symbol ?_⟩
  cases op <;> decide

/-! ## Statements without a call -/

/-- A procedure may be written with another code that does no more than it may and reads the
same. -/
lemma Implements.update {table : Table} (implements : Implements table) {procedure : Procedure}
    {code : Code procedure.Result} (reads : code.reader = procedure.reader)
    (meets : ∀ tokens, code.Meets Missed (procedure.Calls tokens) tokens) :
    Implements (Function.update table procedure code) where
  reads other := by
    by_cases same : other = procedure
    · subst same
      rwa [Function.update_self]
    · rw [Function.update_of_ne same]
      exact implements.reads other
  meets other := by
    by_cases same : other = procedure
    · subst same
      rwa [Function.update_self]
    · rw [Function.update_of_ne same]
      exact implements.meets other

/-- An assignment or an expression alone, but no call behind an expression. -/
def Code.simpleWithoutCall : Code Stmt := do
  let first ← call .expression
  if ← sees "=" then assignment first
  else effect first

/-- The codes of the procedures, without the branch of a statement for a call behind its
expression. -/
def Procedure.withoutCall : Table :=
  Function.update code .simple .simpleWithoutCall

/-- Without the branch the code reads the same, since behind its expression no parenthesis is
opened. -/
lemma Code.reader_simpleWithoutCall : simpleWithoutCall.reader = simple := by
  funext tokens
  simp only [simpleWithoutCall, reader_bind, reader_lift, reader_ite, reader_assignment,
    reader_effect]
  rw [simple_eq, bind_apply, bind_apply, reader, Procedure.reader]
  cases read : expression tokens with
  | ok first rest =>
    have noCall := (front?_of_expression read).1
    simp only [simpleTail, sees_bind_eq, if_neg noCall]
  | error cause rest => rfl

/-- Without the branch the code does no more than a simple statement may. -/
lemma meets_simpleWithoutCall (tokens : List Token) :
    Code.simpleWithoutCall.Meets Missed (Procedure.simple.Calls tokens) tokens := by
  refine ⟨.lower (Nat.le_refl _) (by decide) nofun, fun first rest read => ?_⟩
  have shorter := advances_expression read
  refine meets_sees (fun _ => ?_) meets_effect
  exact meets_assignment fun rest' short => .behind (by omega) nofun

/-- Without the branch for a call, the procedures make up the same parser. -/
theorem implements_withoutCall : Implements Procedure.withoutCall :=
  implements_code.update Code.reader_simpleWithoutCall meets_simpleWithoutCall

/-! ## What a run enters -/

/-- When a code runs on some tokens, it enters a procedure on what is left of them, itself or in one
of the procedures that it calls. -/
inductive Enters (table : Table) :
    {α : Type} → Code α → List Token → Procedure → List Token → Prop where
  | call {procedure tokens} :
    Enters table (.call procedure) tokens procedure tokens
  | within {procedure tokens callee rest} :
    Enters table (table procedure) tokens callee rest →
    Enters table (.call procedure) tokens callee rest
  | first {α β : Type} {first : Code α} {next : α → Code β} {tokens callee rest} :
    Enters table first tokens callee rest →
    Enters table (.bind first next) tokens callee rest
  | next {α β : Type} {first : Code α} {next : α → Code β} {tokens value between callee rest} :
    Runs table first tokens (.ok value between) →
    Enters table (next value) between callee rest →
    Enters table (.bind first next) tokens callee rest
  | loop {α : Type} {round : Code (Option α)} {tokens callee rest} :
    Enters table (.bind round (.again round)) tokens callee rest →
    Enters table (.loop round) tokens callee rest

section Enters

variable {table : Table} {code : Code α} {tokens rest : List Token} {callee : Procedure}

/-- Wherever a code calls for arguments, a parenthesis is opened. -/
lemma Implements.meets_opened (implements : Implements table) (procedure : Procedure)
    (tokens : List Token) : (table procedure).Meets Missed Procedure.Opened tokens :=
  (implements.meets procedure tokens).mono Procedure.Calls.opened

/-- Whatever a run enters is opened if the calls of the codes are. -/
lemma Enters.opened (enters : Enters table code tokens callee rest) (implements : Implements table)
    (meets : code.Meets Missed Procedure.Opened tokens) : callee.Opened rest := by
  induction enters with
  | call => exact meets
  | within _ ih => exact ih (implements.meets_opened _ _)
  | first _ ih => exact ih meets.1
  | next run _ ih =>
    have read := implements.reader_eq run (meets.1.mono fun _ => trivial)
    exact ih (meets.2 _ _ read)
  | loop _ ih => exact ih meets.round

end Enters

/-- Behind an expression stands neither an opening parenthesis nor an operator. So the procedures
come to the same results if a statement has no branch for a parenthesis behind its expression, and
arguments are only ever entered where a parenthesis is opened. -/
theorem expressions_maximal :
    (∀ tokens value rest, expression tokens = .ok value rest →
      front? rest ≠ some "(" ∧ ∀ op : Operator, front? rest ≠ some op.symbol) ∧
    (∀ (procedure : Procedure) tokens result,
      (Runs Procedure.code (.call procedure) tokens result ↔ result = procedure.reader tokens) ∧
      (Runs Procedure.withoutCall (.call procedure) tokens result ↔
        result = procedure.reader tokens)) ∧
    ∀ (procedure : Procedure) tokens rest,
      Enters Procedure.code (Procedure.code procedure) tokens .arguments rest →
      front? rest = some "(" := by
  refine ⟨fun tokens value rest => front?_of_expression, ?_, ?_⟩
  · intro procedure tokens result
    exact ⟨implements_code.runs_iff, implements_withoutCall.runs_iff⟩
  · intro procedure tokens rest enters
    exact enters.opened implements_code (implements_code.meets_opened procedure tokens) rfl

/-- The parentheses of a call belong to the expression, and its arguments are entered on the
first. -/
theorem expressions_maximal_of_call :
    (expression [⟨.identifier, "f"⟩, ⟨.punctuation, "("⟩, ⟨.punctuation, ")"⟩,
        ⟨.punctuation, ";"⟩] = .ok (.invoke (.variable "f") none) [⟨.punctuation, ";"⟩] ∧
      front? [⟨.punctuation, ";"⟩] ≠ some "(") ∧
    Enters Procedure.code (Procedure.code .primary)
        [⟨.identifier, "f"⟩, ⟨.punctuation, "("⟩, ⟨.punctuation, ")"⟩] .arguments
        [⟨.punctuation, "("⟩, ⟨.punctuation, ")"⟩] ∧
      front? [⟨.punctuation, "("⟩, ⟨.punctuation, ")"⟩] = some "(" := by
  have read : expression [⟨.identifier, "f"⟩, ⟨.punctuation, "("⟩, ⟨.punctuation, ")"⟩,
      ⟨.punctuation, ";"⟩] = .ok (.invoke (.variable "f") none) [⟨.punctuation, ";"⟩] := rfl
  have enters : Enters Procedure.code (Procedure.code .primary)
      [⟨.identifier, "f"⟩, ⟨.punctuation, "("⟩, ⟨.punctuation, ")"⟩] .arguments
      [⟨.punctuation, "("⟩, ⟨.punctuation, ")"⟩] := by
    have head := implements_code.runs .operand
      [⟨.identifier, "f"⟩, ⟨.punctuation, "("⟩, ⟨.punctuation, ")"⟩]
    exact .next head (.first (.loop (.first (.next (.basic (sees "(") _) (.first .call)))))
  exact ⟨⟨read, (expressions_maximal.1 _ _ _ read).1⟩, enters,
    expressions_maximal.2.2 .primary _ _ enters⟩

end Scriptlet.Parser
