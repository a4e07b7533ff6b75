import Scriptlet.Proofs.Parser.Boundary
import Scriptlet.Proofs.Parser.Procedure

/-!
# Progress and settling

Every procedure of the parser comes to an end, leaves a suffix of its tokens and takes at least one
of them if it reads something. When expressions are read one after the other from the same tokens,
every reading takes a token until an expression is missed (`TakesOrMisses`). From there on the
readings stand still (`expression_of_missed`), so that this has happened before there are more
readings than tokens.
-/

namespace Scriptlet

/-- An expression was missed. -/
def Parsed.Misses {α : Type} (result : Parsed α) : Prop :=
  ∃ found rest, result = .error (.expectedPrimary found) rest

namespace Parser
open Token (front?)

variable {α β : Type}

/-! ## Progress of the procedures -/

/-- Every procedure leaves a suffix of its tokens. -/
lemma Procedure.recedes_reader (procedure : Procedure) : Recedes procedure.reader := by
  cases procedure with
  | program => exact (looksAhead_program (n := 0)).recedes
  | statement => exact recedes_statement
  | clause => exact recedes_statement.clause
  | block => exact recedes_statement.blockItem?.many
  | simple => exact recedes_simple
  | expression => exact recedes_expression
  | comparison => exact recedes_expression.comparison
  | sum => exact recedes_expression.sum
  | product => exact recedes_expression.product
  | primary => exact recedes_expression.primary
  | operand => exact recedes_expression.operand
  | group => exact recedes_expression.group
  | arguments => exact recedes_expression.arguments

/-- A repetition takes a token if a step that yields nothing takes one too. -/
lemma length_lt_of_many {step : Parser (Option α)} (recedes : Recedes step)
    (advances : StepAdvances step) {tokens rest : List Token} {items : List α}
    (closes : ∀ left, step tokens = .ok none left → left.length < tokens.length)
    (read : many step tokens = .ok items rest) : rest.length < tokens.length := by
  rw [many_unfold advances] at read
  obtain ⟨item, between, first, more⟩ := bind_eq_ok_iff.1 read
  cases item with
  | none =>
    cases more
    exact closes rest first
  | some item =>
    have shorter := advances first
    have short := (recedes.many.bind fun _ => recedes_pure _).length_le more
    omega

/-- A block takes its closing brace. -/
lemma advances_block : Advances (block statement) := by
  intro tokens stmts rest read
  rw [block_eq] at read
  refine length_lt_of_many recedes_statement.blockItem?
    (stepAdvances_blockItem? advances_statement) (fun left closed => ?_) read
  rw [blockItem?, accept_bind_eq] at closed
  split at closed
  · next front =>
    obtain ⟨brace, more, rfl, -⟩ := Token.exists_of_front? front
    cases closed
    exact Nat.lt_succ_self _
  · -- without a brace, the step fails or yields a statement
    obtain ⟨ended, _, stay, item⟩ := bind_eq_ok_iff.1 closed
    split at item
    · cases item
    · obtain ⟨stmt, _, -, last⟩ := bind_eq_ok_iff.1 item
      cases last

/-- A program takes a token if there is one. -/
lemma advances_program {tokens rest : List Token} {stmts : Program} (solid : tokens ≠ [])
    (read : program tokens = .ok stmts rest) : rest.length < tokens.length := by
  rw [program_eq] at read
  refine length_lt_of_many (looksAhead_programItem? (n := 0)).recedes
    stepAdvances_programItem? (fun left ended => ?_) read
  cases tokens with
  | nil => exact absurd rfl solid
  | cons next tokens =>
    obtain ⟨more, _, stay, item⟩ := bind_eq_ok_iff.1 ended
    cases stay
    obtain ⟨stmt, _, -, last⟩ := bind_eq_ok_iff.1 item
    cases last

/-- Every procedure takes a token if it reads something where it may be called. -/
lemma Procedure.length_lt_of_reader {procedure : Procedure} {tokens rest : List Token}
    {value : procedure.Result} (solid : procedure = .program → tokens ≠ [])
    (opened : procedure.Opened tokens) (read : procedure.reader tokens = .ok value rest) :
    rest.length < tokens.length := by
  cases procedure with
  | program => exact advances_program (solid rfl) read
  | statement => exact advances_statement read
  | clause =>
    exact (advances_expect "(").bind (fun _ => recedes_expression.bind fun _ =>
      (recedes_expect _).bind fun _ => (recedes_expect _).bind fun _ =>
        recedes_statement.blockItem?.many.bind fun _ => recedes_pure _) read
  | block => exact advances_block read
  | simple => exact advances_simple read
  | expression => exact advances_expression read
  | comparison => exact advances_comparison recedes_expression read
  | sum => exact advances_operandAt recedes_expression .comparison read
  | product => exact advances_operandAt recedes_expression .sum read
  | primary => exact advances_primary recedes_expression read
  | operand => exact advances_operand recedes_expression read
  | group =>
    exact advances_expression.bind (fun _ => (recedes_accept _).bind fun _ =>
      .ite (recedes_pure _) (recedes_fail _)) read
  | arguments => exact advances_arguments recedes_expression (opened rfl) read

/-! ## One expression -/

/-- The parser takes at least one token or misses an expression. -/
def TakesOrMisses (p : Parser α) : Prop :=
  ∀ tokens, (p tokens).rest.length < tokens.length ∨ (p tokens).Misses

/-- A sequence takes a token or misses an expression if its first part does. -/
lemma TakesOrMisses.bind {p : Parser α} {f : α → Parser β} (here : TakesOrMisses p)
    (there : ∀ value, Recedes (f value)) : TakesOrMisses (p >>= f) := by
  intro tokens
  have first := here tokens
  rw [bind_apply]
  cases read : p tokens with
  | ok value rest =>
    rw [read] at first
    obtain shorter | ⟨found, left, missed⟩ := first
    · exact .inl (Nat.lt_of_le_of_lt (there value rest).length_le shorter)
    · cases missed
  | error cause rest =>
    rw [read] at first
    obtain shorter | ⟨found, left, missed⟩ := first
    · exact .inl shorter
    · cases missed
      exact .inr ⟨found, rest, rfl⟩

/-- A number or a name is taken, or an expression is missed. -/
lemma takesOrMisses_leaf : TakesOrMisses leaf := by
  intro tokens
  cases read : leaf tokens with
  | ok value rest => exact .inl (advances_leaf read)
  | error cause rest =>
    rw [leaf_eq_taking, taking] at read
    split at read
    · cases read
    · cases read
      exact .inr ⟨_, _, rfl⟩

/-- An operand takes a parenthesis, a number or a name, or misses an expression. -/
lemma takesOrMisses_operand : TakesOrMisses (operand expression) := by
  intro tokens
  rw [operand, accept_bind_eq]
  split
  · next front =>
    obtain ⟨next, inside, rfl, -⟩ := Token.exists_of_front? front
    exact .inl (Nat.lt_succ_of_le (recedes_expression.group inside).length_le)
  · exact takesOrMisses_leaf tokens

/-- A level takes a token or misses an expression if its operands do. -/
lemma takesOrMisses_levelAt {precedence : Precedence}
    (operands : TakesOrMisses (operandAt expression precedence)) :
    TakesOrMisses (levelAt expression precedence) := by
  rw [levelAt_eq]
  exact operands.bind fun _ =>
    ((recedes_expression.operandAt precedence).links precedence).bind fun _ => recedes_pure _

/-- An expression takes a token or is missed, also if it fails later on. -/
lemma takesOrMisses_expression : TakesOrMisses expression := by
  have primary : TakesOrMisses (operandAt expression .product) :=
    takesOrMisses_operand.bind fun _ =>
      recedes_expression.argumentList?.many.bind fun _ => recedes_pure _
  have product : TakesOrMisses (operandAt expression .sum) := takesOrMisses_levelAt primary
  have sum : TakesOrMisses (operandAt expression .comparison) := takesOrMisses_levelAt product
  rw [expression_eq]
  exact takesOrMisses_levelAt sum

/-- Where an expression is missed it is missed again. -/
lemma expression_of_missed {tokens rest : List Token} {found : Found}
    (missed : expression tokens = .error (.expectedPrimary found) rest) :
    expression rest = .error (.expectedPrimary found) rest := by
  have run := implements_code.runs .expression tokens
  exact implements_code.missed run trivial missed found rfl

/-- The error says what stands where an expression is missed. -/
lemma found_of_missed {tokens rest : List Token} {found : Found}
    (missed : expression tokens = .error (.expectedPrimary found) rest) :
    found = Found.ofTokens rest := by
  obtain ⟨taken, rfl⟩ : rest <:+ tokens := by
    simpa [missed, Parsed.rest] using recedes_expression tokens
  have stops : Peeks expression taken rest :=
    looksAhead_expression.peeks (Nat.lt_succ_self taken.length) (by rw [missed]; rfl)
  have honest := stops.honest
  rw [missed] at honest
  exact honest.found found rfl

/-! ## Expressions one after the other -/

/-- What is left after some expressions were read or missed, each from where the one before
stopped. -/
def leftAfter (tokens : List Token) : Nat → List Token
  | 0 => tokens
  | n + 1 => (expression (leftAfter tokens n)).rest

/-- The readings behind the first one start from what it leaves. -/
lemma leftAfter_succ (tokens : List Token) (n : Nat) :
    leftAfter tokens (n + 1) = leftAfter (expression tokens).rest n := by
  induction n with
  | zero => rfl
  | succ n ih => rw [leftAfter, ih, leftAfter]

/-- Expressions one after the other are read each from where the one before stopped. -/
lemma expressions_eq_map (n : Nat) (tokens : List Token) :
    expressions n tokens = (List.range n).map fun i => expression (leftAfter tokens i) := by
  induction n generalizing tokens with
  | zero => rfl
  | succ n ih =>
    rw [expressions, ih, List.range_succ_eq_map, List.map_cons, List.map_map]
    congr! with i
    exact congrArg expression (leftAfter_succ tokens i).symm

/-- As long as no expression is missed, every reading takes a token. -/
lemma length_leftAfter {tokens : List Token} {n : Nat}
    (read : ∀ i < n, ¬ (expression (leftAfter tokens i)).Misses) :
    (leftAfter tokens n).length + n ≤ tokens.length := by
  induction n with
  | zero => exact Nat.le_refl _
  | succ n ih =>
    have before := ih fun i earlier => read i (Nat.lt_succ_of_lt earlier)
    have shorter := (takesOrMisses_expression _).resolve_right (read n (Nat.lt_succ_self n))
    rw [leftAfter]
    omega

/-- After an expression was missed, nothing changes. -/
lemma leftAfter_of_missed {tokens rest : List Token} {found : Found} {i : Nat}
    (missed : expression (leftAfter tokens i) = .error (.expectedPrimary found) rest) (k : Nat) :
    leftAfter tokens (i + k + 1) = rest := by
  induction k with
  | zero =>
    change (expression (leftAfter tokens i)).rest = rest
    rw [missed]
    rfl
  | succ k ih =>
    rw [leftAfter, ← Nat.add_assoc, ih, expression_of_missed missed]
    rfl

/-- Every procedure comes to an end, leaves a suffix and takes a token if it reads something. When
expressions are read one after the other, every reading takes a token until one is missed; from then
on every reading stops at once at the same token with the same error. One of the first readings, of
which there is one more than tokens, misses an expression. -/
theorem progress_and_settling :
    (∀ (procedure : Procedure) (tokens : List Token),
      (∀ result, Runs Procedure.code (.call procedure) tokens result ↔
        result = procedure.reader tokens) ∧
      (procedure.reader tokens).rest <:+ tokens ∧
      ∀ value rest, (procedure = .program → tokens ≠ []) →
        (procedure = .arguments → front? tokens = some "(") →
        procedure.reader tokens = .ok value rest → rest.length < tokens.length) ∧
    ∀ tokens : List Token,
      (∀ count, expressions count tokens =
        (List.range count).map fun i => expression (leftAfter tokens i)) ∧
      (∀ i, ¬ (expression (leftAfter tokens i)).Misses →
        (leftAfter tokens (i + 1)).length < (leftAfter tokens i).length) ∧
      (∀ i found rest, expression (leftAfter tokens i) = .error (.expectedPrimary found) rest →
        found = Found.ofTokens rest ∧ ∀ j, i < j → leftAfter tokens j = rest ∧
          expression (leftAfter tokens j) = .error (.expectedPrimary found) rest) ∧
      ∃ result ∈ expressions (tokens.length + 1) tokens, result.Misses := by
  constructor
  · intro procedure tokens
    refine ⟨fun result => implements_code.runs_iff, procedure.recedes_reader tokens, ?_⟩
    intro value rest solid opened read
    exact Procedure.length_lt_of_reader solid opened read
  · intro tokens
    refine ⟨fun count => expressions_eq_map count tokens, ?_, ?_, ?_⟩
    · intro i read
      exact (takesOrMisses_expression _).resolve_right read
    · intro i found rest missed
      refine ⟨found_of_missed missed, fun j later => ?_⟩
      obtain ⟨k, rfl⟩ := Nat.exists_eq_add_of_lt later
      rw [leftAfter_of_missed missed k]
      exact ⟨rfl, expression_of_missed missed⟩
    · by_contra none
      have read : ∀ i < tokens.length + 1, ¬ (expression (leftAfter tokens i)).Misses := by
        intro i first misses
        rw [expressions_eq_map] at none
        exact none ⟨_, List.mem_map_of_mem (List.mem_range.2 first), misses⟩
      have length := length_leftAfter read
      omega

/-- A closing parenthesis that nothing opens is not passed, and an argument list takes its own. -/
theorem progress_and_settling_at_parenthesis :
    expression (leftAfter [⟨.identifier, "x"⟩, ⟨.punctuation, ")"⟩, ⟨.identifier, "y"⟩] 9) =
      .error (.expectedPrimary (.token ")")) [⟨.punctuation, ")"⟩, ⟨.identifier, "y"⟩] ∧
    ∃ rest, Procedure.arguments.reader [⟨.punctuation, "("⟩, ⟨.punctuation, ")"⟩] = .ok none rest ∧
      rest.length < 2 := by
  constructor
  · have missed : expression (leftAfter [⟨.identifier, "x"⟩, ⟨.punctuation, ")"⟩,
        ⟨.identifier, "y"⟩] 1) =
        .error (.expectedPrimary (.token ")")) [⟨.punctuation, ")"⟩, ⟨.identifier, "y"⟩] := rfl
    exact ((progress_and_settling.2 _).2.2.1 1 _ _ missed).2 9 (by decide) |>.2
  · have read : Procedure.arguments.reader [⟨.punctuation, "("⟩, ⟨.punctuation, ")"⟩] =
        .ok none [] := rfl
    exact ⟨[], read, (progress_and_settling.1 .arguments _).2.2 _ _ nofun (fun _ => rfl) read⟩

end Parser

end Scriptlet
