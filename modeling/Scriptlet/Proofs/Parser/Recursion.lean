import Scriptlet.Proofs.Parser.Progress

/-!
# Recursive equations of the parsers

Two parsers that agree on short token lists lead to parsers that agree on lists that are longer by
one token, because a nested expression or statement starts behind a token that was taken before. So
the bounds in the definitions of `expression` and `statement` are long enough: `expression_eq` and
`statement_eq` say that the two parsers are solutions of their own recursive equations.
-/

namespace Scriptlet.Parser

variable {α β : Type}

/-! ## Agreement on short token lists -/

/-- The two parsers do the same on every token list that is shorter than `n`. -/
def AgreeBelow (n : Nat) (p q : Parser α) : Prop :=
  ∀ ⦃tokens⦄, tokens.length < n → p tokens = q tokens

section Agree

variable {n : Nat}

/-- Every parser agrees with itself. -/
lemma AgreeBelow.refl (p : Parser α) : AgreeBelow n p p :=
  fun _ _ => rfl

/-- Two sequences agree if their parts do, since the first part leaves no more tokens. -/
lemma AgreeBelow.bind {p q : Parser α} {f g : α → Parser β} (same : AgreeBelow n p q)
    (recedes : Recedes p) (next : ∀ value, AgreeBelow n (f value) (g value)) :
    AgreeBelow n (p >>= f) (q >>= g) := by
  intro tokens short
  rw [bind_apply, bind_apply, ← same short]
  cases read : p tokens with
  | error cause rest => rfl
  | ok value rest => exact next value (Nat.lt_of_le_of_lt (recedes.length_le read) short)

/-- Two decisions agree if both of their branches do. -/
lemma AgreeBelow.ite {condition : Prop} [Decidable condition] {p p' q q' : Parser α}
    (yes : AgreeBelow n p p') (no : AgreeBelow n q q') :
    AgreeBelow n (if condition then p else q) (if condition then p' else q') := by
  split
  · exact yes
  · exact no

/-- Behind a token that is accepted, agreement on lists shorter by one is enough. -/
lemma agreeBelow_accept {text : String} {yes yes' no no' : Parser α}
    (taken : AgreeBelow n yes yes') (kept : AgreeBelow (n + 1) no no') :
    AgreeBelow (n + 1) (do if ← accept text then yes else no)
      (do if ← accept text then yes' else no') := by
  intro tokens short
  rw [bind_apply, bind_apply]
  cases front : accept text tokens with
  | error cause rest => rfl
  | ok found rest =>
    rcases accept_eq_ok_iff.1 front with ⟨rfl, next, rfl, -⟩ | ⟨rfl, rfl, -⟩
    · exact taken (Nat.lt_of_succ_lt_succ short)
    · exact kept short

/-- Bounded repetitions of steps that agree agree. -/
lemma AgreeBelow.manyWithin {step step' : Parser (Option α)} (same : AgreeBelow n step step')
    (recedes : Recedes step) (bound : List Token) :
    AgreeBelow n (manyWithin step bound) (manyWithin step' bound) := by
  induction bound with
  | nil => exact same.bind recedes fun _ => .refl _
  | cons _ bound ih =>
    refine same.bind recedes fun item => ?_
    cases item with
    | none => exact .refl _
    | some item => exact ih.bind (recedes_manyWithin recedes bound) fun _ => .refl _

/-- Repetitions of steps that agree agree. -/
lemma AgreeBelow.many {step step' : Parser (Option α)} (same : AgreeBelow n step step')
    (recedes : Recedes step) : AgreeBelow n (many step) (many step') :=
  fun tokens short => same.manyWithin recedes tokens short

/-- The parser `within` unrolls the recursive equation of `build` as often as its bound is long. -/
structure Unrolls (build : Parser α → Parser α) (within : List Token → Parser α) : Prop where
  /-- Without a bound there is nothing but a complaint. -/
  base : within [] = fail .expectedPrimary
  /-- A longer bound allows for one more level. -/
  step : ∀ next bound, within (next :: bound) = build (within bound)
  /-- On no tokens there is nothing but the same complaint. -/
  empty : ∀ p, build p [] = fail .expectedPrimary []
  /-- A level leaves a suffix if the one below it does. -/
  recedes : ∀ {p}, Recedes p → Recedes (build p)
  /-- A level takes a token before it calls the one below it. -/
  agree : ∀ {n p q}, AgreeBelow n p q → Recedes p → AgreeBelow (n + 1) (build p) (build q)

namespace Unrolls

variable {build : Parser α → Parser α} {within : List Token → Parser α}

/-- Every unrolling leaves a suffix. -/
lemma recedes_within (unrolls : Unrolls build within) (bound : List Token) :
    Recedes (within bound) := by
  induction bound with
  | nil =>
    rw [unrolls.base]
    exact recedes_fail _
  | cons next bound ih =>
    rw [unrolls.step]
    exact unrolls.recedes ih

/-- Without tokens every unrolling misses an expression. -/
lemma on_no_tokens (unrolls : Unrolls build within) (bound : List Token) :
    within bound [] = fail .expectedPrimary [] := by
  cases bound with
  | nil => rw [unrolls.base]
  | cons next bound => rw [unrolls.step, unrolls.empty]

/-- The bound does not matter once it is as long as the tokens. -/
lemma eq_of_length_le (unrolls : Unrolls build within) {tokens bound other : List Token}
    (long : tokens.length ≤ bound.length) (alsoLong : tokens.length ≤ other.length) :
    within bound tokens = within other tokens := by
  induction bound generalizing tokens other with
  | nil =>
    cases List.length_eq_zero_iff.1 (Nat.le_zero.1 long)
    rw [unrolls.on_no_tokens, unrolls.on_no_tokens]
  | cons next bound ih =>
    cases other with
    | nil =>
      cases List.length_eq_zero_iff.1 (Nat.le_zero.1 alsoLong)
      rw [unrolls.on_no_tokens, unrolls.on_no_tokens]
    | cons _ other =>
      simp only [List.length_cons] at long alsoLong
      have same : AgreeBelow tokens.length (within bound) (within other) :=
        fun _ short => ih (by omega) (by omega)
      rw [unrolls.step, unrolls.step]
      exact unrolls.agree same (unrolls.recedes_within bound) (Nat.lt_succ_self _)

/-- Bounded by the tokens themselves, the parser solves the recursive equation. -/
lemma fixed (unrolls : Unrolls build within) (tokens : List Token) :
    within tokens tokens = build (fun tokens => within tokens tokens) tokens := by
  cases tokens with
  | nil => exact (unrolls.on_no_tokens []).trans (unrolls.empty _).symm
  | cons next rest =>
    have same :
        AgreeBelow (next :: rest).length (within rest) (fun tokens => within tokens tokens) :=
      fun _ short => unrolls.eq_of_length_le (Nat.le_of_lt_succ short) (Nat.le_refl _)
    rw [unrolls.step]
    exact unrolls.agree same (unrolls.recedes_within rest) (Nat.lt_succ_self _)

end Unrolls

variable {p q : Parser Expr}

/-- Operands agree on one token more, since the parenthesis before the expression is taken. -/
lemma AgreeBelow.operand (same : AgreeBelow n p q) (recedes : Recedes p) :
    AgreeBelow (n + 1) (operand p) (operand q) :=
  agreeBelow_accept (same.bind recedes fun _ => .refl _) (.refl _)

/-- Arguments agree where the expressions do. -/
lemma AgreeBelow.argument? (same : AgreeBelow n p q) (recedes : Recedes p) :
    AgreeBelow n (argument? p) (argument? q) :=
  (AgreeBelow.refl _).bind (recedes_accept _) fun _ => .ite (.refl _)
    (same.bind recedes fun _ => .refl _)

/-- Argument lists agree on one token more, since their parenthesis is taken. -/
lemma AgreeBelow.arguments (same : AgreeBelow n p q) (recedes : Recedes p) :
    AgreeBelow (n + 1) (arguments p) (arguments q) :=
  agreeBelow_accept
    (((same.argument? recedes).many recedes.argument?).bind recedes.argument?.many fun _ => .refl _)
    (.refl _)

/-- Primary expressions agree on one token more. -/
lemma AgreeBelow.primary (same : AgreeBelow n p q) (recedes : Recedes p) :
    AgreeBelow (n + 1) (primary p) (primary q) := by
  rw [primary_eq, primary_eq]
  refine (same.operand recedes).bind recedes.operand fun _ => ?_
  refine AgreeBelow.bind (.many ?_ recedes.argumentList?) recedes.argumentList?.many
    fun _ => .refl _
  exact (AgreeBelow.refl _).bind (recedes_sees _) fun _ => .ite
    ((same.arguments recedes).bind recedes.arguments fun _ => .refl _) (.refl _)

/-- Operators with their operands agree where the operands do. -/
lemma AgreeBelow.links {item item' : Parser Expr} (same : AgreeBelow n item item')
    (recedes : Recedes item) (precedence : Precedence) :
    AgreeBelow n (links precedence item) (links precedence item') := by
  rw [links_eq, links_eq]
  refine AgreeBelow.many ((AgreeBelow.refl _).bind (recedes_operator? _) fun op => ?_)
    (recedes.link? precedence)
  cases op with
  | none => exact .refl _
  | some op => exact same.bind recedes fun _ => .refl _

/-- A level agrees where its operands do. -/
lemma AgreeBelow.levelAt (precedence : Precedence)
    (same : AgreeBelow n (operandAt p precedence) (operandAt q precedence)) (recedes : Recedes p) :
    AgreeBelow n (levelAt p precedence) (levelAt q precedence) := by
  rw [levelAt_eq, levelAt_eq]
  have leaves := recedes.operandAt precedence
  exact same.bind leaves fun _ => (same.links leaves _).bind (leaves.links _) fun _ => .refl _

/-- Comparisons agree on one token more than the expressions inside them. -/
lemma AgreeBelow.comparison (same : AgreeBelow n p q) (recedes : Recedes p) :
    AgreeBelow (n + 1) (comparison p) (comparison q) := by
  have product := AgreeBelow.levelAt .product (same.primary recedes) recedes
  have sum := AgreeBelow.levelAt .sum product recedes
  exact AgreeBelow.levelAt .comparison sum recedes

end Agree

/-- The bounded expression parsers unroll the equation of comparisons. -/
lemma unrolls_expression : Unrolls comparison expressionWithin where
  base := rfl
  step := fun _ _ => rfl
  empty := fun _ => rfl
  recedes := Recedes.comparison
  agree := AgreeBelow.comparison

/-- An expression is a chain of comparisons over nested expressions. -/
theorem expression_eq : expression = comparison expression :=
  funext unrolls_expression.fixed

/-- An expression leaves a suffix. -/
lemma recedes_expression : Recedes expression :=
  fun tokens => unrolls_expression.recedes_within tokens tokens

/-- An expression takes a token. -/
lemma advances_expression : Advances expression := by
  rw [expression_eq]
  exact advances_comparison recedes_expression

/-! ## The parsers of statements -/

/-- The rest of an assignment leaves a suffix. -/
lemma recedes_assignment (target : Expr) : Recedes (assignment target) := by
  cases target
  case «variable» =>
    exact recedes_advance.bind fun _ => recedes_expression.bind fun _ => recedes_pure _
  all_goals exact recedes_fail fun _ => .expectedVariable

/-- What follows the first expression of a statement. -/
def simpleTail (first : Expr) : Parser Stmt := do
  if ← sees "=" then assignment first
  else if ← sees "(" then return .expr (.invoke first (← arguments expression))
  else if ← sees ";" then return .expr first
  else fail .unresolved

/-- A simple statement is an expression with a tail. -/
lemma simple_eq : simple = expression >>= simpleTail :=
  rfl

/-- What follows the first expression of a statement leaves a suffix. -/
lemma recedes_simpleTail (first : Expr) : Recedes (simpleTail first) :=
  (recedes_sees _).bind fun _ => .ite (recedes_assignment first) <|
    (recedes_sees _).bind fun _ =>
      .ite (recedes_expression.arguments.bind fun _ => recedes_pure _) <|
      (recedes_sees _).bind fun _ => .ite (recedes_pure _) (recedes_fail _)

/-- A simple statement leaves a suffix. -/
lemma recedes_simple : Recedes simple :=
  recedes_expression.bind recedes_simpleTail

/-- A simple statement takes the tokens of its expression. -/
lemma advances_simple : Advances simple :=
  advances_expression.bind recedes_simpleTail

section Over

variable {p : Parser Stmt}

/-- One more statement of a block, unless its brace closes it. -/
def blockItem? (p : Parser Stmt) : Parser (Option Stmt) := do
  if ← accept "\x7d" then return none
  else if ← atEnd then fail fun _ => .expectedBlockEnd
  else return some (← p)

/-- A block is a repetition of statements. -/
lemma block_eq (p : Parser Stmt) : block p = many (blockItem? p) :=
  rfl

/-- One more statement of a block leaves a suffix if statements do. -/
lemma Recedes.blockItem? (recedes : Recedes p) : Recedes (blockItem? p) :=
  (recedes_accept _).bind fun _ => .ite (recedes_pure _) <| recedes_atEnd.bind fun _ =>
    .ite (recedes_fail _) (recedes.bind fun _ => recedes_pure _)

/-- Every further statement of a block takes a token. -/
lemma stepAdvances_blockItem? (advances : Advances p) : StepAdvances (blockItem? p) := by
  intro tokens item rest whole
  obtain ⟨closed, between, front, read⟩ := bind_eq_ok_iff.1 whole
  rcases accept_eq_ok_iff.1 front with ⟨rfl, next, rfl, -⟩ | ⟨rfl, rfl, -⟩
  · cases read
  · obtain ⟨ended, _, stay, more⟩ := bind_eq_ok_iff.1 read
    cases stay
    split at more
    · cases more
    · exact (advances.bind fun _ => recedes_pure _) more

/-- A condition with a block leaves a suffix if statements do. -/
lemma Recedes.clause (recedes : Recedes p) : Recedes (clause p) :=
  (recedes_expect _).bind fun _ => recedes_expression.bind fun _ => (recedes_expect _).bind fun _ =>
    (recedes_expect _).bind fun _ => recedes.blockItem?.many.bind fun _ => recedes_pure _

/-- A statement leaves a suffix if the statements in its block do. -/
lemma Recedes.statementOver (recedes : Recedes p) : Recedes (statementOver p) :=
  (recedes_accept _).bind fun _ => .ite (recedes.clause.bind fun _ => recedes_pure _) <|
    (recedes_accept _).bind fun _ => .ite (recedes.clause.bind fun _ => recedes_pure _) <|
      recedes_simple.bind fun _ => (recedes_expect _).bind fun _ => recedes_pure _

/-- A statement takes its keyword or the tokens of its expression. -/
lemma advances_statementOver (recedes : Recedes p) : Advances (statementOver p) := by
  intro tokens value rest whole
  have inside : ∀ make : Expr × List Stmt → Stmt, Recedes (do return make (← clause p)) :=
    fun _ => recedes.clause.bind fun _ => recedes_pure _
  obtain ⟨conditional, between, front, read⟩ := bind_eq_ok_iff.1 whole
  rcases accept_eq_ok_iff.1 front with ⟨rfl, next, rfl, -⟩ | ⟨rfl, rfl, -⟩
  · exact Nat.lt_succ_of_le ((inside fun c => .ifThen c.1 c.2).length_le read)
  · obtain ⟨loop, between, front, more⟩ := bind_eq_ok_iff.1 read
    rcases accept_eq_ok_iff.1 front with ⟨rfl, next, rfl, -⟩ | ⟨rfl, rfl, -⟩
    · exact Nat.lt_succ_of_le ((inside fun c => .whileDo c.1 c.2).length_le more)
    · exact advances_simple.bind (fun _ => (recedes_expect _).bind fun _ => recedes_pure _) more

/-- Conditions with their blocks agree where the statements do. -/
lemma AgreeBelow.clause {n : Nat} {q : Parser Stmt} (same : AgreeBelow n p q)
    (recedes : Recedes p) : AgreeBelow n (clause p) (clause q) := by
  refine (AgreeBelow.refl _).bind (recedes_expect _) fun _ => ?_
  refine (AgreeBelow.refl _).bind recedes_expression fun _ => ?_
  refine (AgreeBelow.refl _).bind (recedes_expect _) fun _ => ?_
  refine (AgreeBelow.refl _).bind (recedes_expect _) fun _ => ?_
  refine AgreeBelow.bind (.many ?_ recedes.blockItem?) recedes.blockItem?.many fun _ => .refl _
  refine (AgreeBelow.refl _).bind (recedes_accept _) fun _ => .ite (.refl _) ?_
  exact (AgreeBelow.refl _).bind recedes_atEnd fun _ => .ite (.refl _)
    (same.bind recedes fun _ => .refl _)

/-- Statements agree on one token more than those inside them, since the keyword is taken. -/
lemma AgreeBelow.statementOver {n : Nat} {q : Parser Stmt} (same : AgreeBelow n p q)
    (recedes : Recedes p) : AgreeBelow (n + 1) (statementOver p) (statementOver q) :=
  agreeBelow_accept ((same.clause recedes).bind recedes.clause fun _ => .refl _) <|
    agreeBelow_accept ((same.clause recedes).bind recedes.clause fun _ => .refl _) (.refl _)

end Over

/-- The bounded statement parsers unroll the equation of statements. -/
lemma unrolls_statement : Unrolls statementOver statementWithin where
  base := rfl
  step := fun _ _ => rfl
  empty := fun _ => rfl
  recedes := Recedes.statementOver
  agree := AgreeBelow.statementOver

/-- A statement is one over nested statements. -/
theorem statement_eq : statement = statementOver statement :=
  funext unrolls_statement.fixed

/-- A statement leaves a suffix. -/
lemma recedes_statement : Recedes statement :=
  fun tokens => unrolls_statement.recedes_within tokens tokens

/-- A statement takes a token. -/
lemma advances_statement : Advances statement := by
  rw [statement_eq]
  exact advances_statementOver recedes_statement

/-- One more statement of a program, unless the tokens are at their end. -/
def programItem? : Parser (Option Stmt) := do
  if ← atEnd then return none
  else return some (← statement)

/-- A program is a repetition of statements. -/
lemma program_eq : program = many programItem? :=
  rfl

/-- Every further statement of a program takes a token. -/
lemma stepAdvances_programItem? : StepAdvances programItem? := by
  intro tokens item rest whole
  obtain ⟨ended, _, stay, read⟩ := bind_eq_ok_iff.1 whole
  cases stay
  split at read
  · cases read
  · exact (advances_statement.bind fun _ => recedes_pure _) read

end Scriptlet.Parser
