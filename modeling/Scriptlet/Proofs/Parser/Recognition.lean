import Mathlib.Data.List.Find
import Scriptlet.Proofs.Grammar.Completeness
import Scriptlet.Proofs.Parser.Lookahead

/-!
# Other ways to recognise tokens

The grammar asks of a token whether it is a certain symbol or keyword, and the parser answers by the
text of the token. The same parser can be run with any other answer (`Parser.By`). Where the two
answers are the same for all tokens, they take the two parsers through the same steps to the same
result, be it a value or an error (`Follows`). On the way it turns out that an expression is never
missed at a token that could be one.
-/

namespace Scriptlet
namespace Parser

/-- The texts that the grammar looks for. -/
def texts : List String :=
  "if" :: "while" :: Grammar.reserved

/-! ## The parser by another answer -/

namespace By

variable (reads : Token → String → Bool)

/-- Whether the next token is read as the given text. -/
def sees (text : String) : Parser Bool := fun tokens =>
  .ok (tokens.head?.any (reads · text)) tokens

/-- Drops the next token if it is read as the given text, and tells whether it was. -/
def accept (text : String) : Parser Bool := do
  if ← sees reads text then
    advance
    return true
  else
    return false

/-- Drops the next token, which has to be read as the given text. -/
def expect (text : String) : Parser Unit := do
  if ← accept reads text then return ()
  else fail (.expectedSymbol text)

/-- Drops the next token if it is read as an operator of the given precedence. -/
def operator? (precedence : Precedence) : Parser (Option Operator) := fun tokens =>
  match tokens.head?.bind fun token => Operator.all.find? fun op => reads token op.symbol with
  | some op => if op.precedence = precedence then .ok (some op) tokens.tail else .ok none tokens
  | none => .ok none tokens

/-- A number, a name or a parenthesis. -/
def operand (expression : Parser Expr) : Parser Expr := do
  if ← accept reads "(" then
    let inner ← expression
    if ← accept reads ")" then return .group inner
    else fail .expectedClosing
  else leaf

/-- An argument with the comma behind it, unless the list is closed. -/
def argument? (expression : Parser Expr) : Parser (Option Expr) := do
  if ← accept reads ")" then return none
  else
    let value ← expression
    expect reads ","
    return some value

/-- A list of arguments in parentheses. -/
def arguments (expression : Parser Expr) : Parser (Option (List Expr)) := do
  if ← accept reads "(" then
    match ← many (argument? reads expression) with
    | [] => return none
    | values => return some values
  else return none

/-- An operand followed by any number of argument lists. -/
def primary (expression : Parser Expr) : Parser Expr := do
  let head ← operand reads expression
  let lists ← many do
    if ← sees reads "(" then return some (← arguments reads expression)
    else return none
  return lists.foldl .invoke head

/-- Operands with operators of one precedence between them. -/
def level (precedence : Precedence) (item : Parser Expr) : Parser Expr := do
  let first ← item
  let chain ← many do
    match ← operator? reads precedence with
    | none => return none
    | some op => return some (op, ← item)
  return join precedence first chain

/-- An expression whose parentheses nest at most as deep as the first list is long. -/
def expressionWithin : List Token → Parser Expr
  | [] => fail .expectedPrimary
  | _ :: bound =>
    level reads .comparison <| level reads .sum <| level reads .product <|
      primary reads (expressionWithin bound)

/-- An expression. -/
def expression : Parser Expr := fun tokens =>
  expressionWithin reads tokens tokens

/-- The rest of an assignment from its sign on. -/
def assignment (target : Expr) : Parser Stmt :=
  match target with
  | .variable _ => do
    advance
    return .assign target (some (← expression reads))
  | _ => fail fun _ => .expectedVariable

/-- A statement without a block, up to its semicolon. -/
def simple : Parser Stmt := do
  let first ← expression reads
  if ← sees reads "=" then assignment reads first
  else if ← sees reads "(" then
    return .expr (.invoke first (← arguments reads (expression reads)))
  else if ← sees reads ";" then return .expr first
  else fail .unresolved

/-- A condition in parentheses and a block in braces. -/
def clause (statement : Parser Stmt) : Parser (Expr × List Stmt) := do
  expect reads "("
  let condition ← expression reads
  expect reads ")"
  expect reads "\x7b"
  let body ← many do
    if ← accept reads "\x7d" then return none
    else if ← atEnd then fail fun _ => .expectedBlockEnd
    else return some (← statement)
  return (condition, body)

/-- A statement whose blocks nest at most as deep as the first list is long. -/
def statementWithin : List Token → Parser Stmt
  | [] => fail .expectedPrimary
  | _ :: bound => do
    if ← accept reads "if" then
      let (condition, body) ← clause reads (statementWithin bound)
      return .ifThen condition body
    else if ← accept reads "while" then
      let (condition, body) ← clause reads (statementWithin bound)
      return .whileDo condition body
    else
      let stmt ← simple reads
      expect reads ";"
      return stmt

/-- A statement. -/
def statement : Parser Stmt := fun tokens =>
  statementWithin reads tokens tokens

/-- Statements up to the end of the tokens. -/
def program : Parser Program :=
  many do
    if ← atEnd then return none
    else return some (← statement reads)

end By

/-! ## Two parsers in step -/

end Parser

/-- The token is read as the texts of the grammar exactly if it has them. -/
def Token.ReadByText (reads : Token → String → Bool) (token : Token) : Prop :=
  ∀ text ∈ Parser.texts, reads token text = token.is text

/-- If an expression is missed, what is left does not start with a number or a name. -/
def Parsed.Wanting {α : Type} (result : Parsed α) : Prop :=
  ∀ found rest, result = .error (.expectedPrimary found) rest →
    ∃ cause, Parser.leaf rest = .error cause rest

namespace Parser

variable {α β : Type} {reads : Token → String → Bool} {n : Nat}

/-- On tokens that are read by their texts the second parser does what the first one does, and on
less than `n` tokens the first one misses an expression only where there is none. -/
structure Follows (reads : Token → String → Bool) (n : Nat) (p q : Parser α) : Prop where
  recedes : Recedes p
  wanting : ∀ ⦃tokens⦄, tokens.length < n → (p tokens).Wanting
  same : ∀ ⦃tokens⦄, (∀ token ∈ tokens, token.ReadByText reads) → q tokens = p tokens

/-- A parser that follows another for many tokens follows it for fewer. -/
lemma Follows.mono {m : Nat} {p q : Parser α} (follows : Follows reads n p q) (le : m ≤ n) :
    Follows reads m p q where
  recedes := follows.recedes
  wanting _ short := follows.wanting (Nat.lt_of_lt_of_le short le)
  same := follows.same

/-- What holds of all tokens holds of those that are left. -/
lemma Recedes.forall_mem {p : Parser α} (recedes : Recedes p) {tokens rest : List Token} {value : α}
    {good : Token → Prop} (read : p tokens = .ok value rest) (all : ∀ token ∈ tokens, good token) :
    ∀ token ∈ rest, good token :=
  fun token member => all token ((recedes.suffix read).subset member)

/-- Where a value is read, no expression is missed. -/
lemma Parsed.wanting_ok (value : α) (rest : List Token) : (Parsed.ok value rest).Wanting :=
  nofun

/-- A constant parser follows itself. -/
lemma follows_pure (value : α) : Follows reads n (pure value : Parser α) (pure value) where
  recedes := recedes_pure value
  wanting _ _ := Parsed.wanting_ok _ _
  same _ _ := rfl

/-- A complaint about anything but a missing expression. -/
lemma follows_fail {cause : Found → ParseError}
    (other : ∀ met found, cause met ≠ .expectedPrimary found) :
    Follows reads n (fail cause : Parser α) (fail cause) where
  recedes := recedes_fail cause
  wanting tokens _ found rest same := by
    rw [fail] at same
    injection same with same
    exact absurd same (other _ found)
  same _ _ := rfl

/-- The question for the end does not depend on how tokens are read. -/
lemma follows_atEnd : Follows reads n atEnd atEnd where
  recedes := recedes_atEnd
  wanting _ _ := Parsed.wanting_ok _ _
  same _ _ := rfl

/-- Dropping a token does not depend on how it is read. -/
lemma follows_advance : Follows reads n advance advance where
  recedes := recedes_advance
  wanting _ _ := Parsed.wanting_ok _ _
  same _ _ := rfl

/-- One parser after another follows a second sequence part by part. -/
lemma Follows.bind {p q : Parser α} {f g : α → Parser β} (here : Follows reads n p q)
    (there : ∀ value, Follows reads n (f value) (g value)) :
    Follows reads n (p >>= f) (q >>= g) where
  recedes := here.recedes.bind fun value => (there value).recedes
  wanting tokens short := by
    have first := here.wanting short
    rw [bind_apply]
    cases read : p tokens with
    | ok value rest =>
      have shorter := here.recedes.length_le read
      exact (there value).wanting (by omega)
    | error cause rest =>
      rw [read] at first
      intro found left same
      cases same
      exact first found rest rfl
  same tokens good := by
    rw [bind_apply, bind_apply, here.same good]
    cases read : p tokens with
    | ok value rest => exact (there value).same (here.recedes.forall_mem read good)
    | error cause rest => rfl

/-- A decision follows another one branch by branch. -/
lemma Follows.ite {condition : Prop} [Decidable condition] {p p' q q' : Parser α}
    (yes : Follows reads n p p') (no : Follows reads n q q') :
    Follows reads n (if condition then p else q) (if condition then p' else q') := by
  split
  · exact yes
  · exact no

/-- A text of the grammar is seen in the same tokens. -/
lemma follows_sees {text : String} (symbol : text ∈ texts) :
    Follows reads n (sees text) (By.sees reads text) where
  recedes := recedes_sees text
  wanting _ _ := Parsed.wanting_ok _ _
  same tokens good := by
    cases tokens with
    | nil => rfl
    | cons next rest =>
      have reading := good next (by simp) text symbol
      simp [sees, By.sees, reading]

/-- A text of the grammar is accepted in the same tokens. -/
lemma follows_accept {text : String} (symbol : text ∈ texts) :
    Follows reads n (accept text) (By.accept reads text) :=
  (follows_sees symbol).bind fun _ =>
    .ite (follows_advance.bind fun _ => follows_pure _) (follows_pure _)

/-- Behind a token that is accepted it is enough to go on with one token less. -/
lemma Follows.accept {text : String} {yes yes' no no' : Parser α} (symbol : text ∈ texts)
    (taken : Follows reads (n - 1) yes yes') (kept : Follows reads n no no') :
    Follows reads n (do if ← accept text then yes else no)
      (do if ← By.accept reads text then yes' else no') where
  recedes := (recedes_accept text).bind fun _ => .ite taken.recedes kept.recedes
  wanting tokens short := by
    rw [bind_apply]
    cases front : Parser.accept text tokens with
    | error cause rest =>
      rw [accept_eq] at front
      split at front <;> cases front
    | ok found rest =>
      rcases accept_eq_ok_iff.1 front with ⟨rfl, next, rfl, -⟩ | ⟨rfl, rfl, -⟩
      · exact taken.wanting (Nat.lt_sub_of_add_lt short)
      · exact kept.wanting short
  same tokens good := by
    rw [bind_apply, bind_apply, (follows_accept (n := n) symbol).same good]
    cases read : Parser.accept text tokens with
    | error cause rest => rfl
    | ok found rest =>
      have left := (recedes_accept text).forall_mem read good
      dsimp only
      split
      · exact taken.same left
      · exact kept.same left

/-- A text of the grammar is expected in the same tokens. -/
lemma follows_expect {text : String} (symbol : text ∈ texts) :
    Follows reads n (expect text) (By.expect reads text) :=
  .accept symbol (follows_pure _) (follows_fail nofun)

/-- The same tokens are taken for operators. -/
lemma follows_operator? (precedence : Precedence) :
    Follows reads n (operator? precedence) (By.operator? reads precedence) where
  recedes := recedes_operator? precedence
  wanting tokens _ := by
    rw [operator?]
    split
    · split <;> exact Parsed.wanting_ok _ _
    · exact Parsed.wanting_ok _ _
  same tokens good := by
    cases tokens with
    | nil => rfl
    | cons next rest =>
      have found : (Operator.all.find? fun op => reads next op.symbol) =
          Operator.ofSymbol? next.text := by
        refine List.find?_congr fun op _ => ?_
        have symbol : op.symbol ∈ texts := by cases op <;> decide
        rw [good next (by simp) op.symbol symbol]
        simp [Token.is, eq_comm]
      cases read : Operator.ofSymbol? next.text with
      | none | some op =>
        simp only [By.operator?, operator?, List.head?_cons, Option.bind_some, found, read]

/-- Where a number or a name is missed, no token is taken. -/
lemma leaf_eq_error {tokens rest : List Token} {cause : ParseError}
    (missed : leaf tokens = .error cause rest) : rest = tokens := by
  rw [leaf_eq_taking, taking] at missed
  split at missed
  · cases missed
  · cases missed
    rfl

/-- Numbers and names are known by their kinds in both parsers. -/
lemma follows_leaf : Follows reads n leaf leaf where
  recedes := recedes_leaf
  wanting tokens _ found rest missed := by
    obtain rfl := leaf_eq_error missed
    exact ⟨_, missed⟩
  same _ _ := rfl

/-- A repetition follows another if its step follows the other step. -/
lemma Follows.many {step step' : Parser (Option α)} (follows : Follows reads n step step') :
    Follows reads n (many step) (many step') := by
  have within : ∀ bound, Follows reads n (manyWithin step bound) (manyWithin step' bound) := by
    intro bound
    induction bound with
    | nil =>
      refine follows.bind fun item => ?_
      cases item with
      | none => exact follows_pure _
      | some item => exact follows_pure _
    | cons _ bound ih =>
      refine follows.bind fun item => ?_
      cases item with
      | none => exact follows_pure _
      | some item => exact ih.bind fun _ => follows_pure _
  exact ⟨fun tokens => (within tokens).recedes tokens,
    fun tokens short => (within tokens).wanting short, fun tokens good => (within tokens).same good⟩

/-! ## The parsers of expressions -/

section Over

variable {p q : Parser Expr}

/-- Operands follow for one token more than the expressions in them. -/
lemma Follows.operand (follows : Follows reads n p q) :
    Follows reads (n + 1) (operand p) (By.operand reads q) := by
  refine .accept (by decide) ?_ follows_leaf
  refine follows.bind fun inner => ?_
  exact .accept (by decide) (follows_pure _) (follows_fail nofun)

/-- Arguments follow if expressions do. -/
lemma Follows.argument? (follows : Follows reads n p q) :
    Follows reads n (argument? p) (By.argument? reads q) := by
  refine .accept (by decide) (follows_pure _) ?_
  refine follows.bind fun value => ?_
  exact (follows_expect (by decide)).bind fun _ => follows_pure _

/-- Argument lists follow for one token more than the expressions in them. -/
lemma Follows.arguments (follows : Follows reads n p q) :
    Follows reads (n + 1) (arguments p) (By.arguments reads q) := by
  refine .accept (by decide) ?_ (follows_pure _)
  refine follows.argument?.many.bind fun values => ?_
  cases values with
  | nil => exact follows_pure _
  | cons value values => exact follows_pure _

/-- Primary expressions follow for one token more than the expressions in them. -/
lemma Follows.primary (follows : Follows reads n p q) :
    Follows reads (n + 1) (primary p) (By.primary reads q) := by
  refine follows.operand.bind fun head => ?_
  refine Follows.bind (.many ?_) fun lists => follows_pure _
  refine (follows_sees (by decide)).bind fun opened => ?_
  exact .ite (follows.arguments.bind fun _ => follows_pure _) (follows_pure _)

/-- A level follows if its operands do. -/
lemma Follows.levelAt (precedence : Precedence)
    (follows : Follows reads n (operandAt p precedence) q) :
    Follows reads n (levelAt p precedence) (By.level reads precedence q) := by
  rw [levelAt_eq]
  refine follows.bind fun first => ?_
  refine Follows.bind (.many ?_) fun chain => follows_pure _
  refine (follows_operator? precedence).bind fun op => ?_
  cases op with
  | none => exact follows_pure _
  | some op => exact follows.bind fun _ => follows_pure _

end Over

/-- Bounded expressions follow for one token more than the bound has. -/
lemma follows_expressionWithin (reads : Token → String → Bool) (bound : List Token) :
    Follows reads (bound.length + 1) (expressionWithin bound)
      (By.expressionWithin reads bound) := by
  induction bound with
  | nil =>
    refine ⟨recedes_fail _, ?_, fun _ _ => rfl⟩
    rintro tokens short found rest ⟨⟩
    obtain rfl : tokens = [] := List.length_eq_zero_iff.1 (Nat.lt_one_iff.1 short)
    exact ⟨_, rfl⟩
  | cons next bound ih =>
    have product := Follows.levelAt .product ih.primary
    have sum := Follows.levelAt .sum product
    exact Follows.levelAt .comparison sum

/-- Expressions are read in the same way if every token is read by its text. -/
lemma follows_expression : Follows reads n expression (By.expression reads) where
  recedes := recedes_expression
  wanting tokens _ := (follows_expressionWithin reads tokens).wanting (Nat.lt_succ_self _)
  same tokens good := (follows_expressionWithin reads tokens).same good

/-! ## The parsers of statements -/

/-- The rest of an assignment is read in the same way. -/
lemma follows_assignment (target : Expr) :
    Follows reads n (assignment target) (By.assignment reads target) := by
  have refused : Follows reads n (fail fun _ => .expectedVariable : Parser Stmt)
      (fail fun _ => .expectedVariable) := follows_fail nofun
  cases target
  case «variable» =>
    exact follows_advance.bind fun _ => follows_expression.bind fun _ => follows_pure _
  all_goals exact refused

/-- Simple statements are read in the same way. -/
lemma follows_simple : Follows reads n simple (By.simple reads) := by
  have lists : Follows reads n (arguments expression) (By.arguments reads (By.expression reads)) :=
    (follows_expression (n := n)).arguments.mono (Nat.le_succ n)
  refine follows_expression.bind fun first => ?_
  refine (follows_sees (by decide)).bind fun _ => .ite (follows_assignment first) ?_
  refine (follows_sees (by decide)).bind fun _ => .ite (lists.bind fun _ => follows_pure _) ?_
  exact (follows_sees (by decide)).bind fun _ => .ite (follows_pure _) (follows_fail nofun)

/-- Conditions with their blocks follow if statements do. -/
lemma Follows.clause {p q : Parser Stmt} (follows : Follows reads n p q) :
    Follows reads n (clause p) (By.clause reads q) := by
  refine (follows_expect (by decide)).bind fun _ => ?_
  refine follows_expression.bind fun condition => ?_
  refine (follows_expect (by decide)).bind fun _ => ?_
  refine (follows_expect (by decide)).bind fun _ => ?_
  refine Follows.bind (.many ?_) fun body => follows_pure _
  refine .accept (by decide) (follows_pure _) ?_
  refine follows_atEnd.bind fun _ => .ite (follows_fail nofun) ?_
  exact follows.bind fun _ => follows_pure _

/-- Bounded statements follow for one token more than the bound has. -/
lemma follows_statementWithin (reads : Token → String → Bool) (bound : List Token) :
    Follows reads (bound.length + 1) (statementWithin bound) (By.statementWithin reads bound) := by
  induction bound with
  | nil =>
    refine ⟨recedes_fail _, ?_, fun _ _ => rfl⟩
    rintro tokens short found rest ⟨⟩
    obtain rfl : tokens = [] := List.length_eq_zero_iff.1 (Nat.lt_one_iff.1 short)
    exact ⟨_, rfl⟩
  | cons next bound ih =>
    refine .accept (by decide) (ih.clause.bind fun _ => follows_pure _) ?_
    refine .accept (by decide) (ih.clause.bind fun _ => follows_pure _) ?_
    refine follows_simple.bind fun stmt => ?_
    exact (follows_expect (by decide)).bind fun _ => follows_pure _

/-- Statements are read in the same way if every token is read by its text. -/
lemma follows_statement : Follows reads n statement (By.statement reads) where
  recedes := recedes_statement
  wanting tokens _ := (follows_statementWithin reads tokens).wanting (Nat.lt_succ_self _)
  same tokens good := (follows_statementWithin reads tokens).same good

/-- Programs are read in the same way if every token is read by its text. -/
lemma follows_program (reads : Token → String → Bool) :
    Follows reads n program (By.program reads) := by
  refine .many (follows_atEnd.bind fun _ => .ite (follows_pure _) ?_)
  exact follows_statement.bind fun _ => follows_pure _

end Parser
end Scriptlet
