import Scriptlet.Proofs.Parser.Recognition

/-!
# The procedures of the parser

The definitions of the parsers bound how deep expressions and statements nest and how often a
repetition goes on. Here the same parsers are written without bounds, as procedures that call each
other (`Procedure.code`), and `Runs` says what a finite run of such a code comes to. What a
procedure does is said once (`Code.Meets`): which errors it raises itself and at which tokens it
calls which procedures. A call is made behind fewer tokens or goes to a procedure of lower rank, and
so every procedure comes to an end, with the result of the parser that it is written for
(`Implements.runs_iff`).
-/

namespace Scriptlet.Parser
open Token (front?)

variable {α β : Type}

/-- The procedures that the parser is made of. -/
inductive Procedure where
  | program
  | statement
  | clause
  | block
  | simple
  | expression
  | comparison
  | sum
  | product
  | primary
  | operand
  | group
  | arguments
  deriving DecidableEq

/-- What a procedure reads. -/
abbrev Procedure.Result : Procedure → Type
  | .program => Program
  | .statement | .simple => Stmt
  | .clause => Expr × List Stmt
  | .block => List Stmt
  | .arguments => Option (List Expr)
  | .expression | .comparison | .sum | .product | .primary | .operand | .group => Expr

/-- The parser that a procedure is written for. -/
def Procedure.reader : (procedure : Procedure) → Parser procedure.Result
  | .program => Parser.program
  | .statement => Parser.statement
  | .clause => Parser.clause Parser.statement
  | .block => Parser.block Parser.statement
  | .simple => Parser.simple
  | .expression => Parser.expression
  | .comparison => Parser.comparison Parser.expression
  | .sum => Parser.sum Parser.expression
  | .product => Parser.product Parser.expression
  | .primary => Parser.primary Parser.expression
  | .operand => Parser.operand Parser.expression
  | .group => Parser.group Parser.expression
  | .arguments => Parser.arguments Parser.expression

/-! ## Codes -/

/-- How a procedure is written: with basic parsers, calls of procedures, and loops that go on until
a round yields nothing. -/
inductive Code : Type → Type 1 where
  | basic {α : Type} (p : Parser α) : Code α
  | call (procedure : Procedure) : Code procedure.Result
  | bind {α β : Type} (first : Code α) (next : α → Code β) : Code β
  | loop {α : Type} (round : Code (Option α)) : Code (List α)

instance : Monad Code where
  pure value := .basic (pure value)
  bind := Code.bind

instance : MonadLift Parser Code where
  monadLift := Code.basic

namespace Code

/-- What a loop does behind a round. -/
def again (round : Code (Option α)) : Option α → Code (List α)
  | none => return []
  | some item => return item :: (← loop round)

/-- One more statement of a program. -/
def programRound : Code (Option Stmt) := do
  if ← atEnd then return none
  else return some (← call .statement)

/-- One more statement of a block. -/
def blockRound : Code (Option Stmt) := do
  if ← accept "\x7d" then return none
  else if ← atEnd then fail fun _ => .expectedBlockEnd
  else return some (← call .statement)

/-- One more argument. -/
def argumentRound : Code (Option Expr) := do
  if ← accept ")" then return none
  else
    let value ← call .expression
    expect ","
    return some value

/-- One more argument list. -/
def listRound : Code (Option (Option (List Expr))) := do
  if ← sees "(" then return some (← call .arguments)
  else return none

/-- One more operator of a precedence with the operand behind it. -/
def linkRound (precedence : Precedence) (item : Code Expr) : Code (Option (Operator × Expr)) := do
  match ← operator? precedence with
  | none => return none
  | some op => return some (op, ← item)

/-- Operands with operators of a precedence between them. -/
def chain (precedence : Precedence) (item : Code Expr) : Code Expr := do
  let first ← item
  return join precedence first (← loop (linkRound precedence item))

/-- The rest of an assignment from its sign on. -/
def assignment (target : Expr) : Code Stmt :=
  match target with
  | .variable _ => do
    advance
    return .assign target (some (← call .expression))
  | _ => fail fun _ => .expectedVariable

/-- What an expression alone makes up, if a semicolon is next. -/
def effect (first : Expr) : Code Stmt := do
  if ← sees ";" then return .expr first
  else fail .unresolved

end Code

/-- A code for every procedure. -/
abbrev Table :=
  (procedure : Procedure) → Code procedure.Result

/-- The code of a procedure. -/
def Procedure.code : Table
  | .program => .loop .programRound
  | .statement => do
    if ← accept "if" then
      let (condition, body) ← .call .clause
      return .ifThen condition body
    else if ← accept "while" then
      let (condition, body) ← .call .clause
      return .whileDo condition body
    else
      let stmt ← .call .simple
      expect ";"
      return stmt
  | .clause => do
    expect "("
    let condition ← .call .expression
    expect ")"
    expect "\x7b"
    return (condition, ← .call .block)
  | .block => .loop .blockRound
  | .simple => do
    let first ← .call .expression
    if ← sees "=" then .assignment first
    else if ← sees "(" then return .expr (.invoke first (← .call .arguments))
    else .effect first
  | .expression => .call .comparison
  | .comparison => .chain .comparison (.call .sum)
  | .sum => .chain .sum (.call .product)
  | .product => .chain .product (.call .primary)
  | .primary => do
    let head ← .call .operand
    let lists ← .loop .listRound
    return lists.foldl .invoke head
  | .operand => do
    if ← accept "(" then .call .group
    else leaf
  | .group => do
    let inner ← .call .expression
    if ← accept ")" then return .group inner
    else fail .expectedClosing
  | .arguments => do
    if ← accept "(" then
      match ← .loop .argumentRound with
      | [] => return none
      | values => return some values
    else return none

/-- A code runs on some tokens and comes to a result. Nothing bounds the calls and the rounds of the
loops, but every run is finite. -/
inductive Runs (table : Table) : {α : Type} → Code α → List Token → Parsed α → Prop where
  | basic {α : Type} (p : Parser α) (tokens : List Token) :
    Runs table (.basic p) tokens (p tokens)
  | call {procedure : Procedure} {tokens result} :
    Runs table (table procedure) tokens result →
    Runs table (.call procedure) tokens result
  | bind {α β : Type} {first : Code α} {next : α → Code β} {tokens value between result} :
    Runs table first tokens (.ok value between) →
    Runs table (next value) between result →
    Runs table (.bind first next) tokens result
  | stop {α β : Type} {first : Code α} {next : α → Code β} {tokens cause rest} :
    Runs table first tokens (.error cause rest) →
    Runs table (.bind first next) tokens (.error cause rest)
  | loop {α : Type} {round : Code (Option α)} {tokens result} :
    Runs table (.bind round (.again round)) tokens result →
    Runs table (.loop round) tokens result

/-! ## What codes read -/

namespace Code

/-- The parser that a code amounts to, if the procedures that it calls are their parsers. -/
def reader : {α : Type} → Code α → Parser α
  | _, .basic p => p
  | _, .call procedure => procedure.reader
  | _, .bind first next => first.reader >>= fun value => (next value).reader
  | _, .loop round => many round.reader

/-- A constant code reads its constant. -/
@[simp]
lemma reader_pure (value : α) : (pure value : Code α).reader = pure value := rfl

/-- A basic parser reads what it reads. -/
@[simp]
lemma reader_lift (p : Parser α) : (liftM p : Code α).reader = p := rfl

/-- One code after another reads what their parsers read one after the other. -/
@[simp]
lemma reader_bind (first : Code α) (next : α → Code β) :
    (first >>= next).reader = first.reader >>= fun value => (next value).reader := rfl

/-- A loop reads what a repetition of its round reads. -/
@[simp]
lemma reader_loop (round : Code (Option α)) : (loop round).reader = many round.reader := rfl

/-- A decision between codes reads what the code decided on reads. -/
@[simp]
lemma reader_ite (condition : Prop) [Decidable condition] (yes no : Code α) :
    (if condition then yes else no).reader = if condition then yes.reader else no.reader :=
  apply_ite reader condition yes no

/-- A round of a program reads one more statement of a program. -/
lemma reader_programRound : programRound.reader = programItem? := by
  simp only [programRound, reader_bind, reader_lift, reader_ite, reader_pure]
  rfl

/-- A round of a block reads one more statement of a block. -/
lemma reader_blockRound : blockRound.reader = blockItem? statement := by
  simp only [blockRound, reader_bind, reader_lift, reader_ite, reader_pure]
  rfl

/-- A round of an argument list reads one more argument. -/
lemma reader_argumentRound : argumentRound.reader = argument? expression := by
  simp only [argumentRound, reader_bind, reader_lift, reader_ite, reader_pure]
  rfl

/-- A round behind a callee reads one more argument list. -/
lemma reader_listRound : listRound.reader = argumentList? expression := by
  simp only [listRound, reader_bind, reader_lift, reader_ite, reader_pure]
  rfl

/-- A round of a chain reads one more operator with its operand. -/
lemma reader_linkRound (precedence : Precedence) (item : Code Expr) :
    (linkRound precedence item).reader = link? precedence item.reader := by
  rw [linkRound, reader_bind, reader_lift, link?]
  congr! with op
  cases op <;> rfl

/-- A chain reads its first operand, the operators with their operands, and joins them. -/
lemma reader_chain (precedence : Precedence) (item : Code Expr) :
    (chain precedence item).reader = do
      let first ← item.reader
      return join precedence first (← links precedence item.reader) := by
  simp only [chain, reader_bind, reader_loop, reader_linkRound, reader_pure]
  rfl

/-- The code of an assignment reads the rest of an assignment. -/
lemma reader_assignment (target : Expr) :
    (assignment target).reader = Parser.assignment target := by
  cases target <;> rfl

/-- The code of an expression alone asks for a semicolon. -/
lemma reader_effect (first : Expr) :
    (effect first).reader =
      (do if ← sees ";" then return .expr first else fail .unresolved : Parser Stmt) := by
  simp only [effect, reader_bind, reader_lift, reader_ite, reader_pure]

/-- A loop reads what its first round and what follows it read. -/
lemma reader_loop_eq {round : Code (Option α)} (advances : StepAdvances round.reader) :
    (loop round).reader = (bind round (again round)).reader := by
  rw [reader_loop, many_unfold advances, reader]
  congr! with item
  cases item <;> rfl

end Code

open Code in
/-- The code of every procedure reads what the procedure is written for. -/
lemma Procedure.reader_code (procedure : Procedure) :
    (code procedure).reader = procedure.reader := by
  cases procedure with
  | program => exact congrArg many reader_programRound
  | statement =>
    rw [reader, statement_eq]
    simp only [code, reader_bind, reader_lift, reader_ite, reader_pure]
    rfl
  | clause => rfl
  | block => exact congrArg many reader_blockRound
  | simple =>
    simp only [code, reader_bind, reader_lift, reader_ite, reader_pure, reader_assignment,
      reader_effect]
    rfl
  | expression => exact expression_eq.symm
  | comparison => exact reader_chain .comparison _
  | sum => exact reader_chain .sum _
  | product => exact reader_chain .product _
  | primary =>
    simp only [code, reader_bind, reader_loop, reader_listRound, reader_pure]
    rfl
  | operand =>
    simp only [code, reader_bind, reader_lift, reader_ite]
    rfl
  | group =>
    simp only [code, reader_bind, reader_lift, reader_ite, reader_pure]
    rfl
  | arguments =>
    simp only [code, reader_bind, reader_loop, reader_lift, reader_ite, reader_pure,
      reader_argumentRound]
    rw [reader, Parser.arguments]
    congr! with _ _ values
    cases values <;> rfl

/-! ## What codes do -/

namespace Code

/-- Whatever the code does from these tokens on meets the conditions: the errors of its basic
parsers and the calls that it makes. A loop takes a token in every round that yields something, and
so its rounds start at no more tokens than the loop does. -/
def Meets (errors : ParseError → List Token → Prop) (calls : Procedure → List Token → Prop) :
    {α : Type} → Code α → List Token → Prop
  | _, .basic p, tokens => ∀ cause rest, p tokens = .error cause rest → errors cause rest
  | _, .call procedure, tokens => calls procedure tokens
  | _, .bind first next, tokens => first.Meets errors calls tokens ∧
    ∀ value rest, first.reader tokens = .ok value rest → (next value).Meets errors calls rest
  | _, .loop round, tokens => StepAdvances round.reader ∧
    ∀ rest : List Token, rest.length ≤ tokens.length → round.Meets errors calls rest

variable {errors : ParseError → List Token → Prop} {calls calls' : Procedure → List Token → Prop}
  {tokens : List Token}

/-- What meets a condition on its calls meets every wider one. -/
lemma Meets.mono {code : Code α} (meets : code.Meets errors calls tokens)
    (wider : ∀ {procedure rest}, calls procedure rest → calls' procedure rest) :
    code.Meets errors calls' tokens := by
  induction code generalizing tokens with
  | basic p => exact meets
  | call procedure => exact wider meets
  | bind first next ihFirst ihNext =>
    exact ⟨ihFirst meets.1, fun value rest read => ihNext value (meets.2 value rest read)⟩
  | loop round ih => exact ⟨meets.1, fun rest short => ih (meets.2 rest short)⟩

/-- What holds of a loop holds of its first round and of what follows it. -/
lemma Meets.round {round : Code (Option α)} (meets : (loop round).Meets errors calls tokens) :
    (bind round (again round)).Meets errors calls tokens := by
  refine ⟨meets.2 tokens (Nat.le_refl _), fun item rest read => ?_⟩
  cases item with
  | none => exact nofun
  | some item =>
    have shorter := meets.1 read
    exact ⟨⟨meets.1, fun rest' short => meets.2 rest' (by omega)⟩, fun _ _ _ => nofun⟩

end Code

namespace Runs
open Code

variable {table : Table} {errors : ParseError → List Token → Prop} {code : Code α}
  {tokens : List Token}

/-- One code after another comes to what it reads if both parts do. -/
lemma bind_reader {next : α → Code β} (here : Runs table code tokens (code.reader tokens))
    (there : ∀ value rest, code.reader tokens = .ok value rest →
      Runs table (next value) rest ((next value).reader rest)) :
    Runs table (.bind code next) tokens ((Code.bind code next).reader tokens) := by
  rw [reader, bind_apply]
  cases read : code.reader tokens with
  | ok value rest =>
    rw [read] at here
    exact .bind here (there value rest read)
  | error cause rest =>
    rw [read] at here
    exact .stop here

/-- A code comes to what it reads if the procedures that it calls do. -/
lemma of_calls
    (meets : code.Meets errors
      (fun callee rest => Runs table (.call callee) rest (callee.reader rest)) tokens) :
    Runs table code tokens (code.reader tokens) := by
  induction code generalizing tokens with
  | basic p => exact .basic p tokens
  | call callee => exact meets
  | bind first next ihFirst ihNext =>
    exact bind_reader (ihFirst meets.1) fun value rest read =>
      ihNext value (meets.2 value rest read)
  | loop round ih =>
    -- by induction on the number of tokens, of which every round with an item takes one
    induction size : tokens.length using Nat.strongRecOn generalizing tokens with
    | ind size ihLoop =>
      rw [reader_loop_eq meets.1]
      refine .loop (bind_reader (ih meets.round.1) fun item rest read => ?_)
      cases item with
      | none => exact .basic _ rest
      | some item =>
        have more := (meets.round.2 _ rest read).1
        have runs := ihLoop rest.length (size ▸ meets.1 read) more rfl
        exact bind_reader runs fun _ _ _ => .basic _ _

end Runs

/-! ## Tables that make up the parser -/

/-- A procedure has a higher rank than those that it calls before it takes a token. -/
def Procedure.rank : Procedure → Nat
  | .clause | .operand | .arguments => 0
  | .primary => 1
  | .product => 2
  | .sum => 3
  | .comparison => 4
  | .expression => 5
  | .group | .simple => 6
  | .statement => 7
  | .program | .block => 8

/-- Arguments are read only where a parenthesis is opened. -/
def Procedure.Opened (procedure : Procedure) (tokens : List Token) : Prop :=
  procedure = .arguments → front? tokens = some "("

/-- One procedure may call another at these tokens. -/
structure Procedure.Calls (caller : Procedure) (tokens : List Token) (callee : Procedure)
    (rest : List Token) : Prop where
  descends : rest.length < tokens.length ∨
    rest.length ≤ tokens.length ∧ callee.rank < caller.rank
  opened : callee.Opened rest

/-- If an expression is missed, there is none where the reading stops. -/
def Missed (cause : ParseError) (rest : List Token) : Prop :=
  ∀ found, cause = .expectedPrimary found → expression rest = .error cause rest

/-- The codes read what the procedures are written for, and do no more than they may. -/
structure Implements (table : Table) : Prop where
  reads : ∀ procedure, (table procedure).reader = procedure.reader
  meets : ∀ procedure tokens, (table procedure).Meets Missed (procedure.Calls tokens) tokens

namespace Implements
open Code

variable {table : Table} {code : Code α} {tokens : List Token} {result : Parsed α}

/-- Every procedure comes to an end, with what its parser reads. -/
lemma runs (implements : Implements table) (procedure : Procedure) (tokens : List Token) :
    Runs table (.call procedure) tokens (procedure.reader tokens) := by
  have calls : (table procedure).Meets Missed
      (fun callee rest => Runs table (.call callee) rest (callee.reader rest)) tokens :=
    (implements.meets procedure tokens).mono fun {callee rest} call =>
      have := call.descends
      implements.runs callee rest
  rw [← implements.reads]
  exact .call (.of_calls calls)
termination_by (tokens.length, procedure.rank)
decreasing_by
  rw [Prod.lex_def]
  dsimp only
  omega

/-- Whatever the calls are, the errors are those that may be raised. -/
lemma meets_anyway (implements : Implements table) (procedure : Procedure) (tokens : List Token) :
    (table procedure).Meets Missed (fun _ _ => True) tokens :=
  (implements.meets procedure tokens).mono fun _ => trivial

/-- A run leaves no choice of its result. -/
lemma reader_eq (implements : Implements table) (run : Runs table code tokens result)
    (meets : code.Meets Missed (fun _ _ => True) tokens) : code.reader tokens = result := by
  induction run with
  | basic p tokens => rfl
  | call _ ih =>
    rw [reader, ← implements.reads]
    exact ih (implements.meets_anyway _ _)
  | bind _ _ ihFirst ihNext =>
    have read := ihFirst meets.1
    rw [reader, bind_apply, read]
    exact ihNext (meets.2 _ _ read)
  | stop _ ih => rw [reader, bind_apply, ih meets.1]
  | loop _ ih =>
    rw [reader_loop_eq meets.1]
    exact ih meets.round

/-- The runs of a procedure are those that come to what its parser reads. -/
theorem runs_iff (implements : Implements table) {procedure : Procedure}
    {result : Parsed procedure.Result} :
    Runs table (.call procedure) tokens result ↔ result = procedure.reader tokens := by
  constructor
  · intro run
    exact (implements.reader_eq run trivial).symm
  · rintro rfl
    exact implements.runs procedure tokens

/-- The errors of a run are those of the basic parsers in it. -/
lemma missed (implements : Implements table) (run : Runs table code tokens result)
    (meets : code.Meets Missed (fun _ _ => True) tokens) {cause : ParseError} {rest : List Token}
    (failed : result = .error cause rest) : Missed cause rest := by
  induction run with
  | basic p tokens => exact meets cause rest failed
  | call _ ih => exact ih (implements.meets_anyway _ _) failed
  | bind first _ _ ihNext =>
    have read := implements.reader_eq first meets.1
    exact ihNext (meets.2 _ _ read) failed
  | stop _ ih =>
    cases failed
    exact ih meets.1 rfl
  | loop _ ih => exact ih meets.round failed

end Implements

/-! ## What the procedures do -/

section Meets
open Code

variable {calls : Procedure → List Token → Prop} {tokens : List Token}

/-- A constant code raises no error and calls nothing. -/
lemma meets_pure (value : α) : (pure value : Code α).Meets Missed calls tokens :=
  nofun

/-- A complaint about anything but an expression is no miss. -/
lemma meets_fail {cause : Found → ParseError}
    (other : ∀ met found, cause met ≠ .expectedPrimary found) :
    (liftM (fail cause : Parser α) : Code α).Meets Missed calls tokens := by
  intro cause' rest failed found missed
  cases failed
  exact absurd missed (other _ _)

/-- Accepting a text meets the conditions if the branch behind the token and the other one do. -/
lemma meets_accept {text : String} {yes no : Code α}
    (taken : ∀ next rest, tokens = next :: rest → yes.Meets Missed calls rest)
    (kept : front? tokens ≠ some text → no.Meets Missed calls tokens) :
    (do if ← accept text then yes else no : Code α).Meets Missed calls tokens := by
  constructor
  · intro cause rest failed
    change accept text tokens = .error cause rest at failed
    rw [accept_eq] at failed
    split at failed <;> cases failed
  · intro found rest read
    rcases accept_eq_ok_iff.1 read with ⟨rfl, next, rfl, -⟩ | ⟨rfl, rfl, other⟩
    · exact taken next rest rfl
    · exact kept other

/-- Seeing a text meets the conditions if the branch that knows the token and the other one do. -/
lemma meets_sees {text : String} {yes no : Code α}
    (seen : front? tokens = some text → yes.Meets Missed calls tokens)
    (other : no.Meets Missed calls tokens) :
    (do if ← sees text then yes else no : Code α).Meets Missed calls tokens := by
  refine ⟨nofun, fun found rest read => ?_⟩
  change sees text tokens = .ok found rest at read
  rw [sees_eq] at read
  cases read
  dsimp only
  split
  · next here => exact seen (by simpa using here)
  · exact other

/-- Asking for the end meets the conditions if both branches do. -/
lemma meets_atEnd {yes no : Code α} (ended : yes.Meets Missed calls tokens)
    (more : no.Meets Missed calls tokens) :
    (do if ← atEnd then yes else no : Code α).Meets Missed calls tokens := by
  refine ⟨nofun, fun found rest read => ?_⟩
  cases read
  dsimp only
  split
  · exact ended
  · exact more

/-- Expecting a text meets the conditions if what follows the token does. -/
lemma meets_expect {text : String} {next : Unit → Code α}
    (taken : ∀ token rest, tokens = token :: rest → (next ()).Meets Missed calls rest) :
    ((liftM (expect text) : Code Unit) >>= next).Meets Missed calls tokens := by
  constructor
  · intro cause rest failed found missed
    change expect text tokens = .error cause rest at failed
    rw [expect_eq] at failed
    split at failed
    · cases failed
    · cases failed
      cases missed
  · intro value rest read
    obtain ⟨token, rfl, -⟩ := expect_eq_ok_iff.1 read
    exact taken token rest rfl

/-- A call of which only the result is used. -/
lemma meets_call {callee : Procedure} {make : callee.Result → α} (call : calls callee tokens) :
    (do return make (← .call callee) : Code α).Meets Missed calls tokens :=
  ⟨call, fun _ _ _ => meets_pure _⟩

/-- Where neither a parenthesis nor a number nor a name stands, there is no expression. -/
lemma expression_of_leaf {cause : ParseError} (other : front? tokens ≠ some "(")
    (missed : leaf tokens = .error cause tokens) : expression tokens = .error cause tokens := by
  have operand : operand expression tokens = .error cause tokens := by
    rw [operand, accept_bind_eq, if_neg other, missed]
  have primary : operandAt expression .product tokens = .error cause tokens := by
    rw [operandAt, primary_eq, bind_apply, operand]
  have level : ∀ precedence, operandAt expression precedence tokens = .error cause tokens →
      levelAt expression precedence tokens = .error cause tokens := by
    intro precedence first
    rw [levelAt_eq, bind_apply, first]
  rw [expression_eq]
  exact level .comparison (level .sum (level .product primary))

/-- Where no parenthesis is opened, a number or a name is missed only if there is no expression. -/
lemma meets_leaf (other : front? tokens ≠ some "(") :
    (liftM leaf : Code Expr).Meets Missed calls tokens := by
  intro cause rest failed found missed
  obtain rfl := leaf_eq_error failed
  exact expression_of_leaf other failed

/-- A chain meets the conditions if its operands do, from every place that it can come to. -/
lemma meets_chain {precedence : Precedence} {item : Code Expr} (recedes : Recedes item.reader)
    (advances : Advances item.reader)
    (operands : ∀ rest : List Token, rest.length ≤ tokens.length → item.Meets Missed calls rest) :
    (chain precedence item).Meets Missed calls tokens := by
  refine ⟨operands tokens (Nat.le_refl _), fun first rest read => ?_⟩
  have short := recedes.length_le read
  refine ⟨⟨?_, fun rest' short' => ?_⟩, fun _ _ _ => meets_pure _⟩
  · rw [reader_linkRound]
    exact stepAdvances_link? advances precedence
  · refine ⟨fun cause left failed => ?_, fun op left taken => ?_⟩
    · change operator? precedence rest' = .error cause left at failed
      rw [operator?] at failed
      split at failed
      · split at failed <;> cases failed
      · cases failed
    · have short'' := (recedes_operator? precedence).length_le taken
      cases op with
      | none => exact meets_pure _
      | some op => exact ⟨operands left (by omega), fun _ _ _ => meets_pure _⟩

/-- An assignment meets the conditions if it may call for an expression behind its sign. -/
lemma meets_assignment {target : Expr}
    (call : ∀ rest : List Token, rest.length ≤ tokens.length → calls .expression rest) :
    (Code.assignment target).Meets Missed calls tokens := by
  cases target
  case «variable» =>
    refine ⟨nofun, fun _ rest read => ?_⟩
    cases read
    exact meets_call (call _ (List.tail_suffix tokens).length_le)
  all_goals exact meets_fail nofun

/-- An expression alone calls nothing and misses no expression. -/
lemma meets_effect {first : Expr} : (effect first).Meets Missed calls tokens :=
  meets_sees (fun _ => meets_pure _) (meets_fail nofun)

end Meets

namespace Procedure
open Code

variable {caller callee : Procedure} {tokens rest : List Token}

/-- A procedure may call one of lower rank before it has taken a token. -/
lemma Calls.lower (short : rest.length ≤ tokens.length) (lower : callee.rank < caller.rank)
    (other : callee ≠ .arguments) : caller.Calls tokens callee rest :=
  ⟨.inr ⟨short, lower⟩, fun same => absurd same other⟩

/-- A procedure may call any other behind a token. -/
lemma Calls.behind (shorter : rest.length < tokens.length) (other : callee ≠ .arguments) :
    caller.Calls tokens callee rest :=
  ⟨.inl shorter, fun same => absurd same other⟩

/-- A procedure may call for arguments behind a token, where a parenthesis is opened. -/
lemma Calls.inside (shorter : rest.length < tokens.length) (opened : front? rest = some "(") :
    caller.Calls tokens .arguments rest :=
  ⟨.inl shorter, fun _ => opened⟩

/-- Every procedure raises and calls what it may, at fewer tokens or at a lower rank. -/
lemma meets_code (procedure : Procedure) (tokens : List Token) :
    (code procedure).Meets Missed (procedure.Calls tokens) tokens := by
  cases procedure with
  | program =>
    refine ⟨?_, fun rest short => ?_⟩
    · rw [reader_programRound]
      exact stepAdvances_programItem?
    · exact meets_atEnd (meets_pure _) (meets_call (.lower short (by decide) nofun))
  | statement =>
    have clause : ∀ next rest, tokens = next :: rest →
        Procedure.statement.Calls tokens .clause rest := by
      rintro next rest rfl
      exact .behind (Nat.lt_succ_self _) nofun
    refine meets_accept (fun next rest taken => meets_call (clause next rest taken)) fun _ => ?_
    refine meets_accept (fun next rest taken => meets_call (clause next rest taken)) fun _ => ?_
    refine ⟨.lower (Nat.le_refl _) (by decide) nofun, fun stmt rest _ => ?_⟩
    exact meets_expect fun _ _ _ => meets_pure _
  | clause =>
    refine meets_expect fun opening inside taken => ?_
    subst taken
    refine ⟨.behind (Nat.lt_succ_self _) nofun, fun condition rest read => ?_⟩
    have short := recedes_expression.length_le read
    refine meets_expect fun closing rest' taken => ?_
    refine meets_expect fun brace rest'' taken' => ?_
    subst taken taken'
    simp only [List.length_cons] at short
    exact meets_call (.behind (Nat.lt_succ_of_le (by omega)) nofun)
  | block =>
    refine ⟨?_, fun rest short => ?_⟩
    · rw [reader_blockRound]
      exact stepAdvances_blockItem? advances_statement
    · refine meets_accept (fun _ _ _ => meets_pure _) fun _ => ?_
      exact meets_atEnd (meets_fail nofun) (meets_call (.lower short (by decide) nofun))
  | simple =>
    refine ⟨.lower (Nat.le_refl _) (by decide) nofun, fun first rest read => ?_⟩
    have shorter := advances_expression read
    refine meets_sees (fun _ => ?_) (meets_sees (fun opened => ?_) meets_effect)
    · exact meets_assignment fun rest' short => .behind (by omega) nofun
    · exact meets_call (.inside shorter opened)
  | expression => exact .lower (Nat.le_refl _) (by decide) nofun
  | comparison =>
    refine meets_chain recedes_expression.sum
      (advances_operandAt recedes_expression .comparison) fun rest short => ?_
    exact .lower short (by decide) nofun
  | sum =>
    refine meets_chain recedes_expression.product
      (advances_operandAt recedes_expression .sum) fun rest short => ?_
    exact .lower short (by decide) nofun
  | product =>
    refine meets_chain recedes_expression.primary
      (advances_operandAt recedes_expression .product) fun rest short => ?_
    exact .lower short (by decide) nofun
  | primary =>
    refine ⟨.lower (Nat.le_refl _) (by decide) nofun, fun head rest read => ?_⟩
    have shorter := advances_operand recedes_expression read
    -- the operand was taken, so that the lists are entered at fewer tokens
    refine ⟨⟨?_, fun rest' short => ?_⟩, fun _ _ _ => meets_pure _⟩
    · rw [reader_listRound]
      exact stepAdvances_argumentList? recedes_expression
    · refine meets_sees (fun opened => ?_) (meets_pure _)
      exact meets_call (.inside (by omega) opened)
  | operand =>
    refine meets_accept (fun next rest taken => ?_) meets_leaf
    subst taken
    exact .behind (Nat.lt_succ_self _) nofun
  | group =>
    refine ⟨.lower (Nat.le_refl _) (by decide) nofun, fun inner rest _ => ?_⟩
    exact meets_accept (fun _ _ _ => meets_pure _) fun _ => meets_fail nofun
  | arguments =>
    refine meets_accept (fun next inside taken => ?_) fun _ => meets_pure _
    subst taken
    refine ⟨⟨?_, fun rest short => ?_⟩, fun values _ _ => ?_⟩
    · rw [reader_argumentRound]
      exact stepAdvances_argument? advances_expression
    · refine meets_accept (fun _ _ _ => meets_pure _) fun _ => ?_
      refine ⟨.behind (Nat.lt_succ_of_le short) nofun, fun _ _ _ => ?_⟩
      exact meets_expect fun _ _ _ => meets_pure _
    · cases values <;> exact meets_pure _

end Procedure

/-- The procedures make up the parser. -/
theorem implements_code : Implements Procedure.code :=
  ⟨Procedure.reader_code, Procedure.meets_code⟩

end Scriptlet.Parser
