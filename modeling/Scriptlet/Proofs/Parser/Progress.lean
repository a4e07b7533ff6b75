import Mathlib.Tactic.Common
import Scriptlet.Parser.Program

/-!
# Progress of parsers

A parser leaves a suffix of the tokens it is given (`Recedes`), and one that reads a value takes at
least one token (`Advances`). Both are proved for the combinators first and then for the parsers of
expressions. Progress is what makes the bound in the definition of `many` long enough:
`many_eq_ok_iff` says that a repetition is a finite row of steps (`Steps`).
-/

namespace Scriptlet

/-- The text of the token at the front. -/
def Token.front? (tokens : List Token) : Option String :=
  tokens.head?.map Token.text

/-- Where no token is left, nothing stands at the front. -/
@[simp]
lemma Token.front?_nil : Token.front? [] = none := rfl

/-- At the front stands the text of the first token. -/
@[simp]
lemma Token.front?_cons (next : Token) (rest : List Token) :
    Token.front? (next :: rest) = some next.text := rfl

/-- A text at the front is that of a first token. -/
lemma Token.exists_of_front? {tokens : List Token} {text : String}
    (front : Token.front? tokens = some text) :
    ∃ next rest, tokens = next :: rest ∧ next.text = text := by
  cases tokens with
  | nil => cases front
  | cons next rest => exact ⟨next, rest, rfl, Option.some.inj front⟩

namespace Parser
open Token (front?)

variable {α β : Type}

/-- Looking at the front takes nothing. -/
lemma sees_eq (text : String) (tokens : List Token) :
    sees text tokens = .ok (decide (front? tokens = some text)) tokens := by
  cases tokens with
  | nil => simp [sees]
  | cons next rest => simp [sees, Token.is]

/-- A token is accepted exactly if its text is at the front. -/
lemma accept_eq (text : String) (tokens : List Token) :
    accept text tokens =
      if front? tokens = some text then .ok true tokens.tail else .ok false tokens := by
  cases tokens with
  | nil => simp
  | cons next rest => simp [accept_cons]

/-- An expected token is dropped, and anything else is complained about. -/
lemma expect_eq (text : String) (tokens : List Token) :
    expect text tokens =
      if front? tokens = some text then .ok () tokens.tail
      else .error (.expectedSymbol text (Found.ofTokens tokens)) tokens := by
  rw [expect, bind_apply, accept_eq]
  by_cases here : front? tokens = some text
  · rw [if_pos here, if_pos here]
    rfl
  · rw [if_neg here, if_neg here]
    rfl

/-- A constant parser reads its constant and nothing else. -/
lemma pure_eq_ok_iff {value result : α} {tokens rest : List Token} :
    (pure value : Parser α) tokens = .ok result rest ↔ value = result ∧ tokens = rest := by
  simp

/-- Two parsers in a row read a value exactly if the first does and then the second. -/
lemma bind_eq_ok_iff {first : Parser α} {next : α → Parser β} {tokens rest : List Token}
    {value : β} :
    (first >>= next) tokens = .ok value rest ↔
      ∃ middle between, first tokens = .ok middle between ∧
        next middle between = .ok value rest := by
  rw [bind_apply]
  cases first tokens with
  | ok middle between => simp
  | error cause between => simp

/-- A token is accepted or everything stays as it is. -/
lemma accept_eq_ok_iff {text : String} {tokens rest : List Token} {found : Bool} :
    accept text tokens = .ok found rest ↔
      (found = true ∧ ∃ next, tokens = next :: rest ∧ next.text = text) ∨
      (found = false ∧ tokens = rest ∧ front? tokens ≠ some text) := by
  rw [accept_eq]
  cases tokens with
  | nil => simp [eq_comm]
  | cons next left =>
    by_cases same : next.text = text
    · simp [same, eq_comm]
    · simp [same]

/-- A token that is expected has to be there. -/
lemma expect_eq_ok_iff {text : String} {tokens rest : List Token} {value : Unit} :
    expect text tokens = .ok value rest ↔ ∃ next, tokens = next :: rest ∧ next.text = text := by
  rw [expect_eq]
  cases tokens with
  | nil => simp
  | cons next left => by_cases same : next.text = text <;> simp [same]

/-! ## Leaving a suffix -/

/-- The parser leaves a suffix of its tokens, whether it reads a value or not. -/
def Recedes (p : Parser α) : Prop :=
  ∀ tokens, (p tokens).rest <:+ tokens

/-- The parser takes at least one token whenever it reads a value. -/
def Advances (p : Parser α) : Prop :=
  ∀ ⦃tokens value rest⦄, p tokens = .ok value rest → rest.length < tokens.length

/-- The step takes at least one token whenever it yields something. -/
def StepAdvances (step : Parser (Option α)) : Prop :=
  ∀ ⦃tokens item rest⦄, step tokens = .ok (some item) rest → rest.length < tokens.length

/-- What is left behind a value is a suffix of the tokens. -/
lemma Recedes.suffix {p : Parser α} (recedes : Recedes p) {tokens rest value}
    (read : p tokens = .ok value rest) : rest <:+ tokens := by
  simpa [read, Parsed.rest] using recedes tokens

/-- Behind a value there are no more tokens than before it. -/
lemma Recedes.length_le {p : Parser α} (recedes : Recedes p) {tokens rest value}
    (read : p tokens = .ok value rest) : rest.length ≤ tokens.length :=
  (recedes.suffix read).length_le

/-- A constant parser leaves all its tokens. -/
lemma recedes_pure (value : α) : Recedes (pure value : Parser α) :=
  fun tokens => List.suffix_refl tokens

/-- A complaint leaves all its tokens. -/
lemma recedes_fail (cause : Found → ParseError) : Recedes (fail cause : Parser α) :=
  fun tokens => List.suffix_refl tokens

/-- A look at the next token leaves all tokens. -/
lemma recedes_sees (text : String) : Recedes (sees text) :=
  fun tokens => List.suffix_refl tokens

/-- The question for the end leaves all tokens. -/
lemma recedes_atEnd : Recedes atEnd :=
  fun tokens => List.suffix_refl tokens

/-- Without the first token there is a suffix left. -/
lemma recedes_advance : Recedes advance :=
  fun tokens => List.tail_suffix tokens

/-- One parser after another leaves a suffix if both do. -/
lemma Recedes.bind {first : Parser α} {next : α → Parser β} (here : Recedes first)
    (there : ∀ value, Recedes (next value)) : Recedes (first >>= next) := by
  intro tokens
  have left := here tokens
  rw [bind_apply]
  cases read : first tokens with
  | ok value rest =>
    rw [read] at left
    exact (there value rest).trans left
  | error cause rest =>
    rw [read] at left
    exact left

/-- A choice leaves a suffix if both ways do. -/
lemma Recedes.ite {condition : Prop} [Decidable condition] {p q : Parser α} (yes : Recedes p)
    (no : Recedes q) : Recedes (if condition then p else q) := by
  split
  · exact yes
  · exact no

/-- A token that is taken if it has the text leaves a suffix. -/
lemma recedes_accept (text : String) : Recedes (accept text) :=
  (recedes_sees text).bind fun _ => .ite (recedes_advance.bind fun _ => recedes_pure _)
    (recedes_pure _)

/-- A token that has to have the text leaves a suffix. -/
lemma recedes_expect (text : String) : Recedes (expect text) :=
  (recedes_accept text).bind fun _ => .ite (recedes_pure _) (recedes_fail _)

/-- An operator that is taken leaves a suffix. -/
lemma recedes_operator? (precedence : Precedence) : Recedes (operator? precedence) := by
  intro tokens
  rw [operator?]
  split
  · split
    · exact List.tail_suffix tokens
    · exact List.suffix_refl tokens
  · exact List.suffix_refl tokens

/-- A bounded repetition leaves a suffix if its step does. -/
lemma recedes_manyWithin {step : Parser (Option α)} (recedes : Recedes step) (bound : List Token) :
    Recedes (manyWithin step bound) := by
  induction bound with
  | nil =>
    refine recedes.bind fun item => ?_
    cases item with
    | none => exact recedes_pure _
    | some item => exact recedes_pure _
  | cons _ bound ih =>
    refine recedes.bind fun item => ?_
    cases item with
    | none => exact recedes_pure _
    | some item => exact ih.bind fun _ => recedes_pure _

/-- A repetition leaves a suffix if its step does. -/
lemma Recedes.many {step : Parser (Option α)} (recedes : Recedes step) : Recedes (many step) :=
  fun tokens => recedes_manyWithin recedes tokens tokens

/-- A parser that starts by taking a token takes one. -/
lemma Advances.bind {first : Parser α} {next : α → Parser β} (here : Advances first)
    (there : ∀ value, Recedes (next value)) : Advances (first >>= next) := by
  intro tokens value rest read
  obtain ⟨middle, between, firstRead, nextRead⟩ := bind_eq_ok_iff.1 read
  exact Nat.lt_of_le_of_lt ((there middle).length_le nextRead) (here firstRead)

/-! ## Repetition -/

/-- A row of steps from some tokens to those that are left, each yielding an item, and a last one
that yields nothing. -/
inductive Steps (step : Parser (Option α)) : List Token → List α → List Token → Prop where
  | done {tokens rest} :
    step tokens = .ok none rest →
    Steps step tokens [] rest
  | next {tokens item between items rest} :
    step tokens = .ok (some item) between →
    Steps step between items rest →
    Steps step tokens (item :: items) rest

/-- On no tokens a step yields nothing, so that every bound is as good as none. -/
lemma manyWithin_no_tokens {step : Parser (Option α)} (advances : StepAdvances step)
    (bound : List Token) : manyWithin step bound [] = manyWithin step [] [] := by
  cases bound with
  | nil => rfl
  | cons _ bound =>
    simp only [manyWithin, bind_apply]
    cases read : step [] with
    | error cause rest => rfl
    | ok item rest =>
      cases item with
      | none => rfl
      | some item => exact absurd (advances read) (Nat.not_lt_zero _)

/-- The bound of a repetition does not matter once it is as long as the tokens. -/
lemma manyWithin_eq_of_length_le {step : Parser (Option α)} (advances : StepAdvances step)
    {tokens bound other : List Token} (long : tokens.length ≤ bound.length)
    (alsoLong : tokens.length ≤ other.length) :
    manyWithin step bound tokens = manyWithin step other tokens := by
  induction bound generalizing tokens other with
  | nil =>
    cases List.length_eq_zero_iff.1 (Nat.le_zero.1 long)
    exact (manyWithin_no_tokens advances other).symm
  | cons _ bound ih =>
    cases other with
    | nil =>
      cases List.length_eq_zero_iff.1 (Nat.le_zero.1 alsoLong)
      exact manyWithin_no_tokens advances _
    | cons _ other =>
      simp only [manyWithin, bind_apply]
      cases read : step tokens with
      | error cause rest => rfl
      | ok item rest =>
        cases item with
        | none => rfl
        | some item =>
          have shorter := advances read
          simp only [List.length_cons] at long alsoLong
          have same : manyWithin step bound rest = manyWithin step other rest :=
            ih (by omega) (by omega)
          simp only [bind_apply, same]

/-- A repetition that starts with a step that yields something goes on behind it. -/
lemma many_of_some {step : Parser (Option α)} (advances : StepAdvances step)
    {tokens between : List Token} {item : α} (read : step tokens = .ok (some item) between) :
    many step tokens = (many step >>= fun items => pure (item :: items)) between := by
  have shorter := advances read
  cases tokens with
  | nil => exact absurd shorter (Nat.not_lt_zero _)
  | cons next rest =>
    have same : manyWithin step rest between = manyWithin step between between :=
      manyWithin_eq_of_length_le advances (Nat.le_of_lt_succ shorter) (Nat.le_refl _)
    simp only [many, manyWithin, bind_apply, read, same]

/-- A repetition that starts with a step that yields nothing is over. -/
lemma many_of_none {step : Parser (Option α)} {tokens rest : List Token}
    (read : step tokens = .ok none rest) : many step tokens = .ok [] rest := by
  cases tokens <;> simp [many, manyWithin, read]

/-- A repetition that starts with a step that fails fails with it. -/
lemma many_of_error {step : Parser (Option α)} {tokens rest : List Token} {cause : ParseError}
    (read : step tokens = .error cause rest) : many step tokens = .error cause rest := by
  cases tokens <;> simp [many, manyWithin, read]

/-- A repetition reads exactly what a row of steps yields. -/
lemma many_eq_ok_iff {step : Parser (Option α)} (advances : StepAdvances step)
    {tokens rest : List Token} {items : List α} :
    many step tokens = .ok items rest ↔ Steps step tokens items rest := by
  constructor
  · intro read
    -- by induction on the number of tokens, of which every step that yields something takes one
    induction size : tokens.length using Nat.strongRecOn generalizing tokens items with
    | ind size ih =>
      cases first : step tokens with
      | error cause between => simp [many_of_error first] at read
      | ok item between =>
        cases item with
        | none =>
          rw [many_of_none first] at read
          cases read
          exact .done first
        | some item =>
          rw [many_of_some advances first] at read
          obtain ⟨items, between', more, last⟩ := bind_eq_ok_iff.1 read
          cases last
          exact .next first (ih between.length (size ▸ advances first) more rfl)
  · intro steps
    induction steps with
    | done last => exact many_of_none last
    | next first _ ih =>
      rw [many_of_some advances first]
      exact bind_eq_ok_iff.2 ⟨_, _, ih, rfl⟩

/-! ## The parsers of expressions

Each of them is built over the parser of the expressions nested in it, and has the properties that
this one has.
-/

/-- A number or a name leaves a suffix. -/
lemma recedes_leaf : Recedes leaf := by
  intro tokens
  match tokens with
  | [] => exact List.suffix_refl _
  | ⟨kind, text⟩ :: rest =>
    cases kind
    case number =>
      rw [leaf]
      split
      · exact List.suffix_cons _ _
      · exact List.suffix_refl _
    case identifier => exact List.suffix_cons _ _
    all_goals exact List.suffix_refl _

/-- A number or a name takes its token. -/
lemma advances_leaf : Advances leaf := by
  intro tokens value rest read
  match tokens with
  | [] => cases read
  | ⟨kind, text⟩ :: rest =>
    cases kind
    case number =>
      rw [leaf] at read
      split at read
      · cases read
        exact Nat.lt_succ_self _
      · cases read
    case identifier =>
      cases read
      exact Nat.lt_succ_self _
    all_goals cases read

section Over

variable {p : Parser Expr}

/-- The inside of a parenthesis leaves a suffix if expressions do. -/
lemma Recedes.group (recedes : Recedes p) : Recedes (group p) :=
  recedes.bind fun _ => (recedes_accept _).bind fun _ => .ite (recedes_pure _) (recedes_fail _)

/-- An operand leaves a suffix if expressions do. -/
lemma Recedes.operand (recedes : Recedes p) : Recedes (operand p) :=
  (recedes_accept _).bind fun _ => .ite recedes.group recedes_leaf

/-- An argument leaves a suffix if expressions do. -/
lemma Recedes.argument? (recedes : Recedes p) : Recedes (argument? p) :=
  (recedes_accept _).bind fun _ => .ite (recedes_pure _)
    (recedes.bind fun _ => (recedes_expect _).bind fun _ => recedes_pure _)

/-- An argument list leaves a suffix if expressions do. -/
lemma Recedes.arguments (recedes : Recedes p) : Recedes (arguments p) := by
  refine (recedes_accept _).bind fun _ => .ite (recedes.argument?.many.bind fun values => ?_)
    (recedes_pure _)
  cases values with
  | nil => exact recedes_pure _
  | cons value values => exact recedes_pure _

/-- One more argument list behind a callee, if there is one. -/
def argumentList? (p : Parser Expr) : Parser (Option (Option (List Expr))) := do
  if ← sees "(" then return some (← arguments p)
  else return none

/-- A primary expression is an operand with a repetition of argument lists behind it. -/
lemma primary_eq (p : Parser Expr) :
    primary p = do
      let head ← operand p
      let lists ← Parser.many (argumentList? p)
      return lists.foldl .invoke head :=
  rfl

/-- One more argument list leaves a suffix if expressions do. -/
lemma Recedes.argumentList? (recedes : Recedes p) : Recedes (argumentList? p) :=
  (recedes_sees _).bind fun _ => .ite (recedes.arguments.bind fun _ => recedes_pure _)
    (recedes_pure _)

/-- A primary expression leaves a suffix if expressions do. -/
lemma Recedes.primary (recedes : Recedes p) : Recedes (primary p) :=
  recedes.operand.bind fun _ => recedes.argumentList?.many.bind fun _ => recedes_pure _

/-- One more operator of a precedence and the operand behind it, if there is one. -/
def link? (precedence : Precedence) (item : Parser Expr) : Parser (Option (Operator × Expr)) := do
  match ← operator? precedence with
  | none => return none
  | some op => return some (op, ← item)

/-- The operators with their right operands are a repetition. -/
lemma links_eq (precedence : Precedence) (item : Parser Expr) :
    links precedence item = Parser.many (link? precedence item) :=
  rfl

/-- One more operator with its operand leaves a suffix if operands do. -/
lemma Recedes.link? {item : Parser Expr} (recedes : Recedes item) (precedence : Precedence) :
    Recedes (link? precedence item) := by
  refine (recedes_operator? precedence).bind fun op => ?_
  cases op with
  | none => exact recedes_pure _
  | some op => exact recedes.bind fun _ => recedes_pure _

/-- Operators with their operands leave a suffix if operands do. -/
lemma Recedes.links {item : Parser Expr} (recedes : Recedes item) (precedence : Precedence) :
    Recedes (links precedence item) :=
  (recedes.link? precedence).many

/-- The parser of the operands between the operators of a precedence. -/
def operandAt (p : Parser Expr) : Precedence → Parser Expr
  | .product => Parser.primary p
  | .sum => Parser.product p
  | .comparison => Parser.sum p

/-- The parser of operands with operators of a precedence between them. -/
def levelAt (p : Parser Expr) : Precedence → Parser Expr
  | .product => Parser.product p
  | .sum => Parser.sum p
  | .comparison => Parser.comparison p

/-- How the operands of a chain are joined. -/
def join : Precedence → Expr → List (Operator × Expr) → Expr
  | .comparison => joinFirst
  | _ => joinOwn

/-- All three levels are read in the same way and differ in how their operands are joined. -/
lemma levelAt_eq (p : Parser Expr) (precedence : Precedence) :
    levelAt p precedence = do
      let first ← operandAt p precedence
      let chain ← Parser.links precedence (operandAt p precedence)
      return join precedence first chain := by
  cases precedence <;> rfl

/-- A level leaves a suffix if its operands do. -/
lemma Recedes.levelAt (precedence : Precedence) (recedes : Recedes (operandAt p precedence)) :
    Recedes (levelAt p precedence) := by
  rw [levelAt_eq]
  exact recedes.bind fun _ => (recedes.links _).bind fun _ => recedes_pure _

/-- A product leaves a suffix if expressions do. -/
lemma Recedes.product (recedes : Recedes p) : Recedes (product p) :=
  Recedes.levelAt .product recedes.primary

/-- A sum leaves a suffix if expressions do. -/
lemma Recedes.sum (recedes : Recedes p) : Recedes (sum p) :=
  Recedes.levelAt .sum recedes.product

/-- A comparison leaves a suffix if expressions do. -/
lemma Recedes.comparison (recedes : Recedes p) : Recedes (comparison p) :=
  Recedes.levelAt .comparison recedes.sum

/-- The operands of every level leave a suffix if expressions do. -/
lemma Recedes.operandAt (recedes : Recedes p) (precedence : Precedence) :
    Recedes (operandAt p precedence) := by
  cases precedence with
  | comparison => exact recedes.sum
  | sum => exact recedes.product
  | product => exact recedes.primary

/-- An operand starts with a parenthesis, a number or a name, which it takes. -/
lemma advances_operand (recedes : Recedes p) : Advances (operand p) := by
  intro tokens value rest whole
  obtain ⟨opened, between, front, read⟩ := bind_eq_ok_iff.1 whole
  rcases accept_eq_ok_iff.1 front with ⟨rfl, next, rfl, -⟩ | ⟨rfl, rfl, -⟩
  · exact Nat.lt_succ_of_le (recedes.group.length_le read)
  · exact advances_leaf read

/-- A primary expression takes the tokens of its operand. -/
lemma advances_primary (recedes : Recedes p) : Advances (primary p) :=
  (advances_operand recedes).bind fun _ => recedes.argumentList?.many.bind fun _ => recedes_pure _

/-- A level takes the tokens of its first operand. -/
lemma Advances.levelAt (precedence : Precedence) (recedes : Recedes p)
    (advances : Advances (operandAt p precedence)) : Advances (levelAt p precedence) := by
  rw [levelAt_eq]
  exact advances.bind fun _ => ((recedes.operandAt _).links _).bind fun _ => recedes_pure _

/-- The operands of every level take a token. -/
lemma advances_operandAt (recedes : Recedes p) (precedence : Precedence) :
    Advances (operandAt p precedence) := by
  have primary := advances_primary recedes
  have product := Advances.levelAt .product recedes primary
  cases precedence with
  | product => exact primary
  | sum => exact product
  | comparison => exact Advances.levelAt .sum recedes product

/-- A comparison takes a token. -/
lemma advances_comparison (recedes : Recedes p) : Advances (comparison p) :=
  Advances.levelAt .comparison recedes (advances_operandAt recedes .comparison)

/-- Every argument takes a token. -/
lemma stepAdvances_argument? (advances : Advances p) : StepAdvances (argument? p) := by
  intro tokens item rest whole
  obtain ⟨closed, between, front, read⟩ := bind_eq_ok_iff.1 whole
  rcases accept_eq_ok_iff.1 front with ⟨rfl, next, rfl, -⟩ | ⟨rfl, rfl, -⟩
  · cases read
  · exact advances.bind (fun _ => (recedes_expect _).bind fun _ => recedes_pure _) read

/-- An argument list takes its opening parenthesis. -/
lemma advances_arguments {tokens rest : List Token} {value : Option (List Expr)}
    (recedes : Recedes p) (opened : front? tokens = some "(")
    (whole : arguments p tokens = .ok value rest) : rest.length < tokens.length := by
  obtain ⟨next, inside, rfl, -⟩ := Token.exists_of_front? opened
  obtain ⟨found, between, front, read⟩ := bind_eq_ok_iff.1 whole
  rcases accept_eq_ok_iff.1 front with ⟨rfl, _, same, -⟩ | ⟨rfl, rfl, other⟩
  · cases same
    refine Nat.lt_succ_of_le (Recedes.length_le (recedes.argument?.many.bind fun values => ?_) read)
    cases values with
    | nil => exact recedes_pure _
    | cons value values => exact recedes_pure _
  · exact absurd opened other

/-- Every further argument list takes its opening parenthesis. -/
lemma stepAdvances_argumentList? (recedes : Recedes p) : StepAdvances (argumentList? p) := by
  intro tokens item rest whole
  obtain ⟨opened, between, front, read⟩ := bind_eq_ok_iff.1 whole
  rw [sees_eq] at front
  cases front
  by_cases here : front? tokens = some "("
  · rw [if_pos (by simpa using here)] at read
    obtain ⟨values, _, read, last⟩ := bind_eq_ok_iff.1 read
    cases last
    exact advances_arguments recedes here read
  · rw [if_neg (by simpa using here)] at read
    cases read

/-- Every further operator with its operand takes a token. -/
lemma stepAdvances_link? {item : Parser Expr} (advances : Advances item)
    (precedence : Precedence) : StepAdvances (link? precedence item) := by
  intro tokens value rest read
  obtain ⟨op, between, front, read⟩ := bind_eq_ok_iff.1 read
  cases op with
  | none => cases read
  | some op =>
    have shorter := (advances.bind fun _ => recedes_pure _) read
    have shorterStill := (recedes_operator? precedence).length_le front
    omega

end Over

end Parser

end Scriptlet
