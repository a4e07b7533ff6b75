import Scriptlet.Number.Read
import Scriptlet.Parser.Basic
import Scriptlet.Program.Basic

/-!
# The grammar of expressions

From the tightest to the loosest: an operand (a number, a name or a parenthesis), an operand with
argument lists behind it, a product, a sum, and a chain of comparisons. Operators of one level
group to the left. All nodes of a comparison chain carry the first operator of the chain. Every
argument in an argument list is followed by a comma, the last one too.
-/

namespace Scriptlet.Parser

/-- A number or a name. -/
def leaf : Parser Expr := fun tokens =>
  match tokens with
  | ⟨.number, text⟩ :: rest =>
    match Number.read? text with
    | some x => .ok (.number x) rest
    | none => fail .expectedPrimary tokens
  | ⟨.identifier, text⟩ :: rest => .ok (.variable text) rest
  | _ => fail .expectedPrimary tokens

/-- The rest of a parenthesis behind its opening. -/
def group (expression : Parser Expr) : Parser Expr := do
  let inner ← expression
  if ← accept ")" then return .group inner
  else fail .expectedClosing

/-- A number, a name or a parenthesis. -/
def operand (expression : Parser Expr) : Parser Expr := do
  if ← accept "(" then group expression
  else leaf

/-- An argument with the comma behind it, unless the list is closed. -/
def argument? (expression : Parser Expr) : Parser (Option Expr) := do
  if ← accept ")" then return none
  else
    let value ← expression
    expect ","
    return some value

/-- A list of arguments in parentheses. Where none is opened, or nothing stands inside, there is no
list. -/
def arguments (expression : Parser Expr) : Parser (Option (List Expr)) := do
  if ← accept "(" then
    match ← many (argument? expression) with
    | [] => return none
    | values => return some values
  else return none

/-- An operand followed by any number of argument lists. -/
def primary (expression : Parser Expr) : Parser Expr := do
  let head ← operand expression
  let lists ← many do
    if ← sees "(" then return some (← arguments expression)
    else return none
  return lists.foldl .invoke head

/-- Operators of one precedence, each with the operand behind it. -/
def links (precedence : Precedence) (item : Parser Expr) : Parser (List (Operator × Expr)) :=
  many do
    match ← operator? precedence with
    | none => return none
    | some op => return some (op, ← item)

/-- Joins a chain from the left, every node with the operator before its right operand. -/
def joinOwn (first : Expr) (chain : List (Operator × Expr)) : Expr :=
  chain.foldl (fun left (op, right) => .binary op.symbol left right) first

/-- Joins a chain from the left, every node with the first operator of the chain. -/
def joinFirst (first : Expr) : List (Operator × Expr) → Expr
  | [] => first
  | (op, second) :: chain =>
    chain.foldl (fun left (_, right) => .binary op.symbol left right)
      (.binary op.symbol first second)

/-- Primaries with products and quotients between them. -/
def product (expression : Parser Expr) : Parser Expr := do
  let first ← primary expression
  return joinOwn first (← links .product (primary expression))

/-- Products with sums and differences between them. -/
def sum (expression : Parser Expr) : Parser Expr := do
  let first ← product expression
  return joinOwn first (← links .sum (product expression))

/-- Sums with comparisons between them. -/
def comparison (expression : Parser Expr) : Parser Expr := do
  let first ← sum expression
  return joinFirst first (← links .comparison (sum expression))

/-- An expression whose parentheses nest at most as deep as the first list is long. -/
def expressionWithin : List Token → Parser Expr
  | [] => fail .expectedPrimary
  | _ :: bound => comparison (expressionWithin bound)

/-- An expression. A nested expression starts behind a parenthesis, so the tokens themselves bound
the depth. -/
def expression : Parser Expr := fun tokens =>
  expressionWithin tokens tokens

/-- Reads expressions from one token list, each from where the one before it stopped, be it behind
an expression or at an error. -/
def expressions : Nat → List Token → List (Parsed Expr)
  | 0, _ => []
  | n + 1, tokens =>
    let result := expression tokens
    result :: expressions n result.rest

end Scriptlet.Parser
