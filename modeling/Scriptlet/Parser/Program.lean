import Scriptlet.Parser.Expr

/-!
# The grammar of programs

A program is a list of statements: `if` and `while` with a condition in parentheses and a block in
braces, and assignments and expressions with a semicolon behind them.
-/

namespace Scriptlet.Parser

/-- The rest of an assignment from its sign on; the target has to be a variable. -/
def assignment (target : Expr) : Parser Stmt :=
  match target with
  | .variable _ => do
    advance
    return .assign target (some (← expression))
  | _ => fail fun _ => .expectedVariable

/-- A statement without a block, up to its semicolon. The token behind the first expression
decides what it is. -/
def simple : Parser Stmt := do
  let first ← expression
  if ← sees "=" then assignment first
  else if ← sees "(" then return .expr (.invoke first (← arguments expression))
  else if ← sees ";" then return .expr first
  else fail .unresolved

/-- Statements up to the brace that closes their block. -/
def block (statement : Parser Stmt) : Parser (List Stmt) :=
  many do
    if ← accept "\x7d" then return none
    else if ← atEnd then fail fun _ => .expectedBlockEnd
    else return some (← statement)

/-- A condition in parentheses and a block in braces. -/
def clause (statement : Parser Stmt) : Parser (Expr × List Stmt) := do
  expect "("
  let condition ← expression
  expect ")"
  expect "\x7b"
  return (condition, ← block statement)

/-- A statement, given the parser for the statements of its block. -/
def statementOver (statement : Parser Stmt) : Parser Stmt := do
  if ← accept "if" then
    let (condition, body) ← clause statement
    return .ifThen condition body
  else if ← accept "while" then
    let (condition, body) ← clause statement
    return .whileDo condition body
  else
    let stmt ← simple
    expect ";"
    return stmt

/-- A statement whose blocks nest at most as deep as the first list is long. -/
def statementWithin : List Token → Parser Stmt
  | [] => fail .expectedPrimary
  | _ :: bound => statementOver (statementWithin bound)

/-- A statement. A nested statement starts inside a block, so the tokens themselves bound the
depth. -/
def statement : Parser Stmt := fun tokens =>
  statementWithin tokens tokens

/-- Statements up to the end of the tokens. -/
def program : Parser Program :=
  many do
    if ← atEnd then return none
    else return some (← statement)

end Scriptlet.Parser

namespace Scriptlet

/-- The program that the tokens make up. -/
def Program.ofTokens (tokens : List Token) : Except ParseError Program :=
  (Parser.program tokens).toExcept

end Scriptlet
