/-!
# Programs

A program is a list of statements over expressions. Every tree of these types can be shown and
run, also those that no source text leads to.
-/

namespace Scriptlet

/-- Expressions. -/
inductive Expr where
  /-- A number. -/
  | number (value : Float)
  /-- A variable. -/
  | variable (name : String)
  /-- Two operands with the symbol between them. -/
  | binary (symbol : String) (left right : Expr)
  /-- A left operand and a symbol without a right operand. -/
  | unfinished (symbol : String) (left : Expr)
  /-- An expression in parentheses. -/
  | group (inner : Expr)
  /-- A callee with its arguments; an empty pair of parentheses is no argument list at all. -/
  | invoke (callee : Expr) (arguments : Option (List Expr))
  /-- An expression with a minus sign before it. -/
  | negate (inner : Expr)
  deriving Repr, Inhabited

/-- A call with a list of arguments. -/
def Expr.call (callee : Expr) (arguments : List Expr) : Expr :=
  .invoke callee (some arguments)

/-- Statements. -/
inductive Stmt where
  /-- A block that runs if the condition holds. -/
  | ifThen (condition : Expr) (body : List Stmt)
  /-- A block that runs as long as the condition holds. -/
  | whileDo (condition : Expr) (body : List Stmt)
  /-- An assignment; without a value it leaves the target empty. -/
  | assign (target : Expr) (value : Option Expr)
  /-- An expression for its effect. -/
  | expr (e : Expr)
  deriving Repr, Inhabited

/-- Programs. -/
abbrev Program := List Stmt

end Scriptlet
