import Scriptlet.Number.Text
import Scriptlet.Program.Basic

/-!
# Outlines of programs

The outline of a program shows its tree: every node in parentheses, its name or symbol first and
then its parts. A block stands in braces, and a program has one line for each statement.
-/

namespace Scriptlet

mutual

/-- The outline of an expression. -/
def Expr.outline : Expr → String
  | .number x => Number.text x
  | .variable name => name
  | .binary symbol left right => "(" ++ symbol ++ " " ++ left.outline ++ " " ++ right.outline ++ ")"
  | .unfinished symbol left => "(" ++ symbol ++ " " ++ left.outline ++ ")"
  | .group inner => "(group " ++ inner.outline ++ ")"
  | .invoke callee none => "(call " ++ callee.outline ++ ")"
  | .invoke callee (some arguments) =>
    "(call " ++ callee.outline ++ Expr.argumentsOutline arguments ++ ")"
  | .negate inner => "(- " ++ inner.outline ++ ")"

/-- The outlines of the arguments, each after a space. -/
def Expr.argumentsOutline : List Expr → String
  | [] => ""
  | e :: more => " " ++ e.outline ++ Expr.argumentsOutline more

end

mutual

/-- The outline of a statement. -/
def Stmt.outline : Stmt → String
  | .ifThen condition body =>
    "(if " ++ condition.outline ++ " \x7b" ++ Stmt.bodyOutline body ++ "\x7d)"
  | .whileDo condition body =>
    "(while " ++ condition.outline ++ " \x7b" ++ Stmt.bodyOutline body ++ "\x7d)"
  | .assign target (some value) => "(set " ++ target.outline ++ " " ++ value.outline ++ ")"
  | .assign target none => "(set " ++ target.outline ++ ")"
  | .expr e => "(expr " ++ e.outline ++ ")"

/-- The outlines of the statements of a block with a space between them. -/
def Stmt.bodyOutline : List Stmt → String
  | [] => ""
  | [stmt] => stmt.outline
  | stmt :: more => stmt.outline ++ " " ++ Stmt.bodyOutline more

end

/-- The outline of a program, one line for each statement. -/
def Program.outline (program : Program) : String :=
  String.intercalate "\n" (program.map Stmt.outline)

end Scriptlet
