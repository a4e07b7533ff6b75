import Scriptlet.Operator.Basic
import Scriptlet.Program.Outline
import Scriptlet.Value.Basic

/-!
# Faults

Why the running of a program can stop early.
-/

namespace Scriptlet

/-- Why a program stops. -/
inductive Fault where
  /-- A variable is read that has no value. -/
  | undefinedVariable (name : String)
  /-- A call goes to a name that is not bound. -/
  | unknownFunction (name : String)
  /-- A call goes to a name that is bound to something other than a function. -/
  | notCallable (name : String)
  /-- An operator does not apply to its operands. -/
  | incompatible (op : Operator) (left right : Value)
  /-- A condition is neither true nor false. -/
  | nonBoolean (value : Value)
  /-- A minus sign stands before something other than a number. -/
  | illegalNegation (value : Value)
  /-- A symbol is no operator. -/
  | unknownOperator (symbol : String)
  /-- The target of an assignment is neither a variable nor a call. -/
  | invalidTarget (target : Expr)
  /-- The output is refused. -/
  | output (reason : String)
  deriving Repr

/-- The wording of a fault. -/
def Fault.message : Fault → String
  | .undefinedVariable name => "No such variable `" ++ name ++ "`."
  | .unknownFunction name => "Call on unknown function `" ++ name ++ "`."
  | .notCallable name => "`" ++ name ++ "` is not callable."
  | .incompatible op left right =>
    "Incompatible types for `" ++ op.symbol ++ "`: " ++ left.text ++ " and " ++ right.text ++ "."
  | .nonBoolean value => "Expected boolean condition, but got " ++ value.text ++ "."
  | .illegalNegation value => "Unary minus is only for numbers, but got " ++ value.text ++ "."
  | .unknownOperator symbol => "Unknown operator `" ++ symbol ++ "`."
  | .invalidTarget target => "Cannot assign to `" ++ target.outline ++ "`."
  | .output reason => "Failed to write output: " ++ reason

end Scriptlet
