import Scriptlet.Operator.Apply
import Scriptlet.Value.Bindings
import Scriptlet.Value.Sink

/-!
# Evaluating expressions

An expression is evaluated over fixed bindings. Operands and arguments are evaluated from left to
right. A call goes by the text of its callee's value: the function is whatever that text is bound
to as a name.
-/

namespace Scriptlet

/-- The value with its sign changed; only numbers have one. -/
def Value.negated : Value → Except Fault Value
  | .number x => .ok (.number (-x))
  | value => .error (.illegalNegation value)

/-- The value as the answer to a condition. -/
def Value.truth : Value → Except Fault Bool
  | .boolean b => .ok b
  | value => .error (.nonBoolean value)

mutual

/-- Evaluates an expression. A missing right operand makes the whole empty, and the left operand
is left alone. -/
def Expr.eval (vars : Bindings) : Expr → Writing Value
  | .number x => return .number x
  | .variable name => Writing.ofResult (vars.get name)
  | .binary symbol left right => do
    let a ← left.eval vars
    let b ← right.eval vars
    Writing.ofResult (Operator.applySymbol symbol a b)
  | .unfinished _ _ => return .null
  | .group inner => inner.eval vars
  | .invoke callee arguments => do
    let value ← callee.eval vars
    let f ← Writing.ofResult (vars.function value.text)
    let values ← Expr.evalArguments vars arguments
    f.run values
  | .negate inner => do
    let value ← inner.eval vars
    Writing.ofResult value.negated

/-- Evaluates the arguments of a call; where there is no list there are no values. -/
def Expr.evalArguments (vars : Bindings) : Option (List Expr) → Writing (List Value)
  | none => return []
  | some arguments => Expr.evalAll vars arguments

/-- Evaluates expressions from left to right. -/
def Expr.evalAll (vars : Bindings) : List Expr → Writing (List Value)
  | [] => return []
  | e :: more => do
    let value ← e.eval vars
    let values ← Expr.evalAll vars more
    return value :: values

end

/-- Evaluates a condition. -/
def Expr.holds (vars : Bindings) (condition : Expr) : Writing Bool := do
  let value ← condition.eval vars
  Writing.ofResult value.truth

end Scriptlet
