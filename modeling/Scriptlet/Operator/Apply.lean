import Scriptlet.Value.Fault

/-!
# Applying operators

Arithmetic and order need two numbers. Equality needs two numbers or two booleans. Both `<=` and
`>=` mean the same as `<`.
-/

namespace Scriptlet.Operator

/-- The value of an operator between two numbers. -/
def onNumbers (op : Operator) (a b : Float) : Value :=
  match op with
  | .add => .number (a + b)
  | .subtract => .number (a - b)
  | .multiply => .number (a * b)
  | .divide => .number (a / b)
  | .equal => .boolean (a == b)
  | .notEqual => .boolean (!(a == b))
  | .greater => .boolean (a > b)
  | .greaterEqual | .less | .lessEqual => .boolean (a < b)

/-- The value of an operator between two values. -/
def apply (op : Operator) (left right : Value) : Except Fault Value :=
  match op, left, right with
  | op, .number a, .number b => .ok (op.onNumbers a b)
  | .equal, .boolean a, .boolean b => .ok (.boolean (a == b))
  | .notEqual, .boolean a, .boolean b => .ok (.boolean (!(a == b)))
  | op, left, right => .error (.incompatible op left right)

/-- The value of the operator with the given symbol between two values. -/
def applySymbol (symbol : String) (left right : Value) : Except Fault Value :=
  match ofSymbol? symbol with
  | some op => op.apply left right
  | none => .error (.unknownOperator symbol)

end Scriptlet.Operator
