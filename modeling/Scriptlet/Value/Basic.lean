import Scriptlet.Number.Text

/-!
# Values

What expressions evaluate to: numbers, booleans, the empty value and functions.
-/

namespace Scriptlet

/-- The functions that a session comes with. -/
inductive Builtin where
  /-- Writes its arguments. Two of them are the same function only if they have the same origin,
  which is the session that they were made for. -/
  | print (origin : Nat)
  deriving DecidableEq, Repr

namespace Builtin

/-- The name that a function is bound to and shown by. -/
def name : Builtin → String
  | .print _ => "print"

/-- A function as it is shown when it has to be told apart from its name. -/
def shown (f : Builtin) : String :=
  "<native-func " ++ f.name ++ ">"

end Builtin

/-- Values. -/
inductive Value where
  /-- A floating-point number. -/
  | number (x : Float)
  /-- A truth value. -/
  | boolean (b : Bool)
  /-- The empty value. -/
  | null
  /-- A function. -/
  | function (f : Builtin)
  deriving DecidableEq, Repr, Inhabited

namespace Value

/-- The text of a value. -/
def text : Value → String
  | .number x => Number.text x
  | .boolean true => "True"
  | .boolean false => "False"
  | .null => "nil"
  | .function f => f.name

/-- Whether two values are equal as the language compares them: numbers by their size, so that a
result that is no number differs from itself and zero has no sign. -/
def agrees : Value → Value → Bool
  | .number x, .number y => x == y
  | .boolean a, .boolean b => a = b
  | .null, .null => true
  | .function f, .function g => f = g
  | _, _ => false

end Value

end Scriptlet
