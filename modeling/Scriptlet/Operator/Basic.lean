/-!
# Binary operators

The ten operators between two operands, the symbols they are written with, and how tightly they
bind.
-/

namespace Scriptlet

/-- How tightly an operator binds, from the loosest to the tightest. -/
inductive Precedence where
  /-- Comparisons. -/
  | comparison
  /-- Sums and differences. -/
  | sum
  /-- Products and quotients. -/
  | product
  deriving DecidableEq, Repr

namespace Precedence

/-- The place of a precedence in the order from the loosest to the tightest. -/
def rank : Precedence → Nat
  | .comparison => 0
  | .sum => 1
  | .product => 2

instance : Ord Precedence where
  compare p q := compare p.rank q.rank

end Precedence

/-- The binary operators. -/
inductive Operator where
  /-- Sum. -/
  | add
  /-- Difference. -/
  | subtract
  /-- Product. -/
  | multiply
  /-- Quotient. -/
  | divide
  /-- Equality. -/
  | equal
  /-- Inequality. -/
  | notEqual
  /-- Greater. -/
  | greater
  /-- Written as greater or equal. -/
  | greaterEqual
  /-- Less. -/
  | less
  /-- Written as less or equal. -/
  | lessEqual
  deriving DecidableEq, Repr

namespace Operator

/-- All operators. -/
def all : List Operator :=
  [.add, .subtract, .multiply, .divide, .equal, .notEqual, .greater, .greaterEqual, .less,
   .lessEqual]

/-- The symbol that an operator is written with. -/
def symbol : Operator → String
  | .add => "+"
  | .subtract => "-"
  | .multiply => "*"
  | .divide => "/"
  | .equal => "=="
  | .notEqual => "!="
  | .greater => ">"
  | .greaterEqual => ">="
  | .less => "<"
  | .lessEqual => "<="

/-- The operator that is written with the symbol, if there is one. -/
def ofSymbol? (symbol : String) : Option Operator :=
  all.find? fun op => op.symbol = symbol

/-- Every operator is found by its symbol. -/
@[simp]
theorem ofSymbol?_symbol (op : Operator) : ofSymbol? op.symbol = some op := by
  cases op <;> decide

/-- Only its own symbol leads to an operator. -/
theorem symbol_of_ofSymbol?_eq_some {symbol : String} {op : Operator}
    (found : ofSymbol? symbol = some op) : op.symbol = symbol := by
  simpa using List.find?_some found

/-- How tightly an operator binds. -/
def precedence : Operator → Precedence
  | .add | .subtract => .sum
  | .multiply | .divide => .product
  | .equal | .notEqual | .greater | .greaterEqual | .less | .lessEqual => .comparison

end Operator

end Scriptlet
