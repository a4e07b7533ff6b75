import Scriptlet.Number.Binary
import Scriptlet.Number.Decimal

/-!
# The shortest decimal of a binary number

Of the decimals that lie closer to a floating-point number than to any other, the shortest is the
one with the fewest digits, and among those of equal length the nearest. It is found by trying one
digit after the other: for each number of digits only the two grid points next to the number can
qualify. All comparisons are between whole numbers.
-/

namespace Scriptlet

namespace Binary

/-- How much one step of the decimal grid `10 ^ place` weighs against `unitWeight`. -/
def stepWeight (b : Binary) (place : Int) : Nat :=
  Nat.pow 10 place.toNat * Nat.pow 2 (2 - b.exponent).toNat

/-- How much a quarter of the number's last bit weighs against `stepWeight`. -/
def unitWeight (b : Binary) (place : Int) : Nat :=
  Nat.pow 2 (b.exponent - 2).toNat * Nat.pow 10 (-place).toNat

/-- The number in quarters of its last bit, on the common scale of the grid at `place`. -/
def weight (b : Binary) (place : Int) : Nat :=
  4 * b.mantissa * b.unitWeight place

/-- Whether the number is smaller than `10 ^ place`. -/
def isBelowPower (b : Binary) (place : Int) : Bool :=
  b.weight place < b.stepWeight place

/-- The least power of ten that exceeds the number, estimated from its leading bit and then
checked. -/
def ceilingPower (b : Binary) : Int :=
  let estimate := (Nat.log2 b.mantissa + b.exponent) * 30103 / 100000
  if b.isBelowPower estimate then estimate
  else if b.isBelowPower (estimate + 1) then estimate + 1
  else estimate + 2

/-- Whether `steps` steps of the grid at `place` make a decimal that is read back as the number:
it lies between the two midpoints to the neighbours, which themselves belong to an even
mantissa. -/
def isReadBack (b : Binary) (place : Int) (steps : Nat) : Bool :=
  let here := steps * b.stepWeight place
  let low := (4 * b.mantissa - (if b.narrow then 1 else 2)) * b.unitWeight place
  let high := (4 * b.mantissa + 2) * b.unitWeight place
  if b.mantissa % 2 = 0 then low ≤ here && here ≤ high else low < here && here < high

/-- The nearer of the number's two neighbours on the grid at `place` among those that are read
back; halfway between them the upper one counts as nearer. -/
def nearestOnGrid? (b : Binary) (place : Int) : Option Nat :=
  let step := b.stepWeight place
  let below := b.weight place / step
  let lowerGap := b.weight place - below * step
  let upperGap := (below + 1) * step - b.weight place
  match b.isReadBack place below, b.isReadBack place (below + 1) with
  | true, true => some (if lowerGap < upperGap then below else below + 1)
  | true, false => some below
  | false, true => some (below + 1)
  | false, false => none

/-- The decimal with the given number of digits that is read back as the number, if there is
one. -/
def decimalOfLength? (b : Binary) (length : Nat) : Option Decimal :=
  let place := b.ceilingPower - length
  (b.nearestOnGrid? place).map fun steps =>
    if steps = Nat.pow 10 length then ⟨1, b.ceilingPower⟩ else ⟨steps, place⟩

/-- The shortest decimal that is read back as the number. Seventeen digits are always enough. -/
def shortest (b : Binary) : Decimal :=
  ((List.range 17).findSome? fun n => b.decimalOfLength? (n + 1)).getD ⟨0, 0⟩

end Binary

end Scriptlet
