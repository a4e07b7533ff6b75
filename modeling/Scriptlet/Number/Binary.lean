/-!
# Floating-point numbers taken apart

A finite floating-point number is a whole number scaled by a power of two, with a sign. This
module reads the parts off the number's bits.
-/

namespace Scriptlet

/-- The magnitude `mantissa · 2 ^ exponent` of a finite floating-point number. -/
structure Binary where
  /-- The significant bits, read as one whole number. -/
  mantissa : Nat
  /-- The place of the last significant bit. -/
  exponent : Int
  /-- The neighbour below is half as far away as the one above. -/
  narrow : Bool
  deriving DecidableEq, Repr

/-- What a floating-point number stands for. -/
inductive Magnitude where
  /-- No number at all. -/
  | undefined
  /-- Beyond every finite number. -/
  | infinite (negative : Bool)
  /-- A finite number; the sign of zero counts. -/
  | finite (negative : Bool) (size : Binary)
  deriving DecidableEq, Repr

/-- Reads sign, exponent and fraction off the 64 bits of a number. -/
def Magnitude.ofFloat (x : Float) : Magnitude :=
  let bits := x.toBits.toNat
  let negative : Bool := bits / 0x8000000000000000 = 1
  let exponent : Nat := bits / 0x10000000000000 % 0x800
  let fraction : Nat := bits % 0x10000000000000
  if exponent = 2047 then
    if fraction = 0 then .infinite negative else .undefined
  else if exponent = 0 then
    .finite negative ⟨fraction, -1074, false⟩
  else
    .finite negative ⟨0x10000000000000 + fraction, exponent - 1075, fraction = 0 && 1 < exponent⟩

end Scriptlet
