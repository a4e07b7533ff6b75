/-!
# Decimals and their positional text

A decimal is a coefficient scaled by a power of ten. Its positional text writes every place
between the leading digit and the unit, and never a power.
-/

namespace Scriptlet

/-- The number `coefficient · 10 ^ exponent`. -/
structure Decimal where
  /-- The digits, read as one whole number. -/
  coefficient : Nat
  /-- The place of the last digit. -/
  exponent : Int
  deriving DecidableEq, Repr

namespace Decimal

/-- The given digits with the last `places` of them behind a point, filled up with zeros where the
digits do not reach the unit. -/
def pointed (digits : List Char) (places : Nat) : List Char :=
  if places < digits.length then
    digits.take (digits.length - places) ++ '.' :: digits.drop (digits.length - places)
  else
    '0' :: '.' :: List.replicate (places - digits.length) '0' ++ digits

/-- The digits of a decimal in positional form: zeros up to the unit if the last digit stands
above it, a point if it stands below. -/
def positional (d : Decimal) : List Char :=
  match d.exponent with
  | .ofNat zeros => Nat.toDigits 10 d.coefficient ++ List.replicate zeros '0'
  | .negSucc places => pointed (Nat.toDigits 10 d.coefficient) (places + 1)

end Decimal

end Scriptlet
