/-!
# How numbers are read

The text of a number is an optional sign and then either a name (`inf`, `infinity` or `nan`, in
any case) or digits with an optional point and an optional power of ten. A text of digits is
rounded once, to the nearest floating-point number.
-/

namespace Scriptlet.Number

/-- The number beyond every finite one. -/
def infinity : Float :=
  1.0 / 0.0

/-- The result that is no number. -/
def undefined : Float :=
  0.0 / 0.0

/-- The whole number that the decimal digits spell. -/
def ofDigits (digits : List Char) : Nat :=
  digits.foldl (fun n c => 10 * n + (c.toNat - '0'.toNat)) 0

/-- The floating-point number nearest to `coefficient · 10 ^ exponent`. Beyond `10 ^ 400` in
either direction the result is settled without computing the power. -/
def nearest (coefficient : Nat) (exponent : Int) : Float :=
  let leading := (Nat.toDigits 10 coefficient).length + exponent
  if coefficient = 0 then 0.0
  else if 400 < leading then infinity
  else if leading < -400 then 0.0
  else match exponent with
    | .ofNat zeros => Float.ofScientific coefficient false zeros
    | .negSucc places => Float.ofScientific coefficient true (places + 1)

/-- Reads one or more digits that fill the whole text. -/
def wholeDigits? (text : List Char) : Option Nat :=
  if text ≠ [] ∧ text.all Char.isDigit then some (ofDigits text) else none

/-- Reads what may follow the digits: nothing, or a letter `e` and a signed power of ten. -/
def power? : List Char → Option Int
  | [] => some 0
  | mark :: power =>
    if mark = 'e' ∨ mark = 'E' then
      match power with
      | '-' :: digits => (wholeDigits? digits).map fun n => -n
      | '+' :: digits => (wholeDigits? digits).map fun n => n
      | digits => (wholeDigits? digits).map fun n => n
    else none

/-- Splits the digits off a text: those before the point, those behind it, and what follows. -/
def splitDigits (text : List Char) : List Char × List Char × List Char :=
  let whole := text.takeWhile Char.isDigit
  match text.dropWhile Char.isDigit with
  | '.' :: rest => (whole, rest.takeWhile Char.isDigit, rest.dropWhile Char.isDigit)
  | rest => (whole, [], rest)

/-- Reads digits with an optional point and an optional power of ten; there is at least one
digit. -/
def decimal? (text : List Char) : Option Float :=
  let (whole, fraction, rest) := splitDigits text
  if whole = [] ∧ fraction = [] then none
  else (power? rest).map fun power =>
    nearest (ofDigits (whole ++ fraction)) (power - fraction.length)

/-- Reads a number by name. -/
def named? (text : List Char) : Option Float :=
  let name := String.ofList (text.map Char.toLower)
  if name = "inf" ∨ name = "infinity" then some infinity
  else if name = "nan" then some undefined
  else none

/-- Reads a number without a sign. -/
def unsigned? (text : List Char) : Option Float :=
  named? text <|> decimal? text

/-- Reads a number; `none` if the text is not the text of a number. -/
def read? (text : String) : Option Float :=
  match text.toList with
  | '-' :: rest => (unsigned? rest).map fun x => -x
  | '+' :: rest => unsigned? rest
  | rest => unsigned? rest

end Scriptlet.Number
