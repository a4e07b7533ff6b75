import Scriptlet.Number.Shortest

/-!
# How numbers are written

A finite number is written as its shortest decimal, always in positional form and without a point
when it is whole. The sign of zero shows; a result that is no number has no sign.
-/

namespace Scriptlet.Number

/-- The text of a finite magnitude. -/
def sizeText (b : Binary) : List Char :=
  if b.mantissa = 0 then ['0'] else b.shortest.positional

/-- The text of what a number stands for. -/
def magnitudeText : Magnitude → List Char
  | .undefined => ['N', 'a', 'N']
  | .infinite negative => signed negative ['i', 'n', 'f']
  | .finite negative size => signed negative (sizeText size)
where
  /-- Puts a minus sign before the text of a negative number. -/
  signed (negative : Bool) (text : List Char) : List Char :=
    if negative then '-' :: text else text

/-- The text of a number. -/
def text (x : Float) : String :=
  String.ofList (magnitudeText (Magnitude.ofFloat x))

end Scriptlet.Number
