import Scriptlet.Text.Hidden

/-!
# Quoted text

A text between double quotes in which everything that could be mistaken or overlooked is escaped.
It is how tokens are shown.
-/

namespace Scriptlet.Text

/-- The lower-case hexadecimal digits of a code point, without padding. -/
def codeDigits (c : Char) : String :=
  String.ofList (Nat.toDigits 16 c.toNat)

/-- One character as it stands inside double quotes: a short escape where there is one, its code
point if it is hidden, and otherwise itself. -/
def quoteChar : Char → String
  | '\x00' => "\\0"
  | '\t' => "\\t"
  | '\r' => "\\r"
  | '\n' => "\\n"
  | '\\' => "\\\\"
  | '"' => "\\\""
  | c => if isHidden c then "\\u\x7b" ++ codeDigits c ++ "\x7d" else c.toString

/-- The text between double quotes, every character written by `quoteChar`. -/
def quote (text : String) : String :=
  "\"" ++ text.toList.foldl (fun done c => done ++ quoteChar c) "" ++ "\""

end Scriptlet.Text
