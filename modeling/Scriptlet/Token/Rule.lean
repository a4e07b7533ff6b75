import Scriptlet.Text.Blank
import Scriptlet.Text.Reader
import Scriptlet.Text.Word
import Scriptlet.Token.Basic

/-!
# Lexical rules

Every lexical kind has one rule. A rule looks at the text ahead of a reader and moves the reader
past the longest piece of text of its kind, or refuses. A rule knows nothing of the others: which
of them is asked first is the order `Token.Kind.byPriority`.
-/

namespace Scriptlet

/-- A rule moves a reader past one lexeme, or refuses. -/
abbrev Token.Rule := Reader → Option Reader

/-- What stands before the last occurrence of `mark` in the text, of those before which the
condition holds. -/
def Text.beforeLast? (mark : Char) (condition : List Char → Bool) (text : List Char) :
    Option (List Char) :=
  go text.reverse
where
  /-- Searches a text that is given back to front. -/
  go : List Char → Option (List Char)
    | [] => none
    | c :: before =>
      if c = mark ∧ condition before.reverse then some before.reverse else go before

namespace Token.Rule

/-- The symbols of two characters, which are preferred over those of one. -/
def pairs : List String :=
  ["==", "!=", "<=", ">="]

/-- The symbols of one character. -/
def singles : List Char :=
  ['<', '>', '.', ';', '=', '\x7b', '\x7d', ',', '+', '-', '*', '/', '!', '(', ')', ':', '[', ']',
   '|', '?']

/-- Two slashes and the rest of the line with its line break. Without a line break there is no
comment. -/
def comment : Token.Rule := fun r => do
  let body ← r.takeText? "//"
  (body.skipWhile (· ≠ '\n')).takeChar? '\n'

/-- Decimal digits. -/
def number : Token.Rule :=
  Reader.takeSome? Char.isDigit

/-- Blanks. -/
def whitespace : Token.Rule :=
  Reader.takeSome? Text.isBlank

/-- One symbol. -/
def punctuation : Token.Rule := fun r =>
  pairs.findSome? r.takeText? <|> singles.findSome? r.takeChar?

/-- Word characters. -/
def identifier : Token.Rule :=
  Reader.takeSome? Text.isWord

/-- A text between double quotes on one line, optionally after an at-sign. It ends at the last
quote of the line. -/
def string : Token.Rule := fun r => do
  let body ← ((r.takeChar? '@').getD r).takeChar? '"'
  let inner ← Text.beforeLast? '"' (fun _ => true) (body.rest.takeWhile (· ≠ '\n'))
  return body.advanceTo (body.offset + Text.byteLength inner + 1)

/-- The head of a counting loop, `for` and a parenthesis around at least two semicolons, over any
number of lines. It ends at the last closing parenthesis behind two semicolons. -/
def forClause : Token.Rule := fun r => do
  let keyword ← r.takeText? "for"
  let body ← (keyword.skipWhile (· = ' ')).takeChar? '('
  let inner ← Text.beforeLast? ')' (fun before => 2 ≤ before.count ';') body.rest
  return body.advanceTo (body.offset + Text.byteLength inner + 1)

end Token.Rule

namespace Token.Kind

/-- The rule of a kind. -/
def rule : Token.Kind → Token.Rule
  | .comment => Token.Rule.comment
  | .number => Token.Rule.number
  | .whitespace => Token.Rule.whitespace
  | .punctuation => Token.Rule.punctuation
  | .identifier => Token.Rule.identifier
  | .string => Token.Rule.string
  | .forClause => Token.Rule.forClause
  | .sentinel => fun _ => none

/-- The kinds in the order in which their rules are asked. -/
def byPriority : List Token.Kind :=
  [.comment, .number, .whitespace, .punctuation, .identifier, .string, .forClause]

/-- The text at the reader that the kind's rule takes, and the reader behind it. -/
def split? (kind : Token.Kind) (r : Reader) : Option (Token × Reader) :=
  (kind.rule r).map fun next => (⟨kind, String.ofList (r.textUntil next)⟩, next)

end Token.Kind

end Scriptlet
