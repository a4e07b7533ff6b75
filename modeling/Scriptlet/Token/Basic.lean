import Scriptlet.Text.Quoted

/-!
# Tokens

A token is a piece of source text together with the lexical kind it was recognised as. The grammar
looks at the text of a token; the kind only tells numbers and names from everything else.
-/

namespace Scriptlet

/-- The lexical kinds. -/
inductive Token.Kind where
  /-- Layout between the other tokens. -/
  | whitespace
  /-- Operators, brackets and separators. -/
  | punctuation
  /-- Names and keywords. -/
  | identifier
  /-- Unsigned whole numbers. -/
  | number
  /-- A remark up to the end of its line. -/
  | comment
  /-- A text between double quotes. -/
  | string
  /-- The whole head of a counting loop, taken as one token. -/
  | forClause
  /-- No kind at all; no text is recognised as it. -/
  | sentinel
  deriving DecidableEq, Repr

/-- The name under which a kind is shown. -/
def Token.Kind.name : Token.Kind → String
  | .whitespace => "Whitespace"
  | .punctuation => "Punctuation"
  | .identifier => "Identifier"
  | .number => "Number"
  | .comment => "Comment"
  | .string => "String"
  | .forClause => "ForCycle"
  | .sentinel => "None"

/-- A piece of source text and its lexical kind. -/
structure Token where
  /-- What the text was recognised as. -/
  kind : Token.Kind
  /-- The text itself. -/
  text : String
  deriving DecidableEq, Repr

namespace Token

/-- Whether the token has the given text, whatever its kind. -/
def is (token : Token) (text : String) : Bool :=
  token.text = text

/-- Whether the token is layout, which the grammar never sees. -/
def isLayout (token : Token) : Bool :=
  token.kind = .whitespace

/-- The tokens without layout. Comments stay. -/
def withoutLayout (tokens : List Token) : List Token :=
  tokens.filter fun token => !token.isLayout

/-- A token as it is shown: its kind and its quoted text. -/
def shown (token : Token) : String :=
  "<" ++ token.kind.name ++ " " ++ Text.quote token.text ++ ">"

end Token

end Scriptlet
