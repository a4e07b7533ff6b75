import Scriptlet.Parser.Basic
import Scriptlet.Token.Scanner
import Scriptlet.Value.Fault

/-!
# Errors

Everything that can go wrong with a source text, from its letters to its run, under one name of a
kind.
-/

namespace Scriptlet

/-- The kinds of errors. -/
inductive Error.Kind where
  /-- The text is not made of tokens. -/
  | lex
  /-- The tokens are no program. -/
  | parse
  /-- A name is not bound, or not to what is needed. -/
  | name
  /-- A value is not of the kind that is needed. -/
  | type
  /-- The program is none that a text can lead to. -/
  | internal
  /-- The output is refused. -/
  | output
  deriving DecidableEq, Repr

/-- The name under which a kind of error is shown. -/
def Error.Kind.label : Error.Kind → String
  | .lex => "LexError"
  | .parse => "ParseError"
  | .name => "NameError"
  | .type => "TypeError"
  | .internal => "InternalError"
  | .output => "OutputError"

/-- The kind of a fault. -/
def Fault.kind : Fault → Error.Kind
  | .undefinedVariable _ | .unknownFunction _ | .notCallable _ => .name
  | .incompatible _ _ _ | .nonBoolean _ | .illegalNegation _ => .type
  | .unknownOperator _ | .invalidTarget _ => .internal
  | .output _ => .output

/-- Why a source text does not run to its end. -/
inductive Error where
  /-- The text is not made of tokens. -/
  | lex (cause : LexError)
  /-- The tokens are no program. -/
  | parse (cause : ParseError)
  /-- The program stops. -/
  | fault (cause : Fault)
  deriving Repr

namespace Error

/-- The kind of an error. -/
def kind : Error → Error.Kind
  | .lex _ => .lex
  | .parse _ => .parse
  | .fault cause => cause.kind

/-- The wording of what went wrong. -/
def detail : Error → String
  | .lex cause => cause.message
  | .parse cause => cause.message
  | .fault cause => cause.message

/-- The wording of an error with its kind before it. -/
def message (e : Error) : String :=
  e.kind.label ++ ": " ++ e.detail

end Error

end Scriptlet
