import Scriptlet.Error
import Scriptlet.Parser.Program

/-!
# From source text to programs
-/

namespace Scriptlet

/-- The tokens of a source text that the grammar sees. -/
def sourceTokens (source : String) : Except Error (List Token) :=
  match tokenize source with
  | .ok tokens => .ok (Token.withoutLayout tokens)
  | .error cause => .error (.lex cause)

/-- The program that a source text spells. -/
def Program.ofSource (source : String) : Except Error Program := do
  let tokens ← sourceTokens source
  match Program.ofTokens tokens with
  | .ok program => .ok program
  | .error cause => .error (.parse cause)

end Scriptlet
