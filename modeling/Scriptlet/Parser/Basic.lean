import Scriptlet.Operator.Basic
import Scriptlet.Token.Basic

/-!
# Parsers over tokens

A parser turns the front of a token list into a value or says why it cannot; in either case it
tells which tokens are left, and a token that a parser complains about is always among them.
Parsers look at one token at a time and go by its text.
-/

namespace Scriptlet

/-- What a parser meets where it expects something else. -/
inductive Found where
  /-- A token with this text. -/
  | token (text : String)
  /-- No token at all. -/
  | endOfInput
  deriving DecidableEq, Repr

namespace Found

/-- What stands at the front of a token list. -/
def ofTokens : List Token → Found
  | [] => .endOfInput
  | next :: _ => .token next.text

/-- The wording for what was met. -/
def description : Found → String
  | .token text => "`" ++ text ++ "`"
  | .endOfInput => "end of input"

end Found

/-- Why a token list is no program. -/
inductive ParseError where
  /-- A certain symbol has to follow. -/
  | expectedSymbol (symbol : String) (found : Found)
  /-- A number, a name or an opening parenthesis has to follow. -/
  | expectedPrimary (found : Found)
  /-- The parenthesis around an expression has to be closed. -/
  | expectedClosing (found : Found)
  /-- The tokens end inside a block. -/
  | expectedBlockEnd
  /-- Only a variable can be assigned to. -/
  | expectedVariable
  /-- An expression is followed by something that no statement goes on with. -/
  | unresolved (found : Found)
  deriving DecidableEq, Repr

/-- The wording of a parse error. -/
def ParseError.message : ParseError → String
  | .expectedSymbol symbol found =>
    "Expected `" ++ symbol ++ "`, but instead got " ++ found.description ++ "."
  | .expectedPrimary found => "Expected primary token, but instead got " ++ found.description ++ "."
  | .expectedClosing found =>
    "Expected closing parenthesis, but instead got " ++ found.description ++ "."
  | .expectedBlockEnd => "Expected end of block, but reached end of input."
  | .expectedVariable => "Left side of assignment must be a variable."
  | .unresolved found => "Unresolved statement at " ++ found.description ++ "."

/-- The result of a parser, with the tokens that are left. -/
inductive Parsed (α : Type) where
  /-- A value was read. -/
  | ok (value : α) (rest : List Token)
  /-- The tokens do not fit. -/
  | error (cause : ParseError) (rest : List Token)
  deriving Repr

namespace Parsed

variable {α : Type}

/-- The tokens that are left. -/
def rest : Parsed α → List Token
  | .ok _ rest => rest
  | .error _ rest => rest

/-- The value or the error, without the tokens that are left. -/
def toExcept : Parsed α → Except ParseError α
  | .ok value _ => .ok value
  | .error cause _ => .error cause

end Parsed

/-- A parser for values of type `α`. -/
def Parser (α : Type) := List Token → Parsed α

namespace Parser

variable {α β : Type}

/-- Reads nothing. -/
protected def pure (value : α) : Parser α := fun tokens =>
  .ok value tokens

/-- One parser after the other; the first error ends the reading. -/
protected def bind (first : Parser α) (next : α → Parser β) : Parser β := fun tokens =>
  match first tokens with
  | .ok value rest => next value rest
  | .error cause rest => .error cause rest

instance : Monad Parser where
  pure := Parser.pure
  bind := Parser.bind

/-- A constant parser leaves all tokens. -/
@[simp]
theorem pure_apply (value : α) (tokens : List Token) :
    (pure value : Parser α) tokens = .ok value tokens :=
  rfl

/-- The second parser goes on from where the first one has read its value. -/
@[simp]
theorem bind_apply (first : Parser α) (next : α → Parser β) (tokens : List Token) :
    (first >>= next) tokens =
      match first tokens with
      | .ok value rest => next value rest
      | .error cause rest => .error cause rest :=
  rfl

/-- Complains about what stands at the front. -/
def fail (cause : Found → ParseError) : Parser α := fun tokens =>
  .error (cause (Found.ofTokens tokens)) tokens

/-- Whether no token is left. -/
def atEnd : Parser Bool := fun tokens =>
  .ok tokens.isEmpty tokens

/-- Whether the next token has the given text. -/
def sees (text : String) : Parser Bool := fun tokens =>
  .ok (tokens.head?.any (·.is text)) tokens

/-- Drops the next token. -/
def advance : Parser Unit := fun tokens =>
  .ok () tokens.tail

/-- Drops the next token if it has the given text, and tells whether it had. -/
def accept (text : String) : Parser Bool := do
  if ← sees text then
    advance
    return true
  else
    return false

/-- The next token is dropped exactly if it has the text. -/
theorem accept_cons (text : String) (next : Token) (rest : List Token) :
    accept text (next :: rest) =
      if next.text = text then .ok true rest else .ok false (next :: rest) := by
  by_cases same : next.text = text <;>
    simp [accept, sees, advance, Token.is, same]

/-- At the end there is nothing to accept. -/
@[simp]
theorem accept_nil (text : String) : accept text [] = .ok false [] :=
  rfl

/-- Drops the next token, which has to have the given text. -/
def expect (text : String) : Parser Unit := do
  if ← accept text then return ()
  else fail (.expectedSymbol text)

/-- Drops the next token if it is an operator of the given precedence. -/
def operator? (precedence : Precedence) : Parser (Option Operator) := fun tokens =>
  match tokens.head?.bind fun token => Operator.ofSymbol? token.text with
  | some op => if op.precedence = precedence then .ok (some op) tokens.tail else .ok none tokens
  | none => .ok none tokens

/-- Repeats a step until it yields nothing, and collects what it yields. The first list bounds the
number of repetitions. -/
def manyWithin (step : Parser (Option α)) : List Token → Parser (List α)
  | [] => do
    match ← step with
    | none => return []
    | some item => return [item]
  | _ :: bound => do
    match ← step with
    | none => return []
    | some item => return item :: (← manyWithin step bound)

/-- Repeats a step until it yields nothing, and collects what it yields. A step that yields
something takes at least one token, so the tokens themselves bound the number of repetitions. -/
def many (step : Parser (Option α)) : Parser (List α) := fun tokens =>
  manyWithin step tokens tokens

end Parser

end Scriptlet
