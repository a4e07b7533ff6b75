import Scriptlet.Token.Rule

/-!
# Scanning a text for tokens

A scanner hands out the tokens of a text one after the other. At each place the first kind whose
rule accepts gives the token; where no rule accepts, the scanner reports the place and hands out
nothing more.
-/

namespace Scriptlet

/-- The place where no lexical rule accepts. -/
structure LexError where
  /-- The byte at which the refused text starts. -/
  position : Nat
  /-- The refused text up to the end of its line. -/
  snippet : String
  deriving DecidableEq, Repr

/-- The wording of a lexical error. -/
def LexError.message (e : LexError) : String :=
  "Bad string at byte " ++ toString e.position ++ ": `" ++ e.snippet ++ "`"

/-- The text up to its first line break; a carriage return right before the break belongs to the
break. -/
def Text.firstLine (text : List Char) : List Char :=
  let line := text.takeWhile (· ≠ '\n')
  if line.length < text.length ∧ line.getLast? = some '\r' then line.dropLast else line

/-- A scanner: where it stands, and whether it has reported an error. -/
structure Scanner where
  /-- The place of the next token. -/
  reader : Reader
  /-- Whether no rule accepted earlier. -/
  failed : Bool
  deriving DecidableEq, Repr

namespace Scanner

/-- The scanner at the start of a text. -/
def ofText (text : String) : Scanner :=
  ⟨Reader.ofText text, false⟩

/-- The token at the reader, by the first kind whose rule accepts. -/
def token? (r : Reader) : Option (Token × Reader) :=
  Token.Kind.byPriority.findSome? fun kind => kind.split? r

/-- The next token or the one error, and the scanner behind it; `none` at the end of the text and
after an error. -/
def next? (s : Scanner) : Option (Except LexError Token × Scanner) :=
  if s.failed || s.reader.atEnd then none
  else match token? s.reader with
    | some (token, reader) => some (.ok token, ⟨reader, false⟩)
    | none =>
      let snippet := String.ofList (Text.firstLine s.reader.rest)
      some (.error ⟨s.reader.offset, snippet⟩, ⟨s.reader, true⟩)

/-- Everything that a scanner hands out, and the scanner that has nothing more. -/
structure Yield where
  /-- The tokens in order. -/
  tokens : List Token
  /-- The error behind the last token, if there is one. -/
  failure : Option LexError
  /-- The scanner at the end. -/
  last : Scanner

/-- Asks the scanner until it has nothing more, at most `rounds` times. -/
def drainWithin : Nat → Scanner → Yield
  | 0, s => ⟨[], none, s⟩
  | rounds + 1, s =>
    match s.next? with
    | none => ⟨[], none, s⟩
    | some (.error e, next) => ⟨[], some e, next⟩
    | some (.ok token, next) =>
      let more := drainWithin rounds next
      { more with tokens := token :: more.tokens }

/-- Everything that a scanner hands out. A token takes at least one character, so one round for
every character and one for the error are enough. -/
def drain (s : Scanner) : Yield :=
  s.drainWithin (s.reader.rest.length + 1)

end Scanner

/-- The tokens of a text, layout included. -/
def tokenize (text : String) : Except LexError (List Token) :=
  let yield := (Scanner.ofText text).drain
  match yield.failure with
  | some e => .error e
  | none => .ok yield.tokens

end Scriptlet
