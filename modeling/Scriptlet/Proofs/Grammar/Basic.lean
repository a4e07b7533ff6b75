import Scriptlet.Proofs.Parser.Recursion

/-!
# The grammar

The grammar of programs as a type of derivations, without regard to how a parser finds them:

* `program = statement*`
* `statement = if ( expr ) { statement* } | while ( expr ) { statement* } | NAME = expr ; | expr ;`,
  where the last two do not start with a keyword
* `expr = sum (comparison sum)*`, `sum = product ((+ | -) product)*`,
  `product = primary ((* | /) primary)*`
* `primary = main args*`, `main = NUMBER | NAME | ( expr )`, `args = ( ) | ( (expr ,)+ )`

A `Phrase` derives a part of an expression and a `Sentence` statements. Their leaves are tokens, and
symbols and keywords are tokens with the right text, of whatever kind. `tokens` reads the leaves off
a derivation from left to right, and `value` is the tree it builds.
-/

namespace Scriptlet.Grammar
open Token (front?)

/-- A token with the given text, of whatever kind. -/
@[ext]
structure Terminal (text : String) where
  token : Token
  spelled : token.text = text

/-- The symbols between the operands of a level. -/
def symbols : Precedence → List String
  | .product => ["*", "/"]
  | .sum => ["+", "-"]
  | .comparison => ["==", "!=", "<=", ">=", "<", ">"]

/-- The categories of phrases. -/
inductive Category where
  | main
  -- the arguments of a list up to its closing parenthesis, each with a comma behind it
  | items
  | args
  | calls
  | primary
  -- the operands of a level, the operators with their right operands, and the level itself
  | operand (precedence : Precedence)
  | links (precedence : Precedence)
  | level (precedence : Precedence)

namespace Category

/-- Expressions are the loosest level. -/
abbrev expr : Category :=
  .level .comparison

/-- What a phrase of a category builds. -/
abbrev Meaning : Category → Type
  | .main | .primary | .operand _ | .level _ => Expr
  | .items => List Expr
  | .args => Option (List Expr)
  | .calls => List (Option (List Expr))
  | .links _ => List (String × Expr)

end Category

/-- The derivations of phrases. -/
inductive Phrase : Category → Type where
  | number (token : Token) (value : Float) (kind : token.kind = .number)
      (reads : Number.read? token.text = some value) : Phrase .main
  | name (token : Token) (kind : token.kind = .identifier) : Phrase .main
  | group (opening : Terminal "(") (inner : Phrase .expr) (closing : Terminal ")") : Phrase .main
  | close (closing : Terminal ")") : Phrase .items
  | item (argument : Phrase .expr) (comma : Terminal ",") (more : Phrase .items) : Phrase .items
  | noArgs (opening : Terminal "(") (closing : Terminal ")") : Phrase .args
  | args (opening : Terminal "(") (first : Phrase .expr) (comma : Terminal ",")
      (more : Phrase .items) : Phrase .args
  | noCalls : Phrase .calls
  | call (list : Phrase .args) (more : Phrase .calls) : Phrase .calls
  | primary (head : Phrase .main) (lists : Phrase .calls) : Phrase .primary
  -- the operands of a level are the phrases of the next tighter one
  | ofPrimary (phrase : Phrase .primary) : Phrase (.operand .product)
  | ofProduct (phrase : Phrase (.level .product)) : Phrase (.operand .sum)
  | ofSum (phrase : Phrase (.level .sum)) : Phrase (.operand .comparison)
  | noLinks {precedence : Precedence} : Phrase (.links precedence)
  | link {precedence : Precedence} (op : Token) (symbol : op.text ∈ symbols precedence)
      (right : Phrase (.operand precedence)) (more : Phrase (.links precedence)) :
      Phrase (.links precedence)
  | level {precedence : Precedence} (first : Phrase (.operand precedence))
      (more : Phrase (.links precedence)) : Phrase (.level precedence)

/-- The symbol at a node of a chain: that before its right operand, but for comparisons the first
symbol of the chain. -/
def label (links : List (String × Expr)) (symbol : String) : Precedence → String
  | .comparison => (links.head?.map Prod.fst).getD symbol
  | _ => symbol

/-- Joins a chain from the left. -/
def fold (precedence : Precedence) (first : Expr) (links : List (String × Expr)) : Expr :=
  links.foldl (fun left link => .binary (label links link.1 precedence) left link.2) first

namespace Phrase

/-- The tokens of a phrase from left to right. -/
def tokens : {category : Category} → Phrase category → List Token
  | _, .number token _ _ _ => [token]
  | _, .name token _ => [token]
  | _, .group opening inner closing => opening.token :: (inner.tokens ++ [closing.token])
  | _, .close closing => [closing.token]
  | _, .item argument comma more => argument.tokens ++ comma.token :: more.tokens
  | _, .noArgs opening closing => [opening.token, closing.token]
  | _, .args opening first comma more =>
    opening.token :: (first.tokens ++ comma.token :: more.tokens)
  | _, .noCalls => []
  | _, .call list more => list.tokens ++ more.tokens
  | _, .primary head lists => head.tokens ++ lists.tokens
  | _, .ofPrimary phrase => phrase.tokens
  | _, .ofProduct phrase => phrase.tokens
  | _, .ofSum phrase => phrase.tokens
  | _, .noLinks => []
  | _, .link op _ right more => op :: (right.tokens ++ more.tokens)
  | _, .level first more => first.tokens ++ more.tokens

/-- What a phrase builds. -/
def value : {category : Category} → Phrase category → category.Meaning
  | _, .number _ value _ _ => .number value
  | _, .name token _ => .variable token.text
  | _, .group _ inner _ => .group inner.value
  | _, .close _ => []
  | _, .item argument _ more => argument.value :: more.value
  | _, .noArgs _ _ => none
  | _, .args _ first _ more => some (first.value :: more.value)
  | _, .noCalls => []
  | _, .call list more => list.value :: more.value
  | _, .primary head lists => lists.value.foldl .invoke head.value
  | _, .ofPrimary phrase => phrase.value
  | _, .ofProduct phrase => phrase.value
  | _, .ofSum phrase => phrase.value
  | _, .noLinks => []
  | _, .link op _ right more => (op.text, right.value) :: more.value
  | _, @level precedence first more => fold precedence first.value more.value

end Phrase

/-- The keywords. -/
inductive Keyword where
  | ifThen
  | whileDo
  deriving DecidableEq

namespace Keyword

/-- How a keyword is written. -/
def text : Keyword → String
  | .ifThen => "if"
  | .whileDo => "while"

/-- The statement that a keyword makes of a condition and a block. -/
def build : Keyword → Expr → List Stmt → Stmt
  | .ifThen => .ifThen
  | .whileDo => .whileDo

end Keyword

/-- Whether one statement is derived or a row of them. -/
inductive Extent where
  | one
  | row

/-- What a sentence builds. -/
abbrev Extent.Meaning : Extent → Type
  | .one => Stmt
  | .row => List Stmt

/-- The derivations of statements. Assignments and expressions do not start with a keyword. -/
inductive Sentence : Extent → Type where
  | clause (keyword : Keyword) (word : Terminal keyword.text) (opening : Terminal "(")
      (condition : Phrase .expr) (closing : Terminal ")") (brace : Terminal "\x7b")
      (body : Sentence .row) (unbrace : Terminal "\x7d") : Sentence .one
  | assignment (target : Token) (kind : target.kind = .identifier)
      (noKeyword : ∀ keyword : Keyword, target.text ≠ keyword.text) (sign : Terminal "=")
      (source : Phrase .expr) (semicolon : Terminal ";") : Sentence .one
  | effect (action : Phrase .expr)
      (noKeyword : ∀ keyword : Keyword, front? action.tokens ≠ some keyword.text)
      (semicolon : Terminal ";") : Sentence .one
  | none : Sentence .row
  | more (first : Sentence .one) (others : Sentence .row) : Sentence .row

namespace Sentence

/-- The tokens of a sentence from left to right. -/
def tokens : {extent : Extent} → Sentence extent → List Token
  | _, .clause _ word opening condition closing brace body unbrace =>
    word.token :: opening.token ::
      (condition.tokens ++ closing.token :: brace.token :: (body.tokens ++ [unbrace.token]))
  | _, .assignment target _ _ sign source semicolon =>
    target :: sign.token :: (source.tokens ++ [semicolon.token])
  | _, .effect action _ semicolon => action.tokens ++ [semicolon.token]
  | _, .none => []
  | _, .more first others => first.tokens ++ others.tokens

/-- What a sentence builds. -/
def value : {extent : Extent} → Sentence extent → extent.Meaning
  | _, .clause keyword _ _ condition _ _ body _ => keyword.build condition.value body.value
  | _, .assignment target _ _ _ source _ => .assign (.variable target.text) (some source.value)
  | _, .effect action _ _ => .expr action.value
  | _, .none => []
  | _, .more first others => first.value :: others.value

end Sentence

/-- A derivation of a program. -/
abbrev Derivation :=
  Sentence .row

end Scriptlet.Grammar
