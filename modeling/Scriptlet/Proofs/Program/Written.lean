import Scriptlet.Proofs.Program.WellFormed

/-!
# Writing programs down

The tokens that a program is written with, and the texts in which these tokens stand with blanks
between them. Well-formed expressions and statements are what their tokens derive
(`Expr.WellFormed.derived`, `Stmt.WellFormed.exists_sentence`), and a text in which tokens stand
apart is cut into them again (`Token.LaidOut.lexes`). So reading a well-formed program that was
written down gives it back.
-/

namespace Scriptlet
open Grammar Scanner
open Token (front?)

/-! ## The tokens of a program -/

/-- A symbol. -/
def Token.symbol (text : String) : Token :=
  ⟨.punctuation, text⟩

/-- A name or a keyword. -/
def Token.word (text : String) : Token :=
  ⟨.identifier, text⟩

section Writing

-- how numbers are written
variable (numeral : Float → String)

open Token (symbol word)

mutual

/-- The tokens of an expression. -/
def Expr.tokens : Expr → List Token
  | .number x => [⟨.number, numeral x⟩]
  | .variable name => [word name]
  | .binary op left right => left.tokens ++ symbol op :: right.tokens
  | .unfinished op left => left.tokens ++ [symbol op]
  | .group inner => symbol "(" :: (inner.tokens ++ [symbol ")"])
  | .invoke callee none => callee.tokens ++ [symbol "(", symbol ")"]
  | .invoke callee (some arguments) =>
    callee.tokens ++ symbol "(" :: (Expr.argumentTokens arguments ++ [symbol ")"])
  | .negate inner => symbol "-" :: inner.tokens

/-- The tokens of arguments, each with a comma behind it. -/
def Expr.argumentTokens : List Expr → List Token
  | [] => []
  | e :: more => e.tokens ++ symbol "," :: Expr.argumentTokens more

end

mutual

/-- The tokens of a statement. -/
def Stmt.tokens : Stmt → List Token
  | .ifThen condition body =>
    word "if" :: symbol "(" :: (condition.tokens numeral ++ symbol ")" :: symbol "\x7b" ::
      (Stmt.blockTokens body ++ [symbol "\x7d"]))
  | .whileDo condition body =>
    word "while" :: symbol "(" :: (condition.tokens numeral ++ symbol ")" :: symbol "\x7b" ::
      (Stmt.blockTokens body ++ [symbol "\x7d"]))
  | .assign target (some value) =>
    target.tokens numeral ++ symbol "=" :: (value.tokens numeral ++ [symbol ";"])
  | .assign target none => target.tokens numeral ++ [symbol "=", symbol ";"]
  | .expr e => e.tokens numeral ++ [symbol ";"]

/-- The tokens of statements one after the other. -/
def Stmt.blockTokens : List Stmt → List Token
  | [] => []
  | stmt :: more => stmt.tokens ++ Stmt.blockTokens more

end

/-- The tokens of a program. -/
def Program.tokens (program : Program) : List Token :=
  Stmt.blockTokens numeral program

/-- The text of a program: its tokens with a space between any two. -/
def Program.text (program : Program) : String :=
  String.intercalate " " ((program.tokens numeral).map Token.text)

end Writing

/-- Every number that some digits are read as is written with such digits. -/
def Number.Spells (numeral : Float → String) : Prop :=
  ∀ x, Number.IsLiteral x → Text.IsNumeral (numeral x) ∧ Number.read? (numeral x) = some x

/-- Every number that digits are read as can be written with digits. -/
lemma Number.exists_spells : ∃ numeral, Number.Spells numeral := by
  have each : ∀ x, ∃ digits, Number.IsLiteral x →
      Text.IsNumeral digits ∧ Number.read? digits = some x := by
    intro x
    by_cases literal : Number.IsLiteral x
    · obtain ⟨digits, spelled⟩ := literal
      exact ⟨digits, fun _ => spelled⟩
    · exact ⟨"", fun other => absurd other literal⟩
  choose numeral spells using each
  exact ⟨numeral, spells⟩

/-! ## Derivations of well-formed programs -/

namespace Grammar

/-- There is a phrase of the category with these tokens that builds the value. -/
def Derives (category : Category) (tokens : List Token) (value : category.Meaning) : Prop :=
  ∃ phrase : Phrase category, phrase.tokens = tokens ∧ phrase.value = value

/-- One more argument list behind some others. -/
lemma exists_snoc_call : ∀ (lists : Phrase .calls) (list : Phrase .args),
    ∃ more : Phrase .calls, more.tokens = lists.tokens ++ list.tokens ∧
      more.value = lists.value ++ [list.value]
  | .noCalls, list => ⟨.call list .noCalls, by simp [Phrase.tokens], rfl⟩
  | .call first others, list => by
    obtain ⟨more, taken, built⟩ := exists_snoc_call others list
    refine ⟨.call first more, ?_, ?_⟩
    · simp [Phrase.tokens, taken]
    · simp [Phrase.value, built]

/-- One more operator with its operand behind some others. -/
lemma exists_snoc_link {precedence : Precedence} {op : Token} (among : op.text ∈ symbols precedence)
    (right : Phrase (.operand precedence)) : ∀ links : Phrase (.links precedence),
    ∃ more : Phrase (.links precedence), more.tokens = links.tokens ++ op :: right.tokens ∧
      more.value = links.value ++ [(op.text, right.value)]
  | .noLinks => ⟨.link op among right .noLinks, by simp [Phrase.tokens], rfl⟩
  | .link other symbol first links => by
    obtain ⟨more, taken, built⟩ := exists_snoc_link among right links
    refine ⟨.link other symbol first more, ?_, ?_⟩
    · simp [Phrase.tokens, taken]
    · simp [Phrase.value, built]

/-- A chain of products or sums gets longer at its end. -/
lemma Derives.longer {precedence : Precedence} (own : precedence ≠ .comparison) {op : Token}
    {first second : List Token} {left right : Expr} (among : op.text ∈ symbols precedence)
    (head : Derives (.level precedence) first left)
    (last : Derives (.operand precedence) second right) :
    Derives (.level precedence) (first ++ op :: second) (.binary op.text left right) := by
  obtain ⟨phrase, rfl, rfl⟩ := head
  obtain ⟨operand, rfl, rfl⟩ := last
  cases phrase with
  | level start links =>
    obtain ⟨more, taken, built⟩ := exists_snoc_link among operand links
    refine ⟨.level start more, ?_, ?_⟩
    · simp [Phrase.tokens, taken]
    · cases precedence with
      | comparison => exact absurd rfl own
      | sum | product => simp [Phrase.value, built, fold, label]

/-- A level without operators is its only operand. -/
lemma Derives.level {precedence : Precedence} {tokens : List Token} {value : Expr}
    (operand : Derives (.operand precedence) tokens value) :
    Derives (.level precedence) tokens value := by
  obtain ⟨phrase, rfl, rfl⟩ := operand
  exact ⟨.level phrase .noLinks, by simp [Phrase.tokens], rfl⟩

/-- A primary expression is an operand of products. -/
lemma Derives.ofPrimary {tokens : List Token} {value : Expr}
    (primary : Derives .primary tokens value) : Derives (.operand .product) tokens value := by
  obtain ⟨phrase, rfl, rfl⟩ := primary
  exact ⟨.ofPrimary phrase, rfl, rfl⟩

/-- A product is an operand of sums. -/
lemma Derives.ofProduct {tokens : List Token} {value : Expr}
    (product : Derives (.level .product) tokens value) :
    Derives (.operand .sum) tokens value := by
  obtain ⟨phrase, rfl, rfl⟩ := product
  exact ⟨.ofProduct phrase, rfl, rfl⟩

/-- A sum is an operand of comparisons. -/
lemma Derives.ofSum {tokens : List Token} {value : Expr}
    (sum : Derives (.level .sum) tokens value) : Derives (.operand .comparison) tokens value := by
  obtain ⟨phrase, rfl, rfl⟩ := sum
  exact ⟨.ofSum phrase, rfl, rfl⟩

/-- There is a chain of comparisons with these tokens that builds the value and starts with the
symbol. -/
def DerivesChain (symbol : String) (tokens : List Token) (value : Expr) : Prop :=
  ∃ (first : Phrase (.operand .comparison)) (links : Phrase (.links .comparison)),
    (Phrase.level first links).tokens = tokens ∧ (Phrase.level first links).value = value ∧
      links.value.head?.map Prod.fst = some symbol

/-- Two sums with a comparison between them start a chain. -/
lemma DerivesChain.start {op : Token} {first second : List Token} {left right : Expr}
    (among : op.text ∈ symbols .comparison) (head : Derives (.operand .comparison) first left)
    (last : Derives (.operand .comparison) second right) :
    DerivesChain op.text (first ++ op :: second) (.binary op.text left right) := by
  obtain ⟨start, rfl, rfl⟩ := head
  obtain ⟨operand, rfl, rfl⟩ := last
  exact ⟨start, .link op among operand .noLinks, by simp [Phrase.tokens], rfl, rfl⟩

/-- A chain goes on with the same comparison and one more sum. -/
lemma DerivesChain.longer {op : Token} {first second : List Token} {left right : Expr}
    (among : op.text ∈ symbols .comparison) (head : DerivesChain op.text first left)
    (last : Derives (.operand .comparison) second right) :
    DerivesChain op.text (first ++ op :: second) (.binary op.text left right) := by
  obtain ⟨start, links, rfl, rfl, leads⟩ := head
  obtain ⟨operand, rfl, rfl⟩ := last
  obtain ⟨more, taken, built⟩ := exists_snoc_link among operand links
  obtain ⟨link, front, same⟩ := Option.map_eq_some_iff.1 leads
  refine ⟨start, more, ?_, ?_, ?_⟩
  · simp [Phrase.tokens, taken]
  · simp [Phrase.value, built, fold, label, front, same]
  · simp [built, front, same]

/-- What the expressions of a rank are derived as. -/
def Derived (numeral : Float → String) : Expr.Rank → Expr → Prop
  | .primary, e => Derives .primary (e.tokens numeral) e
  | .product, e => Derives (.level .product) (e.tokens numeral) e
  | .sum, e => Derives (.level .sum) (e.tokens numeral) e
  | .chain symbol, e => DerivesChain symbol (e.tokens numeral) e
  | .expression, e => Derives .expr (e.tokens numeral) e

/-- Arguments are derived up to their closing parenthesis if each of them is. -/
lemma derives_items {numeral : Float → String} {list : List Expr}
    (each : ∀ e ∈ list, Derived numeral .expression e) (closing : Terminal ")") :
    Derives .items (Expr.argumentTokens numeral list ++ [closing.token]) list := by
  induction list with
  | nil => exact ⟨.close closing, by simp [Phrase.tokens, Expr.argumentTokens], rfl⟩
  | cons e list ih =>
    obtain ⟨⟨argument, taken, built⟩, others⟩ := List.forall_mem_cons.1 each
    obtain ⟨more, taken', built'⟩ := ih others
    refine ⟨.item argument ⟨.symbol ",", rfl⟩ more, ?_, ?_⟩
    · simp [Phrase.tokens, Expr.argumentTokens, taken, taken']
    · simp [Phrase.value, built, built']

/-- A callee with one more argument list is a primary. -/
lemma Derives.call {first second : List Token} {callee : Expr} {arguments : Option (List Expr)}
    (head : Derives .primary first callee) (last : Derives .args second arguments) :
    Derives .primary (first ++ second) (.invoke callee arguments) := by
  obtain ⟨phrase, rfl, rfl⟩ := head
  obtain ⟨list, rfl, rfl⟩ := last
  cases phrase with
  | primary main lists =>
    obtain ⟨more, taken, built⟩ := exists_snoc_call lists list
    refine ⟨.primary main more, ?_, ?_⟩
    · simp [Phrase.tokens, taken]
    · simp [Phrase.value, built]

/-- An operand without calls is a primary expression. -/
lemma Derives.ofMain {tokens : List Token} {value : Expr} (main : Derives .main tokens value) :
    Derives .primary tokens value := by
  obtain ⟨phrase, rfl, rfl⟩ := main
  exact ⟨.primary phrase .noCalls, by simp [Phrase.tokens], rfl⟩

end Grammar

/-- A well-formed expression is what its tokens derive. -/
lemma Expr.WellFormed.derived {numeral : Float → String} (spells : Number.Spells numeral)
    {rank : Expr.Rank} {e : Expr} (formed : e.WellFormed rank) : Derived numeral rank e := by
  induction formed with
  | @number value literal =>
    apply Derives.ofMain
    exact ⟨.number ⟨.number, numeral value⟩ value rfl (spells value literal).2,
      by simp [Phrase.tokens, Expr.tokens], rfl⟩
  | @name text named =>
    apply Derives.ofMain
    exact ⟨.name (.word text) rfl, by simp [Phrase.tokens, Expr.tokens], rfl⟩
  | group whole ih =>
    obtain ⟨phrase, taken, built⟩ := ih
    apply Derives.ofMain
    refine ⟨.group ⟨.symbol "(", rfl⟩ phrase ⟨.symbol ")", rfl⟩, ?_, ?_⟩
    · rw [Phrase.tokens, Expr.tokens, taken]
    · rw [Phrase.value, built]
  | @invoke callee arguments first solid all ihFirst ihAll =>
    cases arguments with
    | none =>
      rw [Derived, Expr.tokens]
      apply ihFirst.call
      exact ⟨.noArgs ⟨.symbol "(", rfl⟩ ⟨.symbol ")", rfl⟩, rfl, rfl⟩
    | some list =>
      rw [Derived, Expr.tokens]
      apply ihFirst.call
      obtain ⟨items, taken, built⟩ := derives_items (ihAll list rfl) ⟨.symbol ")", rfl⟩
      -- the list is not empty, so that it does not close at once
      cases items with
      | close closing => exact absurd built.symm (solid list rfl)
      | item argument comma more =>
        refine ⟨.args ⟨.symbol "(", rfl⟩ argument comma more, ?_, ?_⟩
        · rw [← taken]
          rfl
        · rw [← built]
          rfl
  | ofPrimary whole ih => exact ih.ofPrimary.level
  | @product symbol left right among first second ihFirst ihSecond =>
    rw [Derived, Expr.tokens]
    exact ihFirst.longer (by decide) among ihSecond.ofPrimary
  | ofProduct whole ih => exact ih.ofProduct.level
  | @sum symbol left right among first second ihFirst ihSecond =>
    rw [Derived, Expr.tokens]
    exact ihFirst.longer (by decide) among ihSecond.ofProduct
  | @comparison symbol left right among first second ihFirst ihSecond =>
    rw [Derived, Expr.tokens]
    exact .start among ihFirst.ofSum ihSecond.ofSum
  | @longer symbol left right among first second ihFirst ihSecond =>
    rw [Derived, Expr.tokens]
    exact .longer among ihFirst ihSecond.ofSum
  | ofSum whole ih => exact ih.ofSum.level
  | ofChain whole ih =>
    obtain ⟨first, links, taken, built, -⟩ := ih
    exact ⟨.level first links, taken, built⟩

/-! ## Lexemes -/

namespace Token

/-- A number, a name or a symbol. -/
def Lexeme (token : Token) : Prop :=
  token.WellFormed ∧
    (token.kind = .number ∨ token.kind = .identifier ∨ token.kind = .punctuation)

/-- A symbol of the tables is a lexeme. -/
lemma Lexeme.symbol {text : String} (among : text ∈ doubleSymbols ∨ text ∈ singleSymbols) :
    (Token.symbol text).Lexeme :=
  ⟨among, .inr (.inr rfl)⟩

/-- The symbol of an operator is a lexeme. -/
lemma Lexeme.operator {precedence : Precedence} {text : String}
    (among : text ∈ symbols precedence) : (Token.symbol text).Lexeme := by
  have all : ∀ text ∈ symbols precedence, text ∈ doubleSymbols ∨ text ∈ singleSymbols := by
    cases precedence <;> decide
  exact .symbol (all text among)

/-- A name is a lexeme. -/
lemma Lexeme.word {text : String} (named : Text.IsName text) : (Token.word text).Lexeme :=
  ⟨named, .inr (.inl rfl)⟩

/-- A lexeme is no layout. -/
lemma Lexeme.isLayout {token : Token} (lexeme : token.Lexeme) : token.isLayout = false := by
  rcases lexeme.2 with kind | kind | kind <;> simp [Token.isLayout, kind]

/-- A number, a name or a symbol fits before a blank and at the end. -/
lemma Lexeme.fits {token : Token} (lexeme : token.Lexeme) {behind : List Char}
    (apart : ∀ c ∈ behind.head?, Text.isBlank c = true) : token.Fits behind := by
  obtain ⟨kind, text⟩ := token
  rcases lexeme with ⟨-, rfl | rfl | rfl⟩
  · intro c first
    have noWord := Text.isWord_of_isBlank (apart c first)
    exact Bool.eq_false_iff.2 fun digit => by simp [Text.isWord_of_isDigit digit] at noWord
  · intro c first
    exact Text.isWord_of_isBlank (apart c first)
  · have other : ∀ c ∈ Rule.singles, behind.head? ≠ some c := by
      intro c symbol first
      have noBlank := (Text.symbols_apart c (by simp [symbol])).1
      simp [apart c first] at noBlank
    exact ⟨fun _ => other '=' (by decide), fun _ ahead => other '/' (by decide) ahead.1⟩

/-- The tokens stand in the text one after the other, with blanks around them, so that behind each
of them there is a blank or the end. -/
inductive LaidOut : List Token → List Char → Prop where
  | blanks {gap : List Char} (blank : ∀ c ∈ gap, Text.isBlank c = true) : LaidOut [] gap
  | next {gap text : List Char} {token : Token} {tokens : List Token}
      (blank : ∀ c ∈ gap, Text.isBlank c = true)
      (apart : ∀ c ∈ text.head?, Text.isBlank c = true) (more : LaidOut tokens text) :
      LaidOut (token :: tokens) (gap ++ (token.text.toList ++ text))

/-- A text is cut into the tokens that stand in it. -/
lemma LaidOut.lexes {tokens : List Token} {text : List Char} (laid : LaidOut tokens text)
    (lexemes : ∀ token ∈ tokens, token.Lexeme) :
    ∃ all, Lexes text all [] ∧ withoutLayout all = tokens := by
  induction laid with
  | @blanks gap blank =>
    obtain ⟨all, lexes, visible⟩ := Lexes.pad blank (.done []) stuck_nil
    rw [List.append_nil] at lexes
    exact ⟨all, lexes, visible⟩
  | next blank apart more ih =>
    obtain ⟨lexeme, others⟩ := List.forall_mem_cons.1 lexemes
    obtain ⟨all, lexes, visible⟩ := ih others
    have first := Lexes.next rfl lexeme.1 (lexeme.fits apart) lexes
    obtain ⟨padded, lexes', visible'⟩ := first.pad blank stuck_nil
    exact ⟨padded, lexes', by rw [visible', withoutLayout_cons lexeme.isLayout, visible]⟩

/-- Blanks may stand before a text that is laid out. -/
lemma LaidOut.pad {tokens : List Token} {text blanks : List Char} (laid : LaidOut tokens text)
    (blank : ∀ c ∈ blanks, Text.isBlank c = true) : LaidOut tokens (blanks ++ text) := by
  cases laid with
  | blanks gap => exact .blanks (List.forall_mem_append.2 ⟨blank, gap⟩)
  | next gap apart more =>
    rw [← List.append_assoc]
    exact .next (List.forall_mem_append.2 ⟨blank, gap⟩) apart more

/-- A token may stand before a text that is laid out and starts with a blank or is empty. -/
lemma LaidOut.cons {text : List Char} {tokens : List Token}
    (apart : ∀ c ∈ text.head?, Text.isBlank c = true) (more : LaidOut tokens text) (token : Token) :
    LaidOut (token :: tokens) (token.text.toList ++ text) := by
  have none : ∀ c ∈ ([] : List Char), Text.isBlank c = true := nofun
  exact .next none apart more

/-- Tokens with a space between any two of them stand apart. -/
lemma laidOut_intercalate (tokens : List Token) :
    LaidOut tokens (String.intercalate " " (tokens.map Token.text)).toList := by
  induction tokens with
  | nil => exact .blanks (by simp)
  | cons token tokens ih =>
    cases tokens with
    | nil =>
      have alone : LaidOut [token] (token.text.toList ++ []) :=
        .cons (by simp) (.blanks (by simp)) token
      simpa using alone
    | cons other tokens =>
      have space : Text.isBlank ' ' = true := by decide
      have spaced : LaidOut (other :: tokens) ([' '] ++ _) :=
        ih.pad (List.forall_mem_singleton.2 space)
      have whole := LaidOut.cons (by simpa using space) spaced token
      simpa [String.toList_intercalate, List.intercalate] using whole

end Token

/-! ## Well-formed programs -/

/-- The tokens of arguments are lexemes if those of each argument are. -/
lemma lexemes_argumentTokens {numeral : Float → String} {list : List Expr}
    (each : ∀ e ∈ list, ∀ token ∈ e.tokens numeral, token.Lexeme) :
    ∀ token ∈ Expr.argumentTokens numeral list, token.Lexeme := by
  induction list with
  | nil => simp [Expr.argumentTokens]
  | cons e list ih =>
    obtain ⟨head, others⟩ := List.forall_mem_cons.1 each
    simp only [Expr.argumentTokens, List.forall_mem_cons, List.forall_mem_append]
    exact ⟨head, .symbol (by decide), ih others⟩

/-- The tokens of an operation are lexemes if those of its operands are. -/
lemma lexemes_binary {numeral : Float → String} {op : String} {left right : Expr}
    (precedence : Precedence) (among : op ∈ symbols precedence)
    (first : ∀ token ∈ left.tokens numeral, token.Lexeme)
    (second : ∀ token ∈ right.tokens numeral, token.Lexeme) :
    ∀ token ∈ (Expr.binary op left right).tokens numeral, token.Lexeme := by
  simp only [Expr.tokens, List.forall_mem_cons, List.forall_mem_append]
  exact ⟨first, .operator among, second⟩

/-- The tokens of a block are lexemes if those of each statement are. -/
lemma lexemes_blockTokens {numeral : Float → String} {body : List Stmt}
    (each : ∀ stmt ∈ body, ∀ token ∈ stmt.tokens numeral, token.Lexeme) :
    ∀ token ∈ Stmt.blockTokens numeral body, token.Lexeme := by
  induction body with
  | nil => simp [Stmt.blockTokens]
  | cons stmt body ih =>
    obtain ⟨head, others⟩ := List.forall_mem_cons.1 each
    rw [Stmt.blockTokens, List.forall_mem_append]
    exact ⟨head, ih others⟩

/-- Statements that are derived one by one are derived as a row. -/
lemma exists_row {numeral : Float → String} {body : List Stmt}
    (each : ∀ stmt ∈ body, ∃ sentence : Sentence .one,
      sentence.tokens = stmt.tokens numeral ∧ sentence.value = stmt) :
    ∃ row : Sentence .row, row.tokens = Stmt.blockTokens numeral body ∧ row.value = body := by
  induction body with
  | nil => exact ⟨.none, by rw [Sentence.tokens, Stmt.blockTokens], rfl⟩
  | cons stmt body ih =>
    obtain ⟨⟨sentence, taken, built⟩, others⟩ := List.forall_mem_cons.1 each
    obtain ⟨row, taken', built'⟩ := ih others
    refine ⟨.more sentence row, ?_, ?_⟩
    · rw [Sentence.tokens, Stmt.blockTokens, taken, taken']
    · rw [Sentence.value, built, built']

/-- A keyword with a condition and a block is a statement. -/
lemma exists_clause {numeral : Float → String} {condition : Expr} {body : List Stmt}
    (keyword : Keyword) (test : Derives .expr (condition.tokens numeral) condition)
    (each : ∀ stmt ∈ body, ∃ sentence : Sentence .one,
      sentence.tokens = stmt.tokens numeral ∧ sentence.value = stmt) :
    ∃ sentence : Sentence .one,
      sentence.tokens = .word keyword.text :: .symbol "(" :: (condition.tokens numeral ++
        .symbol ")" :: .symbol "\x7b" :: (Stmt.blockTokens numeral body ++ [.symbol "\x7d"])) ∧
      sentence.value = keyword.build condition body := by
  obtain ⟨phrase, taken, built⟩ := test
  obtain ⟨row, taken', built'⟩ := exists_row each
  refine ⟨.clause keyword ⟨.word keyword.text, rfl⟩ ⟨.symbol "(", rfl⟩ phrase ⟨.symbol ")", rfl⟩
    ⟨.symbol "\x7b", rfl⟩ row ⟨.symbol "\x7d", rfl⟩, ?_, ?_⟩
  · rw [Sentence.tokens, taken, taken']
  · rw [Sentence.value, built, built']

section Formed

variable {numeral : Float → String} (spells : Number.Spells numeral)

include spells

/-- The tokens of a well-formed expression are lexemes. -/
lemma Expr.WellFormed.lexemes {rank : Expr.Rank} {e : Expr} (formed : e.WellFormed rank) :
    ∀ token ∈ e.tokens numeral, token.Lexeme := by
  induction formed with
  | @number value literal =>
    rw [Expr.tokens, List.forall_mem_singleton]
    exact ⟨(spells value literal).1, .inl rfl⟩
  | name named =>
    rw [Expr.tokens, List.forall_mem_singleton]
    exact .word named
  | group whole ih =>
    simp only [Expr.tokens, List.forall_mem_cons, List.forall_mem_append]
    exact ⟨.symbol (by decide), ih, .symbol (by decide), nofun⟩
  | @invoke callee arguments first solid all ihFirst ihAll =>
    cases arguments with
    | none =>
      simp only [Expr.tokens, List.forall_mem_cons, List.forall_mem_append]
      exact ⟨ihFirst, .symbol (by decide), .symbol (by decide), nofun⟩
    | some list =>
      simp only [Expr.tokens, List.forall_mem_cons, List.forall_mem_append]
      exact ⟨ihFirst, .symbol (by decide), lexemes_argumentTokens (ihAll list rfl),
        .symbol (by decide), nofun⟩
  | ofPrimary whole ih => exact ih
  | product among first second ihFirst ihSecond =>
    exact lexemes_binary .product among ihFirst ihSecond
  | ofProduct whole ih => exact ih
  | sum among first second ihFirst ihSecond => exact lexemes_binary .sum among ihFirst ihSecond
  | comparison among first second ihFirst ihSecond =>
    exact lexemes_binary .comparison among ihFirst ihSecond
  | longer among first second ihFirst ihSecond =>
    exact lexemes_binary .comparison among ihFirst ihSecond
  | ofSum whole ih => exact ih
  | ofChain whole ih => exact ih

/-- A well-formed statement is what its tokens derive. -/
lemma Stmt.WellFormed.exists_sentence {stmt : Stmt} (formed : stmt.WellFormed) :
    ∃ sentence : Sentence .one, sentence.tokens = stmt.tokens numeral ∧ sentence.value = stmt := by
  induction formed with
  | ifThen test block ih =>
    rw [Stmt.tokens]
    exact exists_clause .ifThen (test.derived spells) ih
  | whileDo test block ih =>
    rw [Stmt.tokens]
    exact exists_clause .whileDo (test.derived spells) ih
  | @assign name value named noKeyword source =>
    obtain ⟨phrase, taken, built⟩ : Derives .expr _ _ := source.derived spells
    have other : ∀ keyword : Keyword, name ≠ keyword.text := by
      intro keyword
      cases keyword with
      | ifThen => exact noKeyword.1
      | whileDo => exact noKeyword.2
    refine ⟨.assignment (.word name) rfl other ⟨.symbol "=", rfl⟩ phrase ⟨.symbol ";", rfl⟩, ?_, ?_⟩
    · simp [Sentence.tokens, Stmt.tokens, Expr.tokens, taken]
    · simp [Sentence.value, built, Token.word]
  | @expr e action noKeyword =>
    obtain ⟨phrase, taken, built⟩ : Derives .expr _ _ := action.derived spells
    have formed : ∀ token ∈ phrase.tokens, token.WellFormed := by
      rw [taken]
      exact fun token member => (action.lexemes spells token member).1
    have other : ∀ keyword : Keyword, front? phrase.tokens ≠ some keyword.text := by
      intro keyword front
      have first := (phrase.leftmost?_eq_keyword_iff trivial formed keyword).2 front
      rw [built] at first
      cases keyword with
      | ifThen => exact noKeyword.1 first
      | whileDo => exact noKeyword.2 first
    refine ⟨.effect phrase other ⟨.symbol ";", rfl⟩, ?_, ?_⟩
    · rw [Sentence.tokens, Stmt.tokens, taken]
    · rw [Sentence.value, built]

/-- The tokens of a well-formed statement are lexemes. -/
lemma Stmt.WellFormed.lexemes {stmt : Stmt} (formed : stmt.WellFormed) :
    ∀ token ∈ stmt.tokens numeral, token.Lexeme := by
  induction formed with
  | ifThen test block ih | whileDo test block ih =>
    simp only [Stmt.tokens, List.forall_mem_cons, List.forall_mem_append]
    exact ⟨.word (by decide), .symbol (by decide), test.lexemes spells, .symbol (by decide),
      .symbol (by decide), lexemes_blockTokens ih, .symbol (by decide), nofun⟩
  | assign named noKeyword source =>
    simp only [Stmt.tokens, Expr.tokens, List.forall_mem_cons, List.forall_mem_append]
    exact ⟨⟨.word named, nofun⟩, .symbol (by decide), source.lexemes spells, .symbol (by decide),
      nofun⟩
  | expr action noKeyword =>
    simp only [Stmt.tokens, List.forall_mem_cons, List.forall_mem_append]
    exact ⟨action.lexemes spells, .symbol (by decide), nofun⟩

/-- A text in which the tokens of a well-formed program stand apart spells the program. -/
lemma Program.WellFormed.ofSource_eq {program : Program} (formed : program.WellFormed)
    {source : String} (laid : Token.LaidOut (program.tokens numeral) source.toList) :
    Program.ofSource source = .ok program := by
  have lexemes : ∀ token ∈ program.tokens numeral, token.Lexeme :=
    lexemes_blockTokens fun stmt member => (formed stmt member).lexemes spells
  obtain ⟨all, lexes, visible⟩ := laid.lexes lexemes
  have handed : sourceTokens source = .ok (program.tokens numeral) :=
    sourceTokens_eq_ok_iff.2 ⟨all, tokenize_eq_ok_iff_lexes.2 lexes, visible⟩
  have plain : ∀ token ∈ program.tokens numeral, token.IsPlain :=
    fun token member => (lexemes token member).1.isPlain
  have derived := exists_row fun stmt member => (formed stmt member).exists_sentence spells
  exact Program.ofSource_eq_ok_iff.2
    ⟨_, handed, (Program.ofTokens_eq_ok_iff_derives plain).2 derived⟩

end Formed

/-- The programs that texts spell are exactly the well-formed ones, and writing a well-formed
program down is inverse to reading it, with a space between any two tokens and with any other blanks
that keep them apart. The digits of a number may be any that are read as the number. -/
theorem Program.ofSource_text :
    (∀ program : Program, (∃ source, Program.ofSource source = .ok program) ↔ program.WellFormed) ∧
    (∃ numeral, Number.Spells numeral) ∧
    ∀ numeral, Number.Spells numeral → ∀ program : Program, program.WellFormed →
      Program.ofSource (program.text numeral) = .ok program ∧
      ∀ source, Token.LaidOut (program.tokens numeral) source.toList →
        Program.ofSource source = .ok program := by
  have image : ∀ program : Program,
      (∃ source, Program.ofSource source = .ok program) ↔ program.WellFormed := by
    intro program
    constructor
    · intro ⟨source, accepted⟩
      exact wellFormed_of_ofSource accepted
    · intro formed
      obtain ⟨numeral, spells⟩ := Number.exists_spells
      exact ⟨_, formed.ofSource_eq spells (Token.laidOut_intercalate _)⟩
  refine ⟨image, Number.exists_spells, ?_⟩
  intro numeral spells program formed
  exact ⟨formed.ofSource_eq spells (Token.laidOut_intercalate _),
    fun source => formed.ofSource_eq spells⟩

/-- A chain of comparisons with a keyword inside it, and a call of a call. -/
theorem Program.ofSource_text_keyword_operand :
    Program.ofSource "while ( x < if < y ) \x7b f ( ( while ) , ) ( ) ; \x7d" =
      .ok [.whileDo (.binary "<" (.binary "<" (.variable "x") (.variable "if")) (.variable "y"))
        [.expr (.invoke (.invoke (.variable "f") (some [.group (.variable "while")])) none)]] := by
  obtain ⟨numeral, spells⟩ := Program.ofSource_text.2.1
  have primary : ∀ text, Text.IsName text → (Expr.variable text).WellFormed .primary :=
    fun _ => .name
  have sum : ∀ e : Expr, e.WellFormed .primary → e.WellFormed .sum :=
    fun _ whole => .ofProduct (.ofPrimary whole)
  have chain : (Expr.binary "<" (.variable "x") (.variable "if")).WellFormed (.chain "<") :=
    .comparison (by decide) (sum _ (primary "x" (by decide))) (sum _ (primary "if" (by decide)))
  have argument : (Expr.group (.variable "while")).WellFormed .primary :=
    .group (.ofSum (sum _ (primary "while" (by decide))))
  have call : (Expr.invoke (.variable "f") (some [.group (.variable "while")])).WellFormed
      .primary := by
    apply Expr.WellFormed.invoke (primary "f" (by decide))
    · simp
    · simpa using .ofSum (sum _ argument)
  have formed : Program.WellFormed [.whileDo
      (.binary "<" (.binary "<" (.variable "x") (.variable "if")) (.variable "y"))
      [.expr (.invoke (.invoke (.variable "f") (some [.group (.variable "while")])) none)]] := by
    rw [Program.WellFormed, List.forall_mem_singleton]
    apply Stmt.WellFormed.whileDo
    · exact .ofChain (.longer (by decide) chain (sum _ (primary "y" (by decide))))
    · rw [List.forall_mem_singleton]
      exact .expr (.ofSum (sum _ (.invoke call (by simp) (by simp)))) (by decide)
  exact (Program.ofSource_text.2.2 numeral spells _ formed).1

end Scriptlet
