import Scriptlet.Proofs.Number.Literal
import Scriptlet.Proofs.Parser.Recognition
import Scriptlet.Proofs.Parser.Viable
import Scriptlet.Proofs.Program.Append

/-!
# Texts and kinds of tokens

The parser goes by the texts of tokens where the grammar means tokens of a certain kind. On tokens
that a text is cut into this makes no difference, since no text is a lexeme of two kinds
(`WellFormed.eq_of_text_eq`). So a parser that looks at kinds as well does the same, errors
included, and tokens that the grammar has no use for are refused.
-/

namespace Scriptlet
open Grammar

namespace Token

/-- The kind of the tokens that the grammar means by one of its texts. -/
def Kind.meant (text : String) : Kind :=
  if text = "if" ∨ text = "while" then .identifier else .punctuation

/-- Whether the token has the given text and the kind that the grammar means by it. -/
def isMeant (token : Token) (text : String) : Bool :=
  token.is text && token.kind = Kind.meant text

/-- The symbols that the grammar has no use for. -/
def idleSymbols : List String :=
  [".", "!", ":", "[", "]", "|", "?"]

variable {token other : Token}

/-- At the end of a text every token fits. -/
lemma fits_nil (token : Token) : token.Fits [] := by
  obtain ⟨kind, text⟩ := token
  cases kind <;> simp [Fits, Text.free_nil]

/-- A text is a lexeme of one kind at most. -/
lemma WellFormed.eq_of_text_eq (formed : token.WellFormed) (formed' : other.WellFormed)
    (same : token.text = other.text) : token = other := by
  have spelled : token.text.toList ++ [] = other.text.toList ++ [] := by rw [same]
  exact (Scanner.lexeme_unique spelled formed token.fits_nil formed' other.fits_nil).1

/-- The texts of the grammar are lexemes of the kinds that they are meant as. -/
lemma wellFormed_meant {text : String} (symbol : text ∈ Parser.texts) :
    WellFormed ⟨Kind.meant text, text⟩ := by
  have cut : ∀ text ∈ Parser.texts, tokenize text = .ok [⟨Kind.meant text, text⟩] := by
    decide
  have lexes := tokenize_eq_ok_iff_lexes.1 (cut text symbol)
  exact (Scanner.Lexes.iff_spelling.1 lexes).2.1 _ (by simp)

/-- In a source text the texts of the grammar are told by text and kind alike. -/
lemma WellFormed.readByText (formed : token.WellFormed) : token.ReadByText isMeant := by
  intro text symbol
  by_cases same : token.text = text
  · have kind := congrArg Token.kind (formed.eq_of_text_eq (wellFormed_meant symbol) same)
    simp [isMeant, is, same, kind]
  · simp [isMeant, is, same]

/-- A number token can be read as a number. -/
lemma WellFormed.exists_read? (formed : token.WellFormed) (number : token.kind = .number) :
    ∃ x, Number.read? token.text = some x := by
  obtain ⟨kind, text⟩ := token
  obtain rfl : kind = .number := number
  exact ⟨_, Number.read?_of_isNumeral formed⟩

/-- Where a number or a name is not taken, there is neither. -/
lemma WellFormed.kind_of_leaf_eq_error {rest rest' : List Token} {cause : ParseError}
    (formed : token.WellFormed) (missed : Parser.leaf (token :: rest) = .error cause rest') :
    token.kind ≠ .number ∧ token.kind ≠ .identifier := by
  obtain ⟨kind, text⟩ := token
  constructor
  · rintro rfl
    obtain ⟨x, reads⟩ := formed.exists_read? rfl
    simp [Parser.leaf, reads] at missed
  · rintro rfl
    cases missed

/-- A token of a derivation is none of the symbols without use. -/
lemma not_mem_idleSymbols_of_leaf (leaf : Leaf token) (symbol : token.kind = .punctuation) :
    token.text ∉ idleSymbols := by
  have apart : ∀ text ∈ idleSymbols, text ∉ reserved ∧ text ≠ "if" ∧ text ≠ "while" := by decide
  intro idle
  obtain ⟨unreserved, noIf, noWhile⟩ := apart _ idle
  rcases leaf with kind | kind | member | ⟨keyword, spelled⟩
  · cases symbol.symm.trans kind
  · cases symbol.symm.trans kind
  · exact unreserved member
  · cases keyword with
    | ifThen => exact noIf spelled
    | whileDo => exact noWhile spelled

end Token

namespace Program

variable {source : String} {tokens : List Token}

/-- A text with a token that no derivation has is refused by the parser. -/
lemma refused_of_not_leaf (handed : tokenize source = .ok tokens) {token : Token}
    (member : token ∈ tokens) (solid : token.isLayout = false) (idle : ¬ Leaf token) :
    ∃ cause, Program.ofSource source = .error (.parse cause) := by
  have visible := sourceTokens_eq_ok_iff.2 ⟨tokens, handed, rfl⟩
  cases read : Program.ofTokens (Token.withoutLayout tokens) with
  | error cause =>
    refine ⟨cause, ?_⟩
    rw [Program.ofSource, visible]
    simp [bind, Except.bind, read]
  | ok program =>
    have accepted := Program.ofSource_eq_ok_iff.2 ⟨_, visible, read⟩
    obtain ⟨derivation, visible', -⟩ := Program.exists_derivation_of_ofSource accepted
    have taken : Token.withoutLayout tokens = derivation.tokens :=
      Except.ok.inj (visible.symm.trans visible')
    have inside : token ∈ derivation.tokens := by
      rw [← taken]
      exact List.mem_filter.2 ⟨member, by simp [solid]⟩
    exact absurd (Sentence.leaves derivation token inside) idle

/-- An expression is missed at no token that is written like a number or a name. -/
lemma kind_of_expectedPrimary (formed : ∀ token ∈ tokens, token.WellFormed) {found : Found}
    (refused : Program.ofTokens (Token.withoutLayout tokens) = .error (.expectedPrimary found))
    {token : Token} (member : token ∈ tokens) (named : found = .token token.text) :
    token.kind ≠ .number ∧ token.kind ≠ .identifier := by
  obtain ⟨taken, rest, split, -, stop⟩ := Program.exists_stop refused
  obtain ⟨cause, missed⟩ :=
    (Parser.follows_program Token.is).wanting (Nat.lt_succ_self _) found rest stop
  have front : Found.ofTokens rest = .token token.text :=
    ((Program.isAbout_of_stop stop).found found rfl).symm.trans named
  obtain ⟨next, rest, rfl, same⟩ := Token.exists_of_front? (Found.ofTokens_eq_token_iff.1 front)
  have inside : next ∈ tokens := by
    have visible : next ∈ Token.withoutLayout tokens := by simp [split]
    exact List.mem_of_mem_filter visible
  obtain rfl := (formed next inside).eq_of_text_eq (formed token member) same
  exact (formed next inside).kind_of_leaf_eq_error missed

end Program

/-- On the tokens that a text is cut into, the parser that goes by texts alone does what a parser
does that also looks at kinds. Comments, strings and symbols without use are refused, every number
can be read, and an expression is never missed at a number or a name. -/
theorem Program.texts_tell_kinds (source : String) (tokens : List Token)
    (handed : tokenize source = .ok tokens) :
    Parser.By.program Token.is = Parser.program ∧
    Parser.By.program Token.isMeant (Token.withoutLayout tokens) =
      Parser.program (Token.withoutLayout tokens) ∧
    (∀ token ∈ tokens,
      token.kind = .comment ∨ token.kind = .string ∨
        token.kind = .punctuation ∧ token.text ∈ Token.idleSymbols →
      ∃ cause, Program.ofSource source = .error (.parse cause)) ∧
    (∀ token ∈ tokens, token.kind = .number → ∃ x, Number.read? token.text = some x) ∧
    ∀ found, Program.ofTokens (Token.withoutLayout tokens) = .error (.expectedPrimary found) →
      ∀ token ∈ tokens, found = .token token.text →
        token.kind ≠ .number ∧ token.kind ≠ .identifier := by
  have formed := (Scanner.Lexes.iff_spelling.1 (tokenize_eq_ok_iff_lexes.1 handed)).2.1
  refine ⟨?_, ?_, ?_, ?_, ?_⟩
  · funext tokens
    exact (Parser.follows_program (n := 0) Token.is).same fun _ _ _ _ => rfl
  · refine (Parser.follows_program (n := 0) Token.isMeant).same fun token member => ?_
    exact (formed token (List.mem_of_mem_filter member)).readByText
  · intro token member idle
    refine refused_of_not_leaf handed member ?_ ?_
    · rcases idle with kind | kind | ⟨kind, -⟩ <;> simp [Token.isLayout, kind]
    · intro leaf
      rcases idle with kind | kind | ⟨kind, idle⟩
      · exact ((formed token member).kind_of_leaf leaf).1 kind
      · exact ((formed token member).kind_of_leaf leaf).2 kind
      · exact Token.not_mem_idleSymbols_of_leaf leaf kind idle
  · exact fun token member => (formed token member).exists_read?
  · exact fun found refused token member => kind_of_expectedPrimary formed refused member

/-- A string where an expression is expected. -/
theorem Program.texts_tell_kinds_of_string :
    ∃ tokens, tokenize "if (x) \x7b y = \"1\"; \x7d" = .ok tokens ∧
      Parser.By.program Token.isMeant (Token.withoutLayout tokens) =
        Parser.program (Token.withoutLayout tokens) ∧
      ∃ cause, Program.ofSource "if (x) \x7b y = \"1\"; \x7d" = .error (.parse cause) := by
  have told := Program.texts_tell_kinds "if (x) \x7b y = \"1\"; \x7d" _ rfl
  exact ⟨_, rfl, told.2.1, told.2.2.1 ⟨.string, "\"1\""⟩ (by decide) (by decide)⟩

end Scriptlet
