import Scriptlet.Proofs.Program.Written

/-!
# Layout

Two texts with the same tokens apart from layout spell the same program. Among all texts with the
same tokens there is one in normal layout, with every token on a line of its own. A line break keeps
all kinds of tokens apart, also a string from a later quote, which a space would not do
(`Token.WellFormed.fits_lineBreak`). So the text in normal layout is cut into the same tokens, and
it is its own normal layout.
-/

namespace Scriptlet
open Scanner

namespace Token

/-- The text in which every token has a line break behind it. -/
def listing (tokens : List Token) : String :=
  String.join (tokens.map fun token => token.text ++ "\n")

/-- The first token of a listing stands before a line break. -/
lemma toList_listing_cons (token : Token) (tokens : List Token) :
    (listing (token :: tokens)).toList =
      token.text.toList ++ (['\n'] ++ (listing tokens).toList) := by
  simp [listing, String.join_cons]

/-- Every token but layout fits before a line break. -/
lemma WellFormed.fits_lineBreak {token : Token} (formed : token.WellFormed)
    (solid : token.isLayout = false) (rest : List Char) : token.Fits (['\n'] ++ rest) := by
  have blank : ∀ c ∈ (['\n'] ++ rest).head?, Text.isBlank c = true := by
    intro c first
    obtain rfl : '\n' = c := Option.some.inj first
    decide
  obtain ⟨kind, text⟩ := token
  cases kind with
  | comment => trivial
  | number => exact Lexeme.fits ⟨formed, .inl rfl⟩ blank
  | identifier => exact Lexeme.fits ⟨formed, .inr (.inl rfl)⟩ blank
  | punctuation => exact Lexeme.fits ⟨formed, .inr (.inr rfl)⟩ blank
  | string =>
    -- the line of the string ends here, so that no later quote belongs to it
    show '"' ∉ (['\n'] ++ rest).takeWhile (· ≠ '\n')
    simp
  | whitespace => cases solid
  | forClause => exact formed.elim
  | sentinel => exact formed.elim

/-- Tokens on lines of their own are cut into the same tokens again. -/
lemma lexes_listing {tokens : List Token} (formed : ∀ token ∈ tokens, token.WellFormed)
    (solid : ∀ token ∈ tokens, token.isLayout = false) :
    ∃ all, Lexes (listing tokens).toList all [] ∧ withoutLayout all = tokens := by
  induction tokens with
  | nil => exact ⟨[], .done [], rfl⟩
  | cons token tokens ih =>
    obtain ⟨formed, formedOthers⟩ := List.forall_mem_cons.1 formed
    obtain ⟨solid, solidOthers⟩ := List.forall_mem_cons.1 solid
    obtain ⟨all, lexes, visible⟩ := ih formedOthers solidOthers
    have blank : ∀ c ∈ ['\n'], Text.isBlank c = true := List.forall_mem_singleton.2 (by decide)
    obtain ⟨padded, lexes', visible'⟩ := lexes.pad blank stuck_nil
    refine ⟨token :: padded, ?_, ?_⟩
    · rw [toList_listing_cons]
      exact .next rfl formed (formed.fits_lineBreak solid _) lexes'
    · rw [withoutLayout_cons solid, visible', visible]

end Token

/-- The text with the same tokens in normal layout. -/
def normalLayout (source : String) : Except LexError String :=
  (tokenize source).map fun tokens => Token.listing (Token.withoutLayout tokens)

/-- A listing is cut into the tokens that it lists, with layout between them. -/
lemma tokenize_listing {source : String} {tokens : List Token}
    (cut : tokenize source = .ok tokens) :
    ∃ all, tokenize (Token.listing (Token.withoutLayout tokens)) = .ok all ∧
      Token.withoutLayout all = Token.withoutLayout tokens := by
  obtain ⟨-, formed, -⟩ := Lexes.iff_spelling.1 (tokenize_eq_ok_iff_lexes.1 cut)
  have formed' : ∀ token ∈ Token.withoutLayout tokens, token.WellFormed :=
    fun token member => formed token (List.mem_of_mem_filter member)
  have solid : ∀ token ∈ Token.withoutLayout tokens, token.isLayout = false := by
    intro token member
    simpa using List.of_mem_filter member
  obtain ⟨all, lexes, visible⟩ := Token.lexes_listing formed' solid
  exact ⟨all, tokenize_eq_ok_iff_lexes.2 lexes, visible⟩

/-- The program of a text depends on its tokens without layout only. -/
lemma Program.ofSource_congr {first second : String} {tokens tokens' : List Token}
    (cut : tokenize first = .ok tokens) (cut' : tokenize second = .ok tokens')
    (same : Token.withoutLayout tokens = Token.withoutLayout tokens') :
    Program.ofSource first = Program.ofSource second := by
  simp only [Program.ofSource, sourceTokens, cut, cut', same]

/-- Layout has no meaning, and it has a normal form. A text that is cut into tokens can be written
with each of them but layout on a line of its own: the new text is cut into the same tokens apart
from layout, spells the same program or is refused with the same error, and is in normal layout
itself. -/
theorem Program.ofSource_normalLayout (source : String) (tokens : List Token)
    (cut : tokenize source = .ok tokens) :
    normalLayout source = .ok (Token.listing (Token.withoutLayout tokens)) ∧
    (∃ all, tokenize (Token.listing (Token.withoutLayout tokens)) = .ok all ∧
      Token.withoutLayout all = Token.withoutLayout tokens) ∧
    Program.ofSource (Token.listing (Token.withoutLayout tokens)) = Program.ofSource source ∧
    normalLayout (Token.listing (Token.withoutLayout tokens)) =
      .ok (Token.listing (Token.withoutLayout tokens)) := by
  obtain ⟨all, cut', visible⟩ := tokenize_listing cut
  refine ⟨?_, ⟨all, cut', visible⟩, ?_, ?_⟩
  · rw [normalLayout, cut]
    rfl
  · exact Program.ofSource_congr cut' cut visible
  · rw [normalLayout, cut', ← visible]
    rfl

/-- A comment that ends in a line break of its own, a number right before a name, two quoted texts
that are one string, and two slashes that are no comment. -/
theorem Program.ofSource_normalLayout_mixed :
    ∃ tokens, tokenize "a //b\n1c\"d\" @\"e\" / /" = .ok tokens ∧
      Token.withoutLayout tokens =
        [⟨.identifier, "a"⟩, ⟨.comment, "//b\n"⟩, ⟨.number, "1"⟩, ⟨.identifier, "c"⟩,
          ⟨.string, "\"d\" @\"e\""⟩, ⟨.punctuation, "/"⟩, ⟨.punctuation, "/"⟩] ∧
      normalLayout "a //b\n1c\"d\" @\"e\" / /" = .ok "a\n//b\n\n1\nc\n\"d\" @\"e\"\n/\n/\n" ∧
      normalLayout "a\n//b\n\n1\nc\n\"d\" @\"e\"\n/\n/\n" =
        .ok "a\n//b\n\n1\nc\n\"d\" @\"e\"\n/\n/\n" := by
  have cut : tokenize "a //b\n1c\"d\" @\"e\" / /" = .ok _ := rfl
  obtain ⟨normal, -, -, stable⟩ := Program.ofSource_normalLayout _ _ cut
  exact ⟨_, cut, rfl, normal, stable⟩

end Scriptlet
