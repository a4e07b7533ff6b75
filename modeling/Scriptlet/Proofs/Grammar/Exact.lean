import Scriptlet.Proofs.Grammar.Unambiguous
import Scriptlet.Proofs.Token.Tokenize

/-!
# The parser and the grammar

The parser accepts exactly the token lists that the grammar derives and builds exactly what they
derive, and there is at most one derivation. This needs numbers and names that are not written like
symbols, and a text is never cut into any others.
-/

namespace Scriptlet
open Grammar

/-- Every symbol of the grammar has a character that is no word character. -/
lemma Grammar.exists_not_isWord :
    ∀ text ∈ reserved, ∃ c ∈ text.toList, Text.isWord c = false := by
  have all : reserved.all fun text => text.toList.any fun c => !Text.isWord c := by
    decide +kernel
  simpa using all

/-- The numbers and names of a source text are not written like symbols. -/
lemma Token.WellFormed.isPlain {token : Token} (formed : token.WellFormed) : token.IsPlain := by
  obtain ⟨kind, text⟩ := token
  intro operand reservedText
  obtain ⟨c, member, symbol⟩ := exists_not_isWord text reservedText
  have word : Text.isWord c = true := by
    obtain rfl | rfl := operand
    · exact Text.isWord_of_isDigit (formed.2 c member)
    · exact formed.2.1 c member
  exact Bool.false_ne_true (symbol.symm.trans word)

/-- The numbers and names that a text is cut into are not written like symbols. -/
lemma isPlain_of_tokenize {source : String} {tokens : List Token}
    (handed : tokenize source = .ok tokens) : ∀ token ∈ tokens, token.IsPlain := by
  intro token member
  have formed := (Scanner.Lexes.iff_spelling.1 (tokenize_eq_ok_iff_lexes.1 handed)).2.1
  exact (formed token member).isPlain

/-- Plain tokens are read as a program exactly if a derivation has these tokens and builds it. -/
lemma Program.ofTokens_eq_ok_iff_derives {tokens : List Token}
    (plain : ∀ token ∈ tokens, token.IsPlain) {program : Program} :
    Program.ofTokens tokens = .ok program ↔
      ∃ derivation : Derivation, derivation.tokens = tokens ∧ derivation.value = program := by
  constructor
  · intro accepted
    cases read : Parser.program tokens with
    | ok built rest =>
      rw [Program.ofTokens, read] at accepted
      obtain rfl := Except.ok.inj accepted
      obtain ⟨derivation, taken, builds, -⟩ := exists_derivation_of_program read
      exact ⟨derivation, taken, builds⟩
    | error cause rest =>
      rw [Program.ofTokens, read] at accepted
      cases accepted
  · rintro ⟨derivation, rfl, rfl⟩
    rw [Program.ofTokens, program_tokens derivation plain]
    rfl

/-- The parser accepts what the grammar derives and builds what is derived, in the only way there
is. This holds of all tokens that a text is cut into. -/
theorem Program.ofTokens_eq_ok_iff_derivation :
    (∀ source tokens, tokenize source = .ok tokens → ∀ token ∈ tokens, token.IsPlain) ∧
    ∀ tokens : List Token, (∀ token ∈ tokens, token.IsPlain) →
      (∀ program, Program.ofTokens tokens = .ok program ↔
        ∃ derivation : Derivation, derivation.tokens = tokens ∧ derivation.value = program) ∧
      ∀ derivation other : Derivation, derivation.tokens = tokens → other.tokens = tokens →
        derivation = other := by
  refine ⟨fun _ _ => isPlain_of_tokenize, fun tokens plain => ⟨?_, ?_⟩⟩
  · exact fun program => ofTokens_eq_ok_iff_derives plain
  · rintro derivation other rfl same
    exact Sentence.eq_of_tokens_eq plain same.symm

/-- A call of a call with a chain of comparisons among its arguments. -/
theorem Program.ofTokens_eq_ok_iff_derivation_chain :
    ∃ tokens, tokenize "x=f(1<2<=y,)();" = .ok tokens ∧
      (∀ program, Program.ofTokens tokens = .ok program ↔
        ∃ derivation : Derivation, derivation.tokens = tokens ∧ derivation.value = program) ∧
      ∀ derivation other : Derivation, derivation.tokens = tokens → other.tokens = tokens →
        derivation = other :=
  ⟨_, rfl, Program.ofTokens_eq_ok_iff_derivation.2 _
    (Program.ofTokens_eq_ok_iff_derivation.1 "x=f(1<2<=y,)();" _ rfl)⟩

end Scriptlet
