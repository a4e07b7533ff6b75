import Mathlib.Data.List.Basic
import Scriptlet.Proofs.Grammar.Completeness

/-!
# The tokens of a derivation

What the tokens of a derivation have in common, whatever it derives: they are numbers, names,
symbols and keywords (`Leaf`), the last of them closes a statement, and no slash has another slash
behind it (`Spaced`).
-/

namespace Scriptlet.Grammar

/-- A number, a name, a symbol of the grammar or a keyword. -/
def Leaf (token : Token) : Prop :=
  token.kind = .number ∨ token.kind = .identifier ∨ token.text ∈ reserved ∨
    ∃ keyword : Keyword, token.text = keyword.text

/-- Terminals of the grammar are leaves. -/
lemma Terminal.leaf {text : String} (terminal : Terminal text) (symbol : text ∈ reserved) :
    Leaf terminal.token :=
  .inr (.inr (.inl (terminal.spelled.symm ▸ symbol)))

/-- The symbols of the operators are symbols of the grammar. -/
lemma mem_reserved_of_mem_symbols {precedence : Precedence} {text : String}
    (symbol : text ∈ symbols precedence) : text ∈ reserved := by
  have among : ∀ text ∈ symbols precedence, text ∈ reserved := by
    cases precedence <;> decide
  exact among text symbol

/-- The tokens of a phrase are leaves. -/
lemma Phrase.leaves {category : Category} (phrase : Phrase category) :
    ∀ token ∈ phrase.tokens, Leaf token := by
  induction phrase with
  | number token value kind reads => exact List.forall_mem_singleton.2 (.inl kind)
  | name token kind => exact List.forall_mem_singleton.2 (.inr (.inl kind))
  | group opening inner closing ih =>
    simp only [tokens, List.forall_mem_cons, List.forall_mem_append]
    exact ⟨opening.leaf (by decide), ih, closing.leaf (by decide), by simp⟩
  | close closing => exact List.forall_mem_singleton.2 (closing.leaf (by decide))
  | item argument comma more ihArgument ihMore =>
    simp only [tokens, List.forall_mem_cons, List.forall_mem_append]
    exact ⟨ihArgument, comma.leaf (by decide), ihMore⟩
  | noArgs opening closing =>
    simp only [tokens, List.forall_mem_cons]
    exact ⟨opening.leaf (by decide), closing.leaf (by decide), by simp⟩
  | args opening first comma more ihFirst ihMore =>
    simp only [tokens, List.forall_mem_cons, List.forall_mem_append]
    exact ⟨opening.leaf (by decide), ihFirst, comma.leaf (by decide), ihMore⟩
  | noCalls => simp [tokens]
  | call list more ihList ihMore => exact List.forall_mem_append.2 ⟨ihList, ihMore⟩
  | primary head lists ihHead ihLists => exact List.forall_mem_append.2 ⟨ihHead, ihLists⟩
  | ofPrimary phrase ih => exact ih
  | ofProduct phrase ih => exact ih
  | ofSum phrase ih => exact ih
  | noLinks => simp [tokens]
  | link op symbol right more ihRight ihMore =>
    simp only [tokens, List.forall_mem_cons, List.forall_mem_append]
    exact ⟨.inr (.inr (.inl (mem_reserved_of_mem_symbols symbol))), ihRight, ihMore⟩
  | level first more ihFirst ihMore => exact List.forall_mem_append.2 ⟨ihFirst, ihMore⟩

/-- The tokens of a sentence are leaves. -/
lemma Sentence.leaves {extent : Extent} (sentence : Sentence extent) :
    ∀ token ∈ sentence.tokens, Leaf token := by
  induction sentence with
  | clause keyword word opening condition closing brace body unbrace ih =>
    simp only [tokens, List.forall_mem_cons, List.forall_mem_append]
    exact ⟨.inr (.inr (.inr ⟨keyword, word.spelled⟩)), opening.leaf (by decide), condition.leaves,
      closing.leaf (by decide), brace.leaf (by decide), ih, unbrace.leaf (by decide), by simp⟩
  | assignment target kind noKeyword sign source semicolon =>
    simp only [tokens, List.forall_mem_cons, List.forall_mem_append]
    exact ⟨.inr (.inl kind), sign.leaf (by decide), source.leaves, semicolon.leaf (by decide),
      by simp⟩
  | effect action noKeyword semicolon =>
    simp only [tokens, List.forall_mem_cons, List.forall_mem_append]
    exact ⟨action.leaves, semicolon.leaf (by decide), by simp⟩
  | none => simp [tokens]
  | more first others ihFirst ihOthers => exact List.forall_mem_append.2 ⟨ihFirst, ihOthers⟩

/-- A statement ends with a semicolon or a closing brace, and so does a row of them. -/
lemma Sentence.last_closes {extent : Extent} (sentence : Sentence extent) :
    ∀ token ∈ sentence.tokens.getLast?, token.text = ";" ∨ token.text = "\x7d" := by
  induction sentence with
  | clause keyword word opening condition closing brace body unbrace ih =>
    simpa [tokens, List.getLast?_cons, List.getLast?_append] using .inr unbrace.spelled
  | assignment target kind noKeyword sign source semicolon =>
    simpa [tokens, List.getLast?_cons, List.getLast?_append] using .inl semicolon.spelled
  | effect action noKeyword semicolon =>
    simpa [tokens, List.getLast?_cons, List.getLast?_append] using .inl semicolon.spelled
  | none => simp [tokens]
  | more first others ihFirst ihOthers =>
    intro token last
    rw [tokens, List.getLast?_append, Option.mem_def, Option.or_eq_some_iff] at last
    rcases last with last | ⟨-, last⟩
    · exact ihOthers token last
    · exact ihFirst token last

/-- Behind every slash stands a token that is no slash. -/
def Spaced : List Token → Prop
  | [] => True
  | token :: rest => (token.text = "/" → ∃ next ∈ rest.head?, next.text ≠ "/") ∧ Spaced rest

namespace Spaced

variable {first second : List Token}

/-- Lists in which no slash follows another can be joined, since no such list ends with one. -/
lemma append (left : Spaced first) (right : Spaced second) : Spaced (first ++ second) := by
  induction first with
  | nil => exact right
  | cons token rest ih =>
    refine ⟨?_, ih left.2⟩
    intro slash
    obtain ⟨next, member, other⟩ := left.1 slash
    exact ⟨next, List.mem_head?_append_of_mem_head? member, other⟩

/-- Any token but a slash may come first. -/
lemma cons {token : Token} (other : token.text ≠ "/") (rest : Spaced second) :
    Spaced (token :: second) :=
  ⟨fun slash => absurd slash other, rest⟩

/-- Any terminal but a slash may come first. -/
lemma terminal {text : String} (terminal : Terminal text) (other : text ≠ "/")
    (rest : Spaced second) : Spaced (terminal.token :: second) :=
  cons (terminal.spelled.symm ▸ other) rest

/-- Two tokens next to each other are not both slashes. -/
lemma not_both {before after : List Token} {token next : Token}
    (spaced : Spaced (before ++ token :: next :: after)) (slash : token.text = "/") :
    next.text ≠ "/" := by
  induction before with
  | nil =>
    obtain ⟨found, member, other⟩ := spaced.1 slash
    obtain rfl : next = found := Option.some.inj member
    exact other
  | cons _ before ih => exact ih spaced.2

end Spaced

/-- In a phrase no slash follows another, since an operand stands behind each. -/
lemma Phrase.spaced {category : Category} (phrase : Phrase category)
    (plain : ∀ token ∈ phrase.tokens, token.IsPlain) : Spaced phrase.tokens := by
  induction phrase with
  | number token value kind reads =>
    refine .cons ?_ trivial
    intro slash
    exact plain token (by simp [tokens]) (.inl kind) (by rw [slash]; decide)
  | name token kind =>
    refine .cons ?_ trivial
    intro slash
    exact plain token (by simp [tokens]) (.inr kind) (by rw [slash]; decide)
  | group opening inner closing ih =>
    simp only [tokens, List.forall_mem_cons, List.forall_mem_append] at plain
    exact .terminal opening (by decide)
      ((ih plain.2.1).append (.terminal closing (by decide) trivial))
  | close closing => exact .terminal closing (by decide) trivial
  | item argument comma more ihArgument ihMore =>
    simp only [tokens, List.forall_mem_cons, List.forall_mem_append] at plain
    exact (ihArgument plain.1).append (.terminal comma (by decide) (ihMore plain.2.2))
  | noArgs opening closing =>
    exact .terminal opening (by decide) (.terminal closing (by decide) trivial)
  | args opening first comma more ihFirst ihMore =>
    simp only [tokens, List.forall_mem_cons, List.forall_mem_append] at plain
    exact .terminal opening (by decide)
      ((ihFirst plain.2.1).append (.terminal comma (by decide) (ihMore plain.2.2.2)))
  | noCalls => trivial
  | call list more ihList ihMore =>
    obtain ⟨plainList, plainMore⟩ := List.forall_mem_append.1 plain
    exact (ihList plainList).append (ihMore plainMore)
  | primary head lists ihHead ihLists =>
    obtain ⟨plainHead, plainLists⟩ := List.forall_mem_append.1 plain
    exact (ihHead plainHead).append (ihLists plainLists)
  | ofPrimary phrase ih => exact ih plain
  | ofProduct phrase ih => exact ih plain
  | ofSum phrase ih => exact ih plain
  | noLinks => trivial
  | link op symbol right more ihRight ihMore =>
    simp only [tokens, List.forall_mem_cons, List.forall_mem_append] at plain
    obtain ⟨-, plainRight, plainMore⟩ := plain
    -- the operand behind the operator starts with a number, a name or a parenthesis
    obtain ⟨first, rest, taken, starts⟩ := right.exists_start trivial
    refine ⟨fun _ => ⟨first, by simp [taken], ?_⟩, (ihRight plainRight).append (ihMore plainMore)⟩
    exact starts.text_ne (plainRight first (by simp [taken])) (by decide) (by decide)
  | level first more ihFirst ihMore =>
    obtain ⟨plainFirst, plainMore⟩ := List.forall_mem_append.1 plain
    exact (ihFirst plainFirst).append (ihMore plainMore)

/-- In a sentence no slash follows another. -/
lemma Sentence.spaced {extent : Extent} (sentence : Sentence extent)
    (plain : ∀ token ∈ sentence.tokens, token.IsPlain) : Spaced sentence.tokens := by
  induction sentence with
  | clause keyword word opening condition closing brace body unbrace ih =>
    simp only [tokens, List.forall_mem_cons, List.forall_mem_append] at plain
    obtain ⟨-, -, plainCondition, -, -, plainBody, -, -⟩ := plain
    have last : Spaced [unbrace.token] := .terminal unbrace (by decide) trivial
    have block := (ih plainBody).append last
    have behind := Spaced.terminal closing (by decide) (.terminal brace (by decide) block)
    have head := (condition.spaced plainCondition).append behind
    exact .terminal word (by cases keyword <;> decide) (.terminal opening (by decide) head)
  | assignment target kind noKeyword sign source semicolon =>
    simp only [tokens, List.forall_mem_cons, List.forall_mem_append] at plain
    obtain ⟨plainTarget, -, plainSource, -, -⟩ := plain
    refine .cons ?_ (.terminal sign (by decide)
      ((source.spaced plainSource).append (.terminal semicolon (by decide) trivial)))
    intro slash
    exact plainTarget (.inr kind) (by rw [slash]; decide)
  | effect action noKeyword semicolon =>
    obtain ⟨plainAction, -⟩ := List.forall_mem_append.1 plain
    exact (action.spaced plainAction).append (.terminal semicolon (by decide) trivial)
  | none => trivial
  | more first others ihFirst ihOthers =>
    obtain ⟨plainFirst, plainOthers⟩ := List.forall_mem_append.1 plain
    exact (ihFirst plainFirst).append (ihOthers plainOthers)

end Scriptlet.Grammar
