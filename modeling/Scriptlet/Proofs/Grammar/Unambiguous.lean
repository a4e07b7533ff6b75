import Scriptlet.Proofs.Grammar.Completeness

/-!
# The grammar is unambiguous

Since a phrase is read back whatever follows it, two phrases at the front of the same tokens take
the same number of them (`Phrase.append_inj`). So the tokens of a derivation settle where each of
its parts ends, and by induction the derivation itself (`Phrase.eq_of_tokens_eq`,
`Sentence.eq_of_tokens_eq`).
-/

namespace Scriptlet.Grammar
open Scriptlet.Parser
open Token (front?)

/-- A derived row of statements is read in front of any program. -/
lemma program_append : ∀ (row : Sentence .row), (∀ token ∈ row.tokens, token.IsPlain) →
    ∀ rest, program (row.tokens ++ rest) = (do return row.value ++ (← program)) rest
  | .none, _, rest => by
    rw [bind_apply]
    cases read : program rest with
    | ok stmts left => simp [Sentence.tokens, Sentence.value, read]
    | error cause left => simp [Sentence.tokens, read]
  | .more first others, plain, rest => by
    simp only [Sentence.tokens, List.forall_mem_append] at plain
    have head := read_sentence first plain.1 (others.tokens ++ rest)
    have step : programItem? (first.tokens ++ (others.tokens ++ rest)) =
        .ok (some first.value) (others.tokens ++ rest) := by
      obtain ⟨start, left, taken, -⟩ := first.exists_start plain.1
      refine bind_eq_ok_iff.2 ⟨_, _, rfl, ?_⟩
      rw [if_neg (by simp [taken])]
      exact bind_eq_ok_iff.2 ⟨_, _, head, rfl⟩
    have more := program_append others plain.2 rest
    simp only [Sentence.tokens, List.append_assoc]
    rw [program_eq, many_of_some stepAdvances_programItem? step, bind_apply, ← program_eq, more,
      bind_apply, bind_apply]
    cases program rest with
    | ok stmts left => rfl
    | error cause left => rfl

/-- A derived row of statements is read as a program. -/
lemma program_tokens (row : Sentence .row) (plain : ∀ token ∈ row.tokens, token.IsPlain) :
    program row.tokens = .ok row.value [] := by
  have read := program_append row plain []
  rw [List.append_nil] at read
  rw [read]
  refine bind_eq_ok_iff.2 ⟨_, _, rfl, ?_⟩
  simp

/-! ## Phrases -/

/-- Two phrases at the front of the same tokens, neither of which can be extended, take the same. -/
lemma Phrase.append_inj {category : Category} {a b : Phrase category} {left right : List Token}
    (plain : ∀ token ∈ a.tokens, token.IsPlain) (plain' : ∀ token ∈ b.tokens, token.IsPlain)
    (follow : Follow category left) (follow' : Follow category right)
    (same : a.tokens ++ left = b.tokens ++ right) : a.tokens = b.tokens ∧ left = right := by
  have read := read_phrase a plain follow
  rw [same, read_phrase b plain' follow'] at read
  obtain rfl : right = left := (Parsed.ok.inj read).2
  exact ⟨List.append_cancel_right same, rfl⟩

/-- The end extends no phrase. -/
lemma follow_nil (category : Category) : Follow category [] := by
  intro text _
  simp

/-- At the end of the tokens, the operators of a level do not extend the operand before them. -/
lemma follow_last_links {precedence : Precedence} (more : Phrase (.links precedence)) :
    Follow (.operand precedence) more.tokens := by
  simpa using follow_links more (follow_nil _)

/-- An expression does not start with a closing parenthesis. -/
lemma tokens_append_ne_close {phrase : Phrase .expr}
    (plain : ∀ token ∈ phrase.tokens, token.IsPlain) (closing : Terminal ")")
    (left right : List Token) : phrase.tokens ++ left ≠ closing.token :: right := by
  intro same
  have notClosed := front?_expr_ne plain left ")" (by decide) (by decide)
  rw [same, Token.front?_cons, closing.spelled] at notClosed
  exact notClosed rfl

/-- Phrases with the same tokens are the same. -/
theorem Phrase.eq_of_tokens_eq {category : Category} {a b : Phrase category}
    (plain : ∀ token ∈ a.tokens, token.IsPlain) (same : a.tokens = b.tokens) : a = b := by
  have plain' : ∀ token ∈ b.tokens, token.IsPlain := same ▸ plain
  induction a with
  | number token value kind reads =>
    cases b with
    | number _ _ _ reads' =>
      simp only [tokens, List.cons.injEq, and_true] at same
      subst same
      simp only [reads, Option.some.injEq] at reads'
      subst reads'
      rfl
    | name _ kind' =>
      simp only [tokens, List.cons.injEq, and_true] at same
      simp [same, kind'] at kind
    | group opening inner closing => simp [tokens] at same
  | name token kind =>
    cases b with
    | number _ _ kind' _ =>
      simp only [tokens, List.cons.injEq, and_true] at same
      simp [same, kind'] at kind
    | name _ _ =>
      simp only [tokens, List.cons.injEq, and_true] at same
      subst same
      rfl
    | group opening inner closing => simp [tokens] at same
  | group opening inner closing ih =>
    cases b with
    | number _ _ _ _ => simp [tokens] at same
    | name _ _ => simp [tokens] at same
    | group opening' inner' closing' =>
      simp only [tokens, List.cons.injEq, List.forall_mem_cons, List.forall_mem_append]
        at same plain plain'
      obtain ⟨inside, last⟩ := List.append_inj' same.2 rfl
      obtain rfl := ih plain.2.1 inside plain'.2.1
      obtain rfl := Terminal.ext same.1
      obtain rfl := Terminal.ext (List.cons.inj last).1
      rfl
  | close closing =>
    cases b with
    | close closing' =>
      obtain rfl := Terminal.ext (List.cons.inj same).1
      rfl
    | item argument comma more =>
      -- an argument never starts with the parenthesis that would close the list
      simp only [tokens, List.forall_mem_append] at plain'
      exact absurd same.symm (tokens_append_ne_close plain'.1 closing _ _)
  | item argument comma more ihArgument ihMore =>
    simp only [tokens, List.forall_mem_append, List.forall_mem_cons] at plain
    cases b with
    | close closing =>
      exact absurd same (tokens_append_ne_close plain.1 closing _ _)
    | item argument' comma' more' =>
      simp only [tokens, List.forall_mem_append, List.forall_mem_cons] at plain'
      obtain ⟨first, rest⟩ := append_inj plain.1 plain'.1 (follow_terminal comma _ (by decide))
        (follow_terminal comma' _ (by decide)) same
      simp only [List.cons.injEq] at rest
      obtain rfl := ihArgument plain.1 first plain'.1
      obtain rfl := Terminal.ext rest.1
      obtain rfl := ihMore plain.2.2 rest.2 plain'.2.2
      rfl
  | noArgs opening closing =>
    cases b with
    | noArgs opening' closing' =>
      simp only [tokens, List.cons.injEq, and_true] at same
      obtain rfl := Terminal.ext same.1
      obtain rfl := Terminal.ext same.2
      rfl
    | args opening' argument comma more =>
      simp only [tokens, List.forall_mem_append, List.forall_mem_cons] at plain'
      exact absurd (List.cons.inj same).2.symm (tokens_append_ne_close plain'.2.1 closing _ _)
  | args opening argument comma more ihArgument ihMore =>
    simp only [tokens, List.forall_mem_append, List.forall_mem_cons] at plain
    cases b with
    | noArgs opening' closing =>
      exact absurd (List.cons.inj same).2 (tokens_append_ne_close plain.2.1 closing _ _)
    | args opening' argument' comma' more' =>
      simp only [tokens, List.cons.injEq, List.forall_mem_append, List.forall_mem_cons]
        at plain' same
      obtain ⟨first, rest⟩ := append_inj plain.2.1 plain'.2.1 (follow_terminal comma _ (by decide))
        (follow_terminal comma' _ (by decide)) same.2
      simp only [List.cons.injEq] at rest
      obtain rfl := Terminal.ext same.1
      obtain rfl := ihArgument plain.2.1 first plain'.2.1
      obtain rfl := Terminal.ext rest.1
      obtain rfl := ihMore plain.2.2.2 rest.2 plain'.2.2.2
      rfl
  | noCalls =>
    cases b with
    | noCalls => rfl
    | call list more =>
      have front := front?_args list more.tokens
      rw [show list.tokens ++ more.tokens = [] from same.symm] at front
      cases front
  | call list more ihList ihMore =>
    cases b with
    | noCalls =>
      have front := front?_args list more.tokens
      rw [show list.tokens ++ more.tokens = [] from same] at front
      cases front
    | call list' more' =>
      simp only [tokens, List.forall_mem_append] at plain plain'
      obtain ⟨first, rest⟩ := append_inj plain.1 plain'.1 (.trivial rfl _) (.trivial rfl _) same
      obtain rfl := ihList plain.1 first plain'.1
      obtain rfl := ihMore plain.2 rest plain'.2
      rfl
  | primary head lists ihHead ihLists =>
    cases b with
    | primary head' lists' =>
      simp only [tokens, List.forall_mem_append] at plain plain'
      obtain ⟨first, rest⟩ := append_inj plain.1 plain'.1 (.trivial rfl _) (.trivial rfl _) same
      obtain rfl := ihHead plain.1 first plain'.1
      obtain rfl := ihLists plain.2 rest plain'.2
      rfl
  | ofPrimary phrase ih =>
    cases b with
    | ofPrimary phrase' => rw [ih plain same plain']
  | ofProduct phrase ih =>
    cases b with
    | ofProduct phrase' => rw [ih plain same plain']
  | ofSum phrase ih =>
    cases b with
    | ofSum phrase' => rw [ih plain same plain']
  | noLinks =>
    cases b with
    | noLinks => rfl
    | link op symbol right more => simp [tokens] at same
  | link op symbol right more ihRight ihMore =>
    cases b with
    | noLinks => simp [tokens] at same
    | link op' symbol' right' more' =>
      simp only [tokens, List.cons.injEq, List.forall_mem_append, List.forall_mem_cons]
        at plain plain' same
      obtain ⟨rfl, same⟩ := same
      obtain ⟨first, rest⟩ := append_inj plain.2.1 plain'.2.1 (follow_last_links more)
        (follow_last_links more') same
      obtain rfl := ihRight plain.2.1 first plain'.2.1
      obtain rfl := ihMore plain.2.2 rest plain'.2.2
      rfl
  | level first more ihFirst ihMore =>
    cases b with
    | level first' more' =>
      simp only [tokens, List.forall_mem_append] at plain plain'
      obtain ⟨head, rest⟩ := append_inj plain.1 plain'.1 (follow_last_links more)
        (follow_last_links more') same
      obtain rfl := ihFirst plain.1 head plain'.1
      obtain rfl := ihMore plain.2 rest plain'.2
      rfl

/-! ## Sentences -/

/-- The keywords are written differently. -/
lemma Keyword.text_injective {keyword other : Keyword} (same : keyword.text = other.text) :
    keyword = other := by
  cases keyword <;> cases other <;> first | rfl | exact absurd same (by decide)

/-- An expression that starts with no keyword does not start like a clause. -/
lemma tokens_append_ne_word {action : Phrase .expr}
    (noKeyword : ∀ keyword : Keyword, front? action.tokens ≠ some keyword.text)
    {keyword : Keyword} (word : Terminal keyword.text) (left right : List Token) :
    action.tokens ++ left ≠ word.token :: right := by
  intro same
  obtain ⟨first, rest, taken, -⟩ := action.exists_start trivial
  rw [taken] at same
  have isWord : first = word.token := (List.cons.inj same).1
  exact noKeyword keyword (by rw [taken, Token.front?_cons, isWord, word.spelled])

/-- An expression up to a semicolon is not a name up to an equals sign. -/
lemma tokens_append_ne_assignment {action : Phrase .expr} {target : Token}
    (kind : target.kind = .identifier) (named : target.IsPlain)
    (plain : ∀ token ∈ action.tokens, token.IsPlain) (sign : Terminal "=")
    (semicolon : Terminal ";") (rest : List Token) :
    action.tokens ++ [semicolon.token] ≠ target :: sign.token :: rest := by
  intro same
  have named' : ∀ token ∈ (Phrase.ofName target kind).tokens, token.IsPlain := by
    simpa [Phrase.ofName, Phrase.tokens] using named
  obtain ⟨-, ends⟩ := Phrase.append_inj plain named' (follow_terminal semicolon [] (by decide))
    (follow_terminal sign rest (by decide)) same
  have clash : semicolon.token = sign.token := (List.cons.inj ends).1
  have texts := congrArg Token.text clash
  rw [semicolon.spelled, sign.spelled] at texts
  exact absurd texts (by decide)

/-- Two statements at the front of the same tokens take the same. -/
lemma Sentence.append_inj {a b : Sentence .one} {left right : List Token}
    (plain : ∀ token ∈ a.tokens, token.IsPlain) (plain' : ∀ token ∈ b.tokens, token.IsPlain)
    (same : a.tokens ++ left = b.tokens ++ right) : a.tokens = b.tokens ∧ left = right := by
  have read := read_sentence a plain left
  rw [same, read_sentence b plain' right] at read
  obtain rfl : right = left := (Parsed.ok.inj read).2
  exact ⟨List.append_cancel_right same, rfl⟩

/-- Sentences with the same tokens are the same. -/
theorem Sentence.eq_of_tokens_eq {extent : Extent} {a b : Sentence extent}
    (plain : ∀ token ∈ a.tokens, token.IsPlain) (same : a.tokens = b.tokens) : a = b := by
  have plain' : ∀ token ∈ b.tokens, token.IsPlain := same ▸ plain
  induction a with
  | clause keyword word opening condition closing brace body unbrace ih =>
    cases b with
    | clause keyword' word' opening' condition' closing' brace' body' unbrace' =>
      simp only [tokens, List.cons.injEq, List.forall_mem_cons, List.forall_mem_append]
        at plain plain' same
      obtain ⟨-, -, plain, -, -, bodyPlain, -⟩ := plain
      obtain ⟨-, -, plain', -, -, bodyPlain', -⟩ := plain'
      obtain ⟨sameWord, sameOpening, same⟩ := same
      obtain rfl : keyword = keyword' :=
        Keyword.text_injective (by rw [← word.spelled, ← word'.spelled, sameWord])
      obtain rfl := Terminal.ext sameWord
      obtain rfl := Terminal.ext sameOpening
      obtain ⟨sameCondition, rest⟩ := Phrase.append_inj plain plain'
        (follow_terminal closing _ (by decide)) (follow_terminal closing' _ (by decide)) same
      simp only [List.cons.injEq] at rest
      obtain ⟨sameClosing, sameBrace, rest⟩ := rest
      obtain ⟨sameBody, last⟩ := List.append_inj' rest rfl
      obtain rfl := Phrase.eq_of_tokens_eq plain sameCondition
      obtain rfl := Terminal.ext sameClosing
      obtain rfl := Terminal.ext sameBrace
      obtain rfl := ih bodyPlain sameBody bodyPlain'
      obtain rfl := Terminal.ext (List.cons.inj last).1
      rfl
    | assignment target kind noKeyword sign source semicolon =>
      have isWord : word.token = target := (List.cons.inj same).1
      exact absurd (isWord ▸ word.spelled) (noKeyword keyword)
    | effect action noKeyword semicolon =>
      exact absurd same.symm (tokens_append_ne_word noKeyword word _ _)
  | assignment target kind noKeyword sign source semicolon =>
    simp only [tokens, List.forall_mem_cons, List.forall_mem_append] at plain
    cases b with
    | clause keyword word opening condition closing brace body unbrace =>
      have isWord : target = word.token := (List.cons.inj same).1
      exact absurd (isWord ▸ word.spelled) (noKeyword keyword)
    | assignment target' kind' noKeyword' sign' source' semicolon' =>
      simp only [tokens, List.cons.injEq] at same
      obtain ⟨rfl, sameSign, same⟩ := same
      obtain ⟨sameSource, last⟩ := List.append_inj' same rfl
      obtain rfl := Terminal.ext sameSign
      obtain rfl := Phrase.eq_of_tokens_eq plain.2.2.1 sameSource
      obtain rfl := Terminal.ext (List.cons.inj last).1
      rfl
    | effect action noKeyword' semicolon' =>
      simp only [tokens, List.forall_mem_append] at plain'
      exact absurd same.symm
        (tokens_append_ne_assignment kind plain.1 plain'.1 sign semicolon' _)
  | effect action noKeyword semicolon =>
    simp only [tokens, List.forall_mem_append] at plain
    cases b with
    | clause keyword word opening condition closing brace body unbrace =>
      exact absurd same (tokens_append_ne_word noKeyword word _ _)
    | assignment target kind noKeyword' sign source semicolon' =>
      simp only [tokens, List.forall_mem_cons] at plain'
      exact absurd same (tokens_append_ne_assignment kind plain'.1 plain.1 sign semicolon _)
    | effect action' noKeyword' semicolon' =>
      obtain ⟨sameAction, last⟩ := List.append_inj' same rfl
      obtain rfl := Phrase.eq_of_tokens_eq plain.1 sameAction
      obtain rfl := Terminal.ext (List.cons.inj last).1
      rfl
  | none =>
    cases b with
    | none => rfl
    | more first others =>
      simp only [tokens, List.forall_mem_append] at plain'
      obtain ⟨start, rest, taken, -⟩ := first.exists_start plain'.1
      simp [tokens, taken] at same
  | more first others ihFirst ihOthers =>
    simp only [tokens, List.forall_mem_append] at plain
    cases b with
    | none =>
      obtain ⟨start, rest, taken, -⟩ := first.exists_start plain.1
      simp [tokens, taken] at same
    | more first' others' =>
      simp only [tokens, List.forall_mem_append] at plain'
      obtain ⟨head, rest⟩ := append_inj plain.1 plain'.1 same
      obtain rfl := ihFirst plain.1 head plain'.1
      obtain rfl := ihOthers plain.2 rest plain'.2
      rfl

end Scriptlet.Grammar
