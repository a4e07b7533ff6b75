import Scriptlet.Proofs.Token.Lexeme

/-!
# What a text is cut into

A text is cut into lexemes that fit (`Lexes`). The scanner cuts off as much as it can, and what it
leaves is either nothing or a place where no lexeme fits (`Stuck`). From this the tokens of a text
are described without the scanner: they spell the text, each of them is well-formed, and each of
them fits what is spelled behind it.
-/

namespace Scriptlet

/-- The characters that the tokens spell together. -/
def Token.spelling (tokens : List Token) : List Char :=
  tokens.flatMap fun token => token.text.toList

/-- No tokens spell nothing. -/
@[simp]
lemma Token.spelling_nil : spelling [] = [] := rfl

/-- Tokens spell the text of the first and what the others spell. -/
@[simp]
lemma Token.spelling_cons (token : Token) (tokens : List Token) :
    spelling (token :: tokens) = token.text.toList ++ spelling tokens := rfl

/-- Tokens one after the other spell their texts one after the other. -/
@[simp]
lemma Token.spelling_append (first second : List Token) :
    spelling (first ++ second) = spelling first ++ spelling second := by
  simp [spelling]

namespace Scanner

/-- The tokens are cut off the front of a text, each of them fitting what is really behind it, and
leave a rest. -/
inductive Lexes : List Char → List Token → List Char → Prop where
  | done (rest : List Char) : Lexes rest [] rest
  | next {text behind rest : List Char} {token : Token} {tokens : List Token}
      (split : text = token.text.toList ++ behind) (formed : token.WellFormed)
      (fits : token.Fits behind) (more : Lexes behind tokens rest) :
      Lexes text (token :: tokens) rest

/-- No lexeme at the front of the text fits what is behind it. -/
def Stuck (text : List Char) : Prop :=
  ∀ (token : Token) (behind : List Char), text = token.text.toList ++ behind → token.WellFormed →
    ¬ token.Fits behind

variable {text behind rest : List Char} {token : Token} {tokens : List Token}

/-- There is no next token exactly if the text is stuck. -/
lemma token?_eq_none_iff {r : Reader} : token? r = none ↔ Stuck r.rest := by
  constructor
  · intro refused token behind split formed fits
    obtain ⟨next, passes, rfl⟩ := Reader.exists_passes split
    have accepts := token?_eq_some_iff.2 ⟨formed, fits, passes⟩
    simp [refused] at accepts
  · intro stuck
    cases accepted : token? r with
    | none => rfl
    | some found =>
      obtain ⟨formed, fits, passes⟩ := token?_eq_some_iff.1 accepted
      exact absurd fits (stuck _ _ passes.1 formed)

/-- Only one lexeme at the front of a text fits. -/
lemma lexeme_unique {token' : Token} {behind' : List Char}
    (same : token.text.toList ++ behind = token'.text.toList ++ behind')
    (formed : token.WellFormed) (fits : token.Fits behind)
    (formed' : token'.WellFormed) (fits' : token'.Fits behind') :
    token = token' ∧ behind = behind' := by
  let start : Reader := ⟨0, token.text.toList ++ behind⟩
  obtain ⟨next, passes, rfl⟩ := Reader.exists_passes (r := start) rfl
  obtain ⟨next', passes', rfl⟩ := Reader.exists_passes (r := start) same
  have first := token?_eq_some_iff.2 ⟨formed, fits, passes⟩
  have second := token?_eq_some_iff.2 ⟨formed', fits', passes'⟩
  obtain ⟨rfl, rfl⟩ := Prod.mk.inj (Option.some.inj (first.symm.trans second))
  exact ⟨rfl, rfl⟩

/-- An empty text is stuck. -/
lemma stuck_nil : Stuck [] := by
  intro token behind split formed
  obtain ⟨c, tail, spelled, -⟩ := formed.exists_opens
  simp [spelled] at split

namespace Lexes

/-- The tokens and the rest spell the text. -/
lemma spelling_append (lexes : Lexes text tokens rest) : text = Token.spelling tokens ++ rest := by
  induction lexes with
  | done rest => rfl
  | next split formed fits more ih => rw [split, ih, Token.spelling_cons, List.append_assoc]

/-- What is cut in two steps is cut together. -/
lemma trans {tokens' : List Token} {middle : List Char} (first : Lexes text tokens middle)
    (second : Lexes middle tokens' rest) : Lexes text (tokens ++ tokens') rest := by
  induction first with
  | done _ => exact second
  | next split formed fits more ih => exact .next split formed fits (ih second)

/-- A text is cut into as many tokens as possible in one way only. -/
lemma unique {tokens' : List Token} {rest' : List Char} (first : Lexes text tokens rest)
    (last : Stuck rest) (second : Lexes text tokens' rest') (last' : Stuck rest') :
    tokens = tokens' ∧ rest = rest' := by
  induction first generalizing tokens' with
  | done rest =>
    cases second with
    | done _ => exact ⟨rfl, rfl⟩
    | next split formed fits more => exact absurd fits (last _ _ split formed)
  | next split formed fits more ih =>
    cases second with
    | done _ => exact absurd fits (last' _ _ split formed)
    | next split' formed' fits' more' =>
      obtain ⟨rfl, rfl⟩ := lexeme_unique (split.symm.trans split') formed fits formed' fits'
      obtain ⟨rfl, rfl⟩ := ih last more'
      exact ⟨rfl, rfl⟩

/-- Cutting a text is a matter of each token and of what the later ones spell. -/
lemma iff_spelling :
    Lexes text tokens rest ↔
      text = Token.spelling tokens ++ rest ∧ (∀ token ∈ tokens, token.WellFormed) ∧
        ∀ before token after, tokens = before ++ token :: after →
          token.Fits (Token.spelling after ++ rest) := by
  constructor
  · intro lexes
    refine ⟨lexes.spelling_append, ?_⟩
    induction lexes with
    | done rest => simp
    | @next text behind rest token tokens split formed fits more ih =>
      obtain ⟨all, each⟩ := ih
      refine ⟨List.forall_mem_cons.2 ⟨formed, all⟩, ?_⟩
      intro before token' after parts
      cases before with
      | nil =>
        obtain ⟨rfl, rfl⟩ := List.cons.inj parts
        exact more.spelling_append ▸ fits
      | cons _ before => exact each before token' after (List.cons.inj parts).2
  · rintro ⟨rfl, all, each⟩
    induction tokens with
    | nil => exact .done _
    | cons token tokens ih =>
      obtain ⟨formed, all⟩ := List.forall_mem_cons.1 all
      refine .next (List.append_assoc ..) formed (each [] token tokens rfl) (ih all ?_)
      intro before token' after parts
      exact each (token :: before) token' after (by rw [parts]; rfl)

end Lexes

/-- What makes a scanner stop where the rest of a text is stuck, if something is left. -/
def failureAt (offset : Nat) (rest : List Char) : Option LexError :=
  if rest = [] then none else some ⟨offset, String.ofList (Text.firstLine rest)⟩

/-- With enough rounds a scanner cuts off what can be cut off, and it reports an error exactly if
something is left. -/
lemma drainWithin_lexes {rounds : Nat} {r : Reader} (enough : r.rest.length < rounds) :
    ∃ rest, Stuck rest ∧ Lexes r.rest (drainWithin rounds ⟨r, false⟩).tokens rest ∧
      (drainWithin rounds ⟨r, false⟩).failure =
        failureAt (r.offset +
          Text.byteLength (Token.spelling (drainWithin rounds ⟨r, false⟩).tokens)) rest := by
  induction rounds generalizing r with
  | zero => exact absurd enough (Nat.not_lt_zero _)
  | succ rounds ih =>
    by_cases empty : r.rest = []
    · have stops : next? ⟨r, false⟩ = none := by simp [next?, Reader.atEnd, empty]
      refine ⟨[], stuck_nil, ?_, ?_⟩
      · simp only [drainWithin, stops]
        exact empty ▸ .done _
      · simp only [drainWithin, stops]
        rfl
    · cases accepted : token? r with
      | none =>
        have stops : next? ⟨r, false⟩ =
            some (.error ⟨r.offset, String.ofList (Text.firstLine r.rest)⟩, ⟨r, true⟩) := by
          simp [next?, accepted, Reader.atEnd, empty]
        refine ⟨r.rest, token?_eq_none_iff.1 accepted, ?_, ?_⟩
        · simp only [drainWithin, stops]
          exact .done _
        · simp only [drainWithin, stops, failureAt, if_neg empty, Token.spelling_nil,
            Text.byteLength, Nat.add_zero]
      | some found =>
        obtain ⟨token, reader⟩ := found
        obtain ⟨formed, fits, passes⟩ := token?_eq_some_iff.1 accepted
        have goes : next? ⟨r, false⟩ = some (.ok token, ⟨reader, false⟩) := by
          simp [next?, accepted, Reader.atEnd, empty]
        -- no token is empty, so that the rounds that are left suffice for the rest
        have shorter : reader.rest.length < rounds := by
          obtain ⟨c, tail, spelled, -⟩ := formed.exists_opens
          have split := congrArg List.length passes.1
          simp only [spelled, List.length_append, List.length_cons] at split
          omega
        obtain ⟨rest, stuck, lexes, failure⟩ := ih shorter
        refine ⟨rest, stuck, ?_, ?_⟩
        · simp only [drainWithin, goes]
          exact .next passes.1 formed fits lexes
        · simp only [drainWithin, goes, failure, passes.2, Token.spelling_cons,
            Text.byteLength_append, Nat.add_assoc]

end Scanner

open Scanner

/-- Every text is cut up as far as possible, and the tokens are handed out if nothing is left. -/
lemma tokenize_lexes (source : String) :
    ∃ tokens rest, Stuck rest ∧ Lexes source.toList tokens rest ∧
      tokenize source =
        (match failureAt (Text.byteLength (Token.spelling tokens)) rest with
        | some e => .error e
        | none => .ok tokens) := by
  obtain ⟨rest, stuck, lexes, failure⟩ :=
    drainWithin_lexes (Nat.lt_succ_self (Reader.ofText source).rest.length)
  refine ⟨_, rest, stuck, lexes, ?_⟩
  have start : (Reader.ofText source).offset = 0 := rfl
  rw [start, Nat.zero_add] at failure
  rw [← failure]
  rfl

/-- A text is cut into tokens exactly if its lexemes leave nothing. -/
lemma tokenize_eq_ok_iff_lexes {source : String} {tokens : List Token} :
    tokenize source = .ok tokens ↔ Lexes source.toList tokens [] := by
  obtain ⟨tokens', rest, stuck, lexes, result⟩ := tokenize_lexes source
  rw [result]
  constructor
  · intro handed
    by_cases empty : rest = []
    · subst empty
      simp only [failureAt, if_true, Except.ok.injEq] at handed
      exact handed ▸ lexes
    · simp [failureAt, empty] at handed
  · intro lexes'
    obtain ⟨rfl, rfl⟩ := lexes'.unique stuck_nil lexes stuck
    simp [failureAt]

/-- A text is refused at the first place where it is stuck. -/
lemma tokenize_eq_error_iff_lexes {source : String} {e : LexError} :
    tokenize source = .error e ↔
      ∃ tokens rest, Lexes source.toList tokens rest ∧ Stuck rest ∧ rest ≠ [] ∧
        e = ⟨Text.byteLength (Token.spelling tokens), String.ofList (Text.firstLine rest)⟩ := by
  obtain ⟨tokens, rest, stuck, lexes, result⟩ := tokenize_lexes source
  rw [result]
  constructor
  · intro refused
    by_cases empty : rest = []
    · simp [failureAt, empty] at refused
    · simp only [failureAt, if_neg empty, Except.error.injEq] at refused
      exact ⟨tokens, rest, lexes, stuck, empty, refused.symm⟩
  · rintro ⟨tokens', rest', lexes', stuck', left, rfl⟩
    obtain ⟨rfl, rfl⟩ := lexes.unique stuck lexes' stuck'
    simp [failureAt, left]

/-- The tokens of a text are those that spell it, of which every one is well-formed and fits what
the later ones spell. -/
theorem tokenize_eq_ok_iff (source : String) (tokens : List Token) :
    tokenize source = .ok tokens ↔
      Token.spelling tokens = source.toList ∧ (∀ token ∈ tokens, token.WellFormed) ∧
        ∀ before token after, tokens = before ++ token :: after →
          token.Fits (Token.spelling after) := by
  rw [tokenize_eq_ok_iff_lexes, Lexes.iff_spelling]
  simp only [List.append_nil]
  rw [eq_comm]

/-- Without a line break behind them two slashes are two symbols, and with one they are a
comment. -/
example :
    tokenize "1//x" =
      .ok [⟨.number, "1"⟩, ⟨.punctuation, "/"⟩, ⟨.punctuation, "/"⟩, ⟨.identifier, "x"⟩] ∧
    tokenize "1//x\n" = .ok [⟨.number, "1"⟩, ⟨.comment, "//x\n"⟩] :=
  ⟨rfl, rfl⟩

end Scriptlet
