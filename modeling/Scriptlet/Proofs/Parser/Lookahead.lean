import Scriptlet.Proofs.Parser.Recursion

/-!
# One token of lookahead

A parser goes by the tokens that it takes and by the first of those that it leaves, and an error
says truly what this first one is (`Peeks`). Whatever stands behind it makes no difference. As with
agreement, the property is proved up to a number of tokens (`LooksAhead`), and a token that is
accepted before a nested expression or statement raises this number by one.
-/

namespace Scriptlet

/-- What the error says was met, if it says anything. -/
def ParseError.found? : ParseError → Option Found
  | .expectedSymbol _ found | .expectedPrimary found | .expectedClosing found
  | .unresolved found => some found
  | .expectedBlockEnd | .expectedVariable => none

/-- The error is about the front of the tokens. -/
structure ParseError.IsAbout (cause : ParseError) (tokens : List Token) : Prop where
  found : ∀ found ∈ cause.found?, found = Found.ofTokens tokens
  ended : cause = .expectedBlockEnd → tokens = []

/-- An error that says what stands at the front is about it. -/
lemma ParseError.isAbout_of_found {cause : ParseError} {tokens : List Token}
    (met : cause.found? = some (Found.ofTokens tokens)) : cause.IsAbout tokens where
  found found member := by
    rw [met] at member
    exact (Option.some.inj member).symm
  ended same := by
    rw [same] at met
    cases met

/-- A token is met exactly if it stands at the front. -/
lemma Found.ofTokens_eq_token_iff {tokens : List Token} {text : String} :
    Found.ofTokens tokens = .token text ↔ Token.front? tokens = some text := by
  cases tokens <;> simp [Found.ofTokens]

/-- The end is met exactly if no token is left. -/
lemma Found.ofTokens_eq_endOfInput_iff {tokens : List Token} :
    Found.ofTokens tokens = .endOfInput ↔ tokens = [] := by
  cases tokens <;> simp [Found.ofTokens]

/-- What is met depends on the first token only. -/
lemma Found.ofTokens_congr {tokens others : List Token} (same : others.head? = tokens.head?) :
    Found.ofTokens others = Found.ofTokens tokens := by
  cases tokens with
  | nil => rw [List.head?_eq_none_iff.1 same]
  | cons next rest =>
    cases others with
    | nil => cases same
    | cons other rest' =>
      cases same
      rfl

namespace Parsed

variable {α : Type}

/-- The same result with other tokens left. -/
def leaving (rest : List Token) : Parsed α → Parsed α
  | .ok value _ => .ok value rest
  | .error cause _ => .error cause rest

/-- An error is about the tokens that are left. -/
def Honest : Parsed α → Prop
  | .ok _ _ => True
  | .error cause rest => cause.IsAbout rest

/-- A result with its own rest is unchanged. -/
lemma leaving_self {result : Parsed α} {rest : List Token} (left : result.rest = rest) :
    result.leaving rest = result := by
  subst left
  cases result <;> rfl

end Parsed

namespace Parser
open Token (front?)

variable {α β : Type}

/-- With some tokens taken, the parser goes by the first of the others at most. -/
structure Peeks (p : Parser α) (taken rest : List Token) : Prop where
  honest : (p (taken ++ rest)).Honest
  same : ∀ {rest'}, rest'.head? = rest.head? →
    p (taken ++ rest') = (p (taken ++ rest)).leaving rest'

/-- Wherever the parser stops after less than `n` tokens, it goes by one more token at most. -/
structure LooksAhead (n : Nat) (p : Parser α) : Prop where
  recedes : Recedes p
  peeks : ∀ {taken rest}, taken.length < n → (p (taken ++ rest)).rest = rest → Peeks p taken rest

/-! ## Combinators -/

/-- The first token behind some others depends on the first of the rest at most. -/
lemma head?_append_congr {rest rest' : List Token} (same : rest'.head? = rest.head?)
    (taken : List Token) : (taken ++ rest').head? = (taken ++ rest).head? := by
  cases taken with
  | nil => exact same
  | cons next taken => rfl

/-- A suffix that reaches into the tokens taken divides them. -/
lemma exists_split {taken between rest : List Token} (outer : between <:+ taken ++ rest)
    (inner : rest <:+ between) :
    ∃ front back, taken = front ++ back ∧ between = back ++ rest := by
  obtain ⟨front, whole⟩ := outer
  obtain ⟨back, rfl⟩ := inner
  rw [← List.append_assoc] at whole
  exact ⟨front, back, (List.append_cancel_right whole).symm, rfl⟩

section Bind

variable {p : Parser α} {f : α → Parser β} {taken rest : List Token}

/-- Two parsers in a row go by one more token where they stop, if the first one does where it stops
and the second one does behind it. -/
lemma peeks_bind (here : Recedes p) (there : ∀ value, Recedes (f value))
    (left : ((p >>= f) (taken ++ rest)).rest = rest)
    (first : ∀ {front back}, taken = front ++ back →
      (p (taken ++ rest)).rest = back ++ rest → Peeks p front (back ++ rest))
    (second : ∀ {front back value}, taken = front ++ back →
      p (taken ++ rest) = .ok value (back ++ rest) →
      (f value (back ++ rest)).rest = rest → Peeks (f value) back rest) :
    Peeks (p >>= f) taken rest := by
  rw [bind_apply] at left
  cases read : p (taken ++ rest) with
  | error cause between =>
    rw [read] at left
    obtain rfl : between = rest := left
    have stops := first (List.append_nil taken).symm (by rw [read]; rfl)
    constructor
    · have honest := stops.honest
      rw [List.nil_append, read] at honest
      rw [bind_apply, read]
      exact honest
    · intro rest' same
      have again := stops.same same
      rw [List.nil_append, read] at again
      rw [bind_apply, bind_apply, read, again]
      rfl
  | ok value between =>
    rw [read] at left
    have outer := here.suffix read
    have inner : rest <:+ between := by
      have suffix := there value between
      rwa [left] at suffix
    obtain ⟨front, back, split, rfl⟩ := exists_split outer inner
    have stops := first split (by rw [read]; rfl)
    have stops' := second split read left
    subst split
    rw [List.append_assoc] at read
    constructor
    · rw [List.append_assoc, bind_apply, read]
      exact stops'.honest
    · intro rest' same
      -- the first parser goes by a token that the second one takes, or by the one where both stop
      have again := stops.same (head?_append_congr same back)
      rw [read] at again
      rw [List.append_assoc, List.append_assoc, bind_apply, bind_apply, read, again]
      exact stops'.same same

end Bind

variable {n : Nat}

/-- One parser after another looks ahead no further than each of them does. -/
lemma LooksAhead.bind {p : Parser α} {f : α → Parser β} (here : LooksAhead n p)
    (there : ∀ value, LooksAhead n (f value)) : LooksAhead n (p >>= f) where
  recedes := here.recedes.bind fun value => (there value).recedes
  peeks {taken rest} short left := by
    apply peeks_bind here.recedes (fun value => (there value).recedes) left
    · intro front back split stopped
      subst split
      rw [List.length_append] at short
      rw [List.append_assoc] at stopped
      exact here.peeks (by omega) stopped
    · intro front back value split read stopped
      subst split
      rw [List.length_append] at short
      exact (there value).peeks (by omega) stopped

/-- What is known of longer lists is known of shorter ones. -/
lemma LooksAhead.mono {m : Nat} {p : Parser α} (looks : LooksAhead n p) (le : m ≤ n) :
    LooksAhead m p where
  recedes := looks.recedes
  peeks short left := looks.peeks (Nat.lt_of_lt_of_le short le) left

/-- A parser that takes nothing goes by the first token if it does so at the front. -/
lemma looksAhead_of_still {p : Parser α} (still : ∀ tokens, (p tokens).rest = tokens)
    (honest : ∀ tokens, (p tokens).Honest)
    (same : ∀ {tokens others}, others.head? = tokens.head? → p others = (p tokens).leaving others) :
    LooksAhead n p where
  recedes tokens := by simp [still]
  peeks {taken rest} _ left := by
    rw [still] at left
    obtain rfl : taken = [] := by simpa using left
    exact ⟨honest _, same⟩

/-- A constant parser does not look at its tokens. -/
lemma looksAhead_pure (value : α) : LooksAhead n (pure value : Parser α) :=
  looksAhead_of_still (fun _ => rfl) (fun _ => trivial) fun _ => rfl

/-- A complaint looks at the first token, which it has to be about. -/
lemma looksAhead_fail {cause : Found → ParseError}
    (about : ∀ tokens, (cause (Found.ofTokens tokens)).IsAbout tokens) :
    LooksAhead n (fail cause : Parser α) := by
  refine looksAhead_of_still (fun _ => rfl) (fun tokens => about tokens) ?_
  intro tokens others same
  rw [fail, fail, Found.ofTokens_congr same]
  rfl

/-- A complaint that says what was met looks at the first token. -/
lemma looksAhead_fail_found {cause : Found → ParseError}
    (met : ∀ found, (cause found).found? = some found) :
    LooksAhead n (fail cause : Parser α) :=
  looksAhead_fail fun _ => ParseError.isAbout_of_found (met _)

/-! ## Choices -/

/-- Accepting a text is a decision by the token at the front, which is dropped if it is accepted. -/
lemma accept_bind_eq (text : String) (yes no : Parser α) (tokens : List Token) :
    (do if ← accept text then yes else no : Parser α) tokens =
      if front? tokens = some text then yes tokens.tail else no tokens := by
  rw [bind_apply, accept_eq]
  by_cases here : front? tokens = some text <;> simp [here]

/-- Seeing a text is a decision by the token at the front, which stays. -/
lemma sees_bind_eq (text : String) (yes no : Parser α) (tokens : List Token) :
    (do if ← sees text then yes else no : Parser α) tokens =
      if front? tokens = some text then yes tokens else no tokens := by
  rw [bind_apply, sees_eq]
  by_cases here : front? tokens = some text <;> simp [here]

/-- On every list that starts with the token, the parser is another one, or it is another one behind
the token. -/
def Decides (p : Parser α) (stays behind : Parser α → Prop) (next : Token) : Prop :=
  (∃ q, stays q ∧ ∀ rest, p (next :: rest) = q (next :: rest)) ∨
    ∃ q, behind q ∧ ∀ rest, p (next :: rest) = q rest

/-- On a given first token, accepting a text leads to one of two parsers, behind it or at it. -/
lemma decides_accept {text : String} {yes no : Parser α} {stays behind : Parser α → Prop}
    (inside : behind yes) (other : stays no) (next : Token) :
    Decides (do if ← accept text then yes else no) stays behind next := by
  by_cases here : next.text = text
  · refine .inr ⟨yes, inside, fun rest => ?_⟩
    rw [accept_bind_eq, if_pos (by simpa using here), List.tail_cons]
  · refine .inl ⟨no, other, fun rest => ?_⟩
    rw [accept_bind_eq, if_neg (by simpa using here)]

/-- On a given first token, seeing a text leads to one of two parsers at it. -/
lemma decides_sees {text : String} {yes no : Parser α} {stays behind : Parser α → Prop}
    (seen : stays yes) (other : stays no) (next : Token) :
    Decides (do if ← sees text then yes else no) stays behind next := by
  by_cases here : next.text = text
  · refine .inl ⟨yes, seen, fun rest => ?_⟩
    rw [sees_bind_eq, if_pos (by simpa using here)]
  · refine .inl ⟨no, other, fun rest => ?_⟩
    rw [sees_bind_eq, if_neg (by simpa using here)]

/-- On a given first token, the end is not reached. -/
lemma decides_atEnd {yes no : Parser α} {stays behind : Parser α → Prop} (more : stays no)
    (next : Token) : Decides (do if ← atEnd then yes else no) stays behind next :=
  .inl ⟨no, more, fun _ => rfl⟩

/-- Two parsers that agree on what is taken and the next token go by as many tokens. -/
lemma Peeks.of_agree {p q : Parser α} {taken taken' rest : List Token}
    (peeks : Peeks q taken' rest)
    (agree : ∀ {rest'}, rest'.head? = rest.head? → p (taken ++ rest') = q (taken' ++ rest')) :
    Peeks p taken rest where
  honest := by
    rw [agree rfl]
    exact peeks.honest
  same {rest'} same := by
    rw [agree same, agree rfl]
    exact peeks.same same

/-- A parser that decides by the first token looks as far as those that it decides between. Behind
the token it is enough to look ahead after one token less. -/
lemma looksAhead_of_decides {p : Parser α} (recedes : Recedes p) (ended : 0 < n → (p []).Honest)
    (decides : ∀ next, Decides p (LooksAhead n) (LooksAhead (n - 1)) next) : LooksAhead n p where
  recedes := recedes
  peeks {taken rest} short left := by
    cases taken with
    | nil =>
      cases rest with
      | nil =>
        refine ⟨ended short, fun {rest'} same => ?_⟩
        rw [List.head?_eq_none_iff.1 same]
        exact (Parsed.leaving_self left).symm
      | cons next rest =>
        rcases decides next with ⟨q, looks, agree⟩ | ⟨q, looks, agree⟩
        · rw [List.nil_append, agree] at left
          have stops : Peeks q [] (next :: rest) := looks.peeks short left
          refine stops.of_agree fun {rest'} same => ?_
          obtain ⟨more, rfl⟩ := List.head?_eq_some_iff.1 same
          exact agree more
        · -- a token was taken, so that not all of them can be left
          have shorter := (looks.recedes rest).length_le
          rw [← agree, show (p (next :: rest)).rest = next :: rest from left] at shorter
          exact absurd shorter (by simp)
    | cons next taken =>
      rcases decides next with ⟨q, looks, agree⟩ | ⟨q, looks, agree⟩
      · rw [List.cons_append, agree] at left
        exact (looks.peeks short left).of_agree fun _ => agree _
      · rw [List.cons_append, agree] at left
        exact (looks.peeks (Nat.lt_sub_of_add_lt short) left).of_agree fun _ => agree _

/-- At the end a parser that looks ahead complains about the end. -/
lemma LooksAhead.honest {p : Parser α} (looks : LooksAhead n p) (positive : 0 < n) :
    (p []).Honest := by
  have stops : Peeks p [] [] := looks.peeks positive (List.suffix_nil.1 (looks.recedes []))
  exact stops.honest

/-- Accepting a text looks at one token, and behind it one token less has to be looked at. -/
lemma looksAhead_accept {text : String} {yes no : Parser α} (inside : LooksAhead (n - 1) yes)
    (other : LooksAhead n no) : LooksAhead n (do if ← accept text then yes else no : Parser α) :=
  looksAhead_of_decides
    ((recedes_accept text).bind fun _ => .ite inside.recedes other.recedes) other.honest
    (decides_accept inside other)

/-- Seeing a text looks at one token. -/
lemma looksAhead_sees {text : String} {yes no : Parser α} (seen : LooksAhead n yes)
    (other : LooksAhead n no) : LooksAhead n (do if ← sees text then yes else no : Parser α) :=
  looksAhead_of_decides ((recedes_sees text).bind fun _ => .ite seen.recedes other.recedes)
    other.honest (decides_sees seen other)

/-- Asking for the end looks at one token. -/
lemma looksAhead_atEnd {yes no : Parser α} (recedes : Recedes yes) (honest : (yes []).Honest)
    (more : LooksAhead n no) : LooksAhead n (do if ← atEnd then yes else no : Parser α) :=
  looksAhead_of_decides (recedes_atEnd.bind fun _ => .ite recedes more.recedes) (fun _ => honest)
    (decides_atEnd more)

/-! ## Single tokens -/

/-- Takes the first token if it has a value. -/
def taking (value? : Token → Option α) (other : Parser α) : Parser α := fun tokens =>
  match tokens.head?.bind value? with
  | some value => .ok value tokens.tail
  | none => other tokens

/-- Expecting a text is taking a token with it. -/
lemma expect_eq_taking (text : String) :
    expect text = taking (fun token => if token.text = text then some () else none)
      (fail (.expectedSymbol text)) := by
  funext tokens
  rw [expect_eq, taking]
  cases tokens with
  | nil => rfl
  | cons next rest => by_cases same : next.text = text <;> simp [same, fail]

/-- Advancing is taking any token. -/
lemma advance_eq_taking : advance = taking (fun _ => some ()) (pure ()) := by
  funext tokens
  cases tokens <;> rfl

/-- Looking for an operator is taking a token that spells one. -/
lemma operator?_eq_taking (precedence : Precedence) :
    operator? precedence =
      taking (fun token => match Operator.ofSymbol? token.text with
        | some op => if op.precedence = precedence then some (some op) else none
        | none => none) (pure none) := by
  funext tokens
  cases tokens with
  | nil => rfl
  | cons next rest =>
    simp only [operator?, taking, List.head?_cons, Option.bind_some, List.tail_cons]
    cases Operator.ofSymbol? next.text with
    | none => rfl
    | some op => by_cases same : op.precedence = precedence <;> simp [same]

/-- A number or a name is a token of its kind that is taken. -/
lemma leaf_eq_taking :
    leaf = taking (fun token => match token.kind with
      | .number => (Number.read? token.text).map Expr.number
      | .identifier => some (.variable token.text)
      | _ => none) (fail .expectedPrimary) := by
  funext tokens
  match tokens with
  | [] => rfl
  | ⟨kind, text⟩ :: rest =>
    cases kind
    case number => cases reads : Number.read? text <;> simp [leaf, taking, reads]
    all_goals rfl

/-- On a given first token it is clear whether it is taken. -/
lemma decides_taking {value? : Token → Option α} {other : Parser α}
    {stays behind : Parser α → Prop} (taken : ∀ value, behind (pure value)) (left : stays other)
    (next : Token) : Decides (taking value? other) stays behind next := by
  cases first : value? next with
  | none => exact .inl ⟨other, left, fun rest => by simp [taking, first]⟩
  | some value => exact .inr ⟨pure value, taken value, fun rest => by simp [taking, first]⟩

/-- A parser that takes a token looks at it, or as far as the other one does. -/
lemma looksAhead_taking {value? : Token → Option α} {other : Parser α}
    (looks : LooksAhead n other) : LooksAhead n (taking value? other) := by
  have recedes : Recedes (taking value? other) := by
    intro tokens
    rw [taking]
    split
    · exact List.tail_suffix tokens
    · exact looks.recedes tokens
  exact looksAhead_of_decides recedes looks.honest (decides_taking looksAhead_pure looks)

/-- Expecting a text looks at one token. -/
lemma looksAhead_expect (text : String) : LooksAhead n (expect text) := by
  rw [expect_eq_taking]
  exact looksAhead_taking (looksAhead_fail_found fun _ => rfl)

/-- Advancing looks at one token. -/
lemma looksAhead_advance : LooksAhead n advance := by
  rw [advance_eq_taking]
  exact looksAhead_taking (looksAhead_pure ())

/-- Looking for an operator looks at one token. -/
lemma looksAhead_operator? (precedence : Precedence) : LooksAhead n (operator? precedence) := by
  rw [operator?_eq_taking]
  exact looksAhead_taking (looksAhead_pure none)

/-- A number or a name is known by its token. -/
lemma looksAhead_leaf : LooksAhead n leaf := by
  rw [leaf_eq_taking]
  exact looksAhead_taking (looksAhead_fail_found fun _ => rfl)

/-! ## Repetition -/

/-- A repetition is a step and, if it yields something, a repetition behind it. -/
lemma many_unfold {step : Parser (Option α)} (advances : StepAdvances step) :
    many step = do
      match ← step with
      | none => return []
      | some item => return item :: (← many step) := by
  funext tokens
  rw [bind_apply]
  cases read : step tokens with
  | error cause rest => exact many_of_error read
  | ok item rest =>
    cases item with
    | none => exact many_of_none read
    | some item => exact many_of_some advances read

/-- What is made of a value does not matter to the tokens that are left. -/
lemma rest_bind_pure (p : Parser α) (make : α → β) (tokens : List Token) :
    ((do return make (← p) : Parser β) tokens).rest = (p tokens).rest := by
  rw [bind_apply]
  cases p tokens <;> rfl

/-- What is made of a value does not matter to how far the parser looks. -/
lemma Peeks.bind_pure {p : Parser α} {taken rest : List Token} (peeks : Peeks p taken rest)
    (make : α → β) : Peeks (do return make (← p) : Parser β) taken rest := by
  obtain ⟨honest, same⟩ := peeks
  constructor
  · rw [bind_apply]
    cases read : p (taken ++ rest) with
    | ok value left => trivial
    | error cause left =>
      rw [read] at honest
      exact honest
  · intro rest' front
    rw [bind_apply, bind_apply, same front]
    cases p (taken ++ rest) <;> rfl

/-- A repetition looks no further than its step. -/
lemma LooksAhead.many {step : Parser (Option α)} (looks : LooksAhead n step)
    (advances : StepAdvances step) : LooksAhead n (many step) where
  recedes := looks.recedes.many
  peeks {taken rest} short left := by
    -- by induction on the number of tokens taken, of which every step with an item takes one
    induction size : taken.length using Nat.strongRecOn generalizing taken with
    | ind size ih =>
      rw [many_unfold advances] at left ⊢
      apply peeks_bind looks.recedes _ left
      · intro front back split stopped
        subst split
        rw [List.length_append] at short
        rw [List.append_assoc] at stopped
        exact looks.peeks (by omega) stopped
      · intro front back item split read stopped
        cases item with
        | none => exact (looksAhead_pure []).peeks (Nat.lt_succ_self _) stopped
        | some item =>
          have shorter := advances read
          subst split
          simp only [List.length_append] at shorter short size
          rw [rest_bind_pure] at stopped
          exact (ih back.length (by omega) (by omega) stopped rfl).bind_pure _
      · intro item
        cases item with
        | none => exact recedes_pure _
        | some item => exact looks.recedes.many.bind fun _ => recedes_pure _

/-! ## The parsers of expressions -/

section Over

variable {p : Parser Expr}

/-- An operand looks as far as the expression in its parenthesis and one token more. -/
lemma LooksAhead.operand (looks : LooksAhead n p) : LooksAhead (n + 1) (operand p) := by
  apply looksAhead_accept _ looksAhead_leaf
  apply looks.bind
  intro inner
  exact looksAhead_accept (looksAhead_pure _) (looksAhead_fail_found fun _ => rfl)

/-- An argument looks as far as its expression. -/
lemma LooksAhead.argument? (looks : LooksAhead n p) : LooksAhead n (argument? p) := by
  apply looksAhead_accept (looksAhead_pure none)
  apply looks.bind
  intro value
  exact (looksAhead_expect ",").bind fun _ => looksAhead_pure _

/-- An argument list looks as far as its expressions and one token more. -/
lemma LooksAhead.arguments (looks : LooksAhead n p) (advances : Advances p) :
    LooksAhead (n + 1) (arguments p) := by
  apply looksAhead_accept _ (looksAhead_pure _)
  apply (looks.argument?.many (stepAdvances_argument? advances)).bind
  intro values
  cases values with
  | nil => exact looksAhead_pure _
  | cons value values => exact looksAhead_pure _

/-- One more argument list looks as far as its expressions and one token more. -/
lemma LooksAhead.argumentList? (looks : LooksAhead n p) (advances : Advances p) :
    LooksAhead (n + 1) (argumentList? p) := by
  apply looksAhead_sees _ (looksAhead_pure none)
  exact (looks.arguments advances).bind fun _ => looksAhead_pure _

/-- A primary expression looks as far as the expressions in it and one token more. -/
lemma LooksAhead.primary (looks : LooksAhead n p) (advances : Advances p) :
    LooksAhead (n + 1) (primary p) := by
  rw [primary_eq]
  apply looks.operand.bind
  intro head
  apply ((looks.argumentList? advances).many (stepAdvances_argumentList? looks.recedes)).bind
  intro lists
  exact looksAhead_pure _

/-- An operator with its operand looks as far as the operand. -/
lemma LooksAhead.link? {item : Parser Expr} (looks : LooksAhead n item)
    (precedence : Precedence) : LooksAhead n (link? precedence item) := by
  apply (looksAhead_operator? precedence).bind
  intro op
  cases op with
  | none => exact looksAhead_pure _
  | some op => exact looks.bind fun _ => looksAhead_pure _

/-- Operators with their operands look as far as the operands. -/
lemma LooksAhead.links {item : Parser Expr} (looks : LooksAhead n item) (advances : Advances item)
    (precedence : Precedence) : LooksAhead n (links precedence item) :=
  (looks.link? precedence).many (stepAdvances_link? advances precedence)

/-- A level looks as far as its operands. -/
lemma LooksAhead.levelAt (precedence : Precedence) (looks : LooksAhead n (operandAt p precedence))
    (recedes : Recedes p) : LooksAhead n (levelAt p precedence) := by
  rw [levelAt_eq]
  apply looks.bind
  intro first
  apply (looks.links (advances_operandAt recedes precedence) precedence).bind
  intro chain
  exact looksAhead_pure _

/-- The operands of every level look as far as the expressions in them and one token more. -/
lemma LooksAhead.operandAt (looks : LooksAhead n p) (advances : Advances p)
    (precedence : Precedence) : LooksAhead (n + 1) (operandAt p precedence) := by
  have primary := looks.primary advances
  have product := LooksAhead.levelAt .product primary looks.recedes
  cases precedence with
  | product => exact primary
  | sum => exact product
  | comparison => exact LooksAhead.levelAt .sum product looks.recedes

end Over

/-- An expression goes by one more token at most, wherever it stops. -/
lemma looksAhead_expression : LooksAhead n expression := by
  induction n with
  | zero => exact ⟨recedes_expression, nofun⟩
  | succ n ih =>
    rw [expression_eq]
    have sums := ih.operandAt advances_expression .comparison
    exact sums.levelAt .comparison recedes_expression

/-! ## The parsers of statements -/

/-- The rest of an assignment goes by one more token at most. -/
lemma looksAhead_assignment (target : Expr) : LooksAhead n (assignment target) := by
  have refused : LooksAhead n (fail fun _ => .expectedVariable : Parser Stmt) :=
    looksAhead_fail fun _ => ⟨nofun, nofun⟩
  cases target
  case «variable» =>
    apply looksAhead_advance.bind
    intro _
    exact looksAhead_expression.bind fun _ => looksAhead_pure _
  all_goals exact refused

/-- What follows the first expression of a statement is decided by one token. -/
lemma looksAhead_simpleTail (first : Expr) : LooksAhead n (simpleTail first) := by
  have lists : LooksAhead n (arguments expression) :=
    (looksAhead_expression.arguments advances_expression).mono (Nat.le_succ n)
  apply looksAhead_sees (looksAhead_assignment first)
  apply looksAhead_sees (lists.bind fun _ => looksAhead_pure _)
  exact looksAhead_sees (looksAhead_pure _) (looksAhead_fail_found fun _ => rfl)

/-- A simple statement goes by one more token at most. -/
lemma looksAhead_simple : LooksAhead n simple := by
  rw [simple_eq]
  exact looksAhead_expression.bind looksAhead_simpleTail

section Over

variable {p : Parser Stmt}

/-- One more statement of a block looks as far as the statement. -/
lemma LooksAhead.blockItem? (looks : LooksAhead n p) : LooksAhead n (blockItem? p) := by
  apply looksAhead_accept (looksAhead_pure none)
  apply looksAhead_atEnd (recedes_fail _)
  · exact ⟨nofun, fun _ => rfl⟩
  · exact looks.bind fun _ => looksAhead_pure _

/-- A condition with a block looks as far as the statements in the block. -/
lemma LooksAhead.clause (looks : LooksAhead n p) (advances : Advances p) :
    LooksAhead n (clause p) := by
  apply (looksAhead_expect _).bind
  intro _
  apply looksAhead_expression.bind
  intro condition
  apply (looksAhead_expect _).bind
  intro _
  apply (looksAhead_expect _).bind
  intro _
  apply (looks.blockItem?.many (stepAdvances_blockItem? advances)).bind
  intro body
  exact looksAhead_pure _

/-- A statement looks as far as the statements in its block and one token more. -/
lemma LooksAhead.statementOver (looks : LooksAhead n p) (advances : Advances p) :
    LooksAhead (n + 1) (statementOver p) := by
  have clause := looks.clause advances
  apply looksAhead_accept
  · exact clause.bind fun _ => looksAhead_pure _
  apply looksAhead_accept
  · exact clause.bind fun _ => looksAhead_pure _
  apply looksAhead_simple.bind
  intro stmt
  exact (looksAhead_expect _).bind fun _ => looksAhead_pure _

end Over

/-- A statement goes by one more token at most, wherever it stops. -/
lemma looksAhead_statement : LooksAhead n statement := by
  induction n with
  | zero => exact ⟨recedes_statement, nofun⟩
  | succ n ih =>
    rw [statement_eq]
    exact ih.statementOver advances_statement

/-- One more statement of a program goes by one more token at most. -/
lemma looksAhead_programItem? : LooksAhead n programItem? := by
  apply looksAhead_atEnd (recedes_pure none) trivial
  exact looksAhead_statement.bind fun _ => looksAhead_pure _

/-- A program goes by one more token at most, wherever it stops. -/
lemma looksAhead_program : LooksAhead n program :=
  looksAhead_programItem?.many stepAdvances_programItem?

end Parser

end Scriptlet
