import Scriptlet.Proofs.Grammar.Completeness
import Scriptlet.Proofs.Parser.Lookahead

/-!
# Viable prefixes

Whatever tokens a parser takes, be it before an error or before it is through, they can be completed
to something that it reads (`Viable`). The completion of what two parsers in a row take is that of
the first one and some tokens for the second one (`Fills`), or that of the second one alone if there
were tokens for it. So errors are reported at the first token with which no program goes on.
-/

namespace Scriptlet
namespace Parser
open Grammar
open Token (front?)

variable {α β : Type}

/-- All token lists. -/
abbrev anything : List Token → Prop :=
  fun _ => True

/-- With some more tokens behind those that were taken, the parser reads a value and stops before
whatever may follow. -/
def Completes (follow : List Token → Prop) (p : Parser α) (taken : List Token) : Prop :=
  ∃ suffix value, ∀ rest, follow rest → p (taken ++ (suffix ++ rest)) = .ok value rest

/-- Whenever the parser takes some tokens, but less than `n`, they can be completed. -/
def Viable (n : Nat) (follow : List Token → Prop) (p : Parser α) : Prop :=
  ∀ ⦃taken rest⦄, taken ≠ [] → taken.length < n → (p (taken ++ rest)).rest <:+ rest →
    Completes follow p taken

/-- There are tokens that the parser reads before whatever may follow, and they may themselves
follow what stands before them. -/
def Fills (before follow : List Token → Prop) (p : Parser α) : Prop :=
  ∃ tokens value, ∀ rest, follow rest →
    before (tokens ++ rest) ∧ p (tokens ++ rest) = .ok value rest

variable {n : Nat} {before between follow : List Token → Prop}

/-- The parser looks one token ahead, what it takes can be completed, and it can be filled in. -/
structure Completable (n : Nat) (before follow : List Token → Prop) (p : Parser α) : Prop where
  looks : LooksAhead n p
  viable : Viable n follow p
  fills : Fills before follow p

/-! ## Parsers in a row -/

/-- Parsers that agree behind some tokens are completed there in the same way. -/
lemma Completes.of_agree {p q : Parser α} {taken taken' : List Token}
    (completes : Completes follow q taken')
    (agree : ∀ rest, p (taken ++ rest) = q (taken' ++ rest)) : Completes follow p taken := by
  obtain ⟨suffix, value, reads⟩ := completes
  exact ⟨suffix, value, fun rest holds => (agree _).trans (reads rest holds)⟩

/-- What is made of a value does not matter to how the tokens are completed. -/
lemma Completes.bind_pure {p : Parser α} {taken : List Token} (completes : Completes follow p taken)
    (make : α → β) : Completes follow (do return make (← p) : Parser β) taken := by
  obtain ⟨suffix, value, reads⟩ := completes
  refine ⟨suffix, make value, fun rest holds => ?_⟩
  exact bind_eq_ok_iff.2 ⟨value, rest, reads rest holds, rfl⟩

/-- What can be filled in can be completed before any token is taken. -/
lemma Fills.completes {p : Parser α} (fills : Fills before follow p) : Completes follow p [] := by
  obtain ⟨tokens, value, reads⟩ := fills
  exact ⟨tokens, value, fun rest holds => (reads rest holds).2⟩

section Bind

variable {p : Parser α} {f : α → Parser β} {taken rest : List Token}

/-- What two parsers in a row take is completed behind the first one or behind the second one. -/
lemma completes_bind (looks : LooksAhead n p) (short : taken.length < n)
    (through : ((p >>= f) (taken ++ rest)).rest <:+ rest)
    (whole : (p (taken ++ rest)).rest <:+ rest → Completes between p taken)
    (fills : ∀ value, Fills between follow (f value))
    (partly : ∀ {front back value}, taken = front ++ back → back ≠ [] →
      p (taken ++ rest) = .ok value (back ++ rest) →
      (f value (back ++ rest)).rest <:+ rest → Completes follow (f value) back) :
    Completes follow (p >>= f) taken := by
  by_cases all : (p (taken ++ rest)).rest <:+ rest
  · -- the first parser has taken all tokens, and the second one is filled in behind it
    obtain ⟨suffix, value, reads⟩ := whole all
    obtain ⟨more, result, reads'⟩ := fills value
    refine ⟨suffix ++ more, result, fun rest holds => ?_⟩
    obtain ⟨fits, last⟩ := reads' rest holds
    rw [List.append_assoc suffix]
    exact bind_eq_ok_iff.2 ⟨value, _, reads _ fits, last⟩
  · rw [bind_apply] at through
    cases read : p (taken ++ rest) with
    | error cause left =>
      rw [read] at through all
      exact absurd through all
    | ok value left =>
      rw [read] at through all
      have outer := looks.recedes.suffix read
      have inner : rest <:+ left :=
        (List.suffix_or_suffix_of_suffix outer (List.suffix_append taken rest)).resolve_left all
      obtain ⟨front, back, split, rfl⟩ := exists_split outer inner
      have solid : back ≠ [] := by
        intro none
        subst none
        exact all (List.suffix_refl rest)
      obtain ⟨suffix, result, reads⟩ := partly split solid read through
      subst split
      rw [List.length_append] at short
      rw [List.append_assoc] at read
      -- the first parser goes by the first token of `back`, which a completion does not change
      have stops : Peeks p front (back ++ rest) := looks.peeks (by omega) (by rw [read]; rfl)
      refine ⟨suffix, result, fun rest' holds => ?_⟩
      have same : (back ++ (suffix ++ rest')).head? = (back ++ rest).head? := by
        cases back with
        | nil => exact absurd rfl solid
        | cons next back => rfl
      have again := stops.same same
      rw [read] at again
      rw [List.append_assoc]
      exact bind_eq_ok_iff.2 ⟨value, _, again, reads rest' holds⟩

/-- What a sequence takes can be completed: where the first part stops, its completion is followed
by a filling of the second. -/
lemma Viable.bind (viable : Viable n between p) (looks : LooksAhead n p)
    (next : ∀ value, Viable n follow (f value)) (fills : ∀ value, Fills between follow (f value)) :
    Viable n follow (p >>= f) := by
  intro taken rest solid short through
  apply completes_bind looks short through (viable solid short) fills
  intro front back value split solid' read
  rw [split, List.length_append] at short
  exact next value solid' (by omega)

/-- A sequence is filled in by fillings of both parts. -/
lemma Fills.bind (first : Fills before between p)
    (second : ∀ value, Fills between follow (f value)) : Fills before follow (p >>= f) := by
  obtain ⟨tokens, value, reads⟩ := first
  obtain ⟨more, result, reads'⟩ := second value
  refine ⟨tokens ++ more, result, fun rest holds => ?_⟩
  obtain ⟨fits, last⟩ := reads' rest holds
  obtain ⟨fits', head⟩ := reads _ fits
  rw [List.append_assoc]
  exact ⟨fits', bind_eq_ok_iff.2 ⟨value, _, head, last⟩⟩

/-- A sequence can be completed if both parts can. -/
lemma Completable.bind (here : Completable n before between p)
    (there : ∀ value, Completable n between follow (f value)) :
    Completable n before follow (p >>= f) where
  looks := here.looks.bind fun value => (there value).looks
  viable := here.viable.bind here.looks (fun value => (there value).viable)
    fun value => (there value).fills
  fills := here.fills.bind fun value => (there value).fills

end Bind

/-- What can be completed can be completed if it is shorter and if less may follow. -/
lemma Viable.mono {m : Nat} {follow' : List Token → Prop} {p : Parser α}
    (viable : Viable n follow p) (le : m ≤ n) (narrow : ∀ {rest}, follow' rest → follow rest) :
    Viable m follow' p := by
  intro taken rest solid short through
  obtain ⟨suffix, value, reads⟩ := viable solid (Nat.lt_of_lt_of_le short le) through
  exact ⟨suffix, value, fun rest holds => reads rest (narrow holds)⟩

/-- What takes nothing has nothing to complete. -/
lemma viable_of_still {p : Parser α} (still : ∀ tokens, (p tokens).rest = tokens) :
    Viable n follow p := by
  intro taken rest solid short through
  rw [still] at through
  have length := through.length_le
  rw [List.length_append] at length
  exact absurd (List.length_pos_iff.2 solid) (by omega)

/-- A complaint takes no tokens. -/
lemma viable_fail (cause : Found → ParseError) : Viable n follow (fail cause : Parser α) :=
  viable_of_still fun _ => rfl

/-- A constant parser takes no tokens. -/
lemma viable_pure (value : α) : Viable n follow (pure value : Parser α) :=
  viable_of_still fun _ => rfl

/-- A constant parser is filled in by no tokens. -/
lemma fills_pure (value : α) (ends : ∀ {rest}, follow rest → before rest) :
    Fills before follow (pure value : Parser α) :=
  ⟨[], value, fun _ holds => ⟨ends holds, rfl⟩⟩

/-- A constant parser can be completed if what may follow it may follow what stands before it. -/
lemma completable_pure (value : α) (ends : ∀ {rest}, follow rest → before rest) :
    Completable n before follow (pure value : Parser α) :=
  ⟨looksAhead_pure value, viable_pure value, fills_pure value ends⟩

/-- What is made of a value does not matter to whether the tokens can be completed. -/
lemma Viable.bind_pure {p : Parser α} (viable : Viable n follow p) (looks : LooksAhead n p)
    (make : α → β) : Viable n follow (do return make (← p) : Parser β) :=
  viable.bind looks (fun _ => viable_pure _) fun _ => fills_pure _ id

/-- What is made of a value does not matter to whether the parser can be completed. -/
lemma Completable.bind_pure {p : Parser α} (completable : Completable n before follow p)
    (make : α → β) : Completable n before follow (do return make (← p) : Parser β) :=
  completable.bind fun _ => completable_pure _ id

/-! ## Choices -/

/-- What a parser takes that decides by the first token is completed as one of those that it decides
between would complete it. If it takes that token alone, what is behind it has to be filled in. -/
lemma viable_of_decides {p : Parser α}
    (decides : ∀ next, Decides p (Viable n follow)
      (fun q => Viable (n - 1) follow q ∧ Fills anything follow q) next) : Viable n follow p := by
  intro taken rest solid short through
  cases taken with
  | nil => exact absurd rfl solid
  | cons next taken =>
    rcases decides next with ⟨q, viable, agree⟩ | ⟨q, ⟨viable, fills⟩, agree⟩
    · rw [List.cons_append, agree] at through
      exact (viable solid short through).of_agree fun _ => agree _
    · rw [List.cons_append, agree] at through
      have completes : Completes follow q taken := by
        cases taken with
        | nil => exact fills.completes
        | cons second taken => exact viable nofun (Nat.lt_sub_of_add_lt short) through
      exact completes.of_agree fun _ => agree _

/-- A parser that takes one token or none has nothing left to complete. -/
lemma viable_taking {value? : Token → Option α} {other : Parser α}
    (still : ∀ tokens, (other tokens).rest = tokens) : Viable n anything (taking value? other) :=
  viable_of_decides (decides_taking (fun value => ⟨viable_pure value, fills_pure value id⟩)
    (viable_of_still still))

/-- Accepting a text can be completed behind the token, and at it as the other branch can. -/
lemma viable_accept {text : String} {yes no : Parser α} (inside : Viable (n - 1) follow yes)
    (fills : Fills anything follow yes) (other : Viable n follow no) :
    Viable n follow (do if ← accept text then yes else no : Parser α) :=
  viable_of_decides (decides_accept ⟨inside, fills⟩ other)

/-- Seeing a text can be completed if both branches can. -/
lemma viable_sees {text : String} {yes no : Parser α} (seen : Viable n follow yes)
    (other : Viable n follow no) :
    Viable n follow (do if ← sees text then yes else no : Parser α) :=
  viable_of_decides (decides_sees seen other)

/-- Where a token was taken the end was not reached, so that the other branch is completed. -/
lemma viable_atEnd {yes no : Parser α} (more : Viable n follow no) :
    Viable n follow (do if ← atEnd then yes else no : Parser α) :=
  viable_of_decides (decides_atEnd more)

/-- A token with the text may follow what stands before it. -/
def Ends (before : List Token → Prop) (text : String) : Prop :=
  ∀ ⦃tokens⦄, front? tokens = some text → before tokens

/-- A parser that accepts a text can be completed if it can behind the text, which may follow what
stands before it. -/
lemma completable_accept {text : String} {yes no : Parser α} (ends : Ends before text)
    (inside : Completable (n - 1) anything follow yes) (looks : LooksAhead n no)
    (other : Viable n follow no) :
    Completable n before follow (do if ← accept text then yes else no : Parser α) where
  looks := looksAhead_accept inside.looks looks
  viable := viable_accept inside.viable inside.fills other
  fills := by
    obtain ⟨tokens, value, reads⟩ := inside.fills
    refine ⟨⟨.punctuation, text⟩ :: tokens, value, fun rest holds => ⟨ends rfl, ?_⟩⟩
    have front : front? (⟨.punctuation, text⟩ :: tokens ++ rest) = some text := rfl
    rw [accept_bind_eq, if_pos front]
    exact (reads rest holds).2

/-- An expected text is completed by a token with it. -/
lemma completable_expect {text : String} (ends : Ends before text) :
    Completable n before anything (expect text) :=
  completable_accept ends (completable_pure () id) (looksAhead_fail_found fun _ => rfl)
    (viable_fail _)

/-! ## Repetition -/

/-- A repetition can be completed if its step can and the repetition can be filled in. -/
lemma Viable.many {step : Parser (Option α)} (viable : Viable n between step)
    (looks : LooksAhead n step) (advances : StepAdvances step)
    (fills : Fills between follow (many step)) (ends : ∀ {rest}, follow rest → between rest) :
    Viable n follow (many step) := by
  intro taken rest solid short through
  -- by induction on the number of tokens taken, of which every step with an item takes one
  induction size : taken.length using Nat.strongRecOn generalizing taken with
  | ind size ih =>
    rw [many_unfold advances] at through ⊢
    apply completes_bind looks short through (viable solid short)
    · intro item
      cases item with
      | none => exact fills_pure [] ends
      | some item => exact fills.bind fun _ => fills_pure _ id
    · intro front back item split solid' read inside
      cases item with
      | none => exact viable_pure [] solid' (Nat.lt_succ_self _) inside
      | some item =>
        have shorter := advances read
        rw [rest_bind_pure] at inside
        subst split
        simp only [List.length_append] at shorter short size
        exact (ih back.length (by omega) solid' (by omega) inside rfl).bind_pure _

/-- A repetition is completable if its steps are and it can be filled in. -/
lemma completable_many {step : Parser (Option α)} (looks : LooksAhead n step)
    (advances : StepAdvances step) (viable : Viable n between step)
    (fills : Fills between follow (many step)) (ends : ∀ {rest}, follow rest → between rest) :
    Completable n between follow (many step) where
  looks := looks.many advances
  viable := viable.many looks advances fills ends
  fills := fills

/-! ## The parsers of expressions -/

/-- A name is an operand of every level. -/
lemma fills_operandAt (precedence : Precedence) :
    Fills anything (Follow (.operand precedence)) (operandAt expression precedence) := by
  let token : Token := ⟨.identifier, "x"⟩
  have named : ∃ phrase : Phrase (.operand precedence), phrase.tokens = [token] := by
    let primary : Phrase .primary := .primary (.name token rfl) .noCalls
    let product : Phrase (.level .product) := .level (.ofPrimary primary) .noLinks
    cases precedence with
    | product => exact ⟨.ofPrimary primary, rfl⟩
    | sum => exact ⟨.ofProduct product, rfl⟩
    | comparison => exact ⟨.ofSum (.level (.ofProduct product) .noLinks), rfl⟩
  obtain ⟨phrase, taken⟩ := named
  refine ⟨[token], phrase.value, fun rest follow => ⟨trivial, ?_⟩⟩
  have plain : ∀ token ∈ phrase.tokens, token.IsPlain := by
    rw [taken, List.forall_mem_singleton]
    exact fun _ => by decide
  rw [← taken]
  exact read_phrase phrase plain follow

/-- What does not extend a level does not extend its operands. -/
lemma follow_operand (precedence : Precedence) {rest : List Token}
    (follow : Follow (.level precedence) rest) : Follow (.operand precedence) rest :=
  fun text member => follow text (mem_extending_level.2 (.inl member))

/-- Without an operator there is no further operand. -/
lemma fills_links (precedence : Precedence) :
    Fills (Follow (.operand precedence)) (Follow (.level precedence))
      (links precedence (operandAt expression precedence)) := by
  refine ⟨[], [], fun rest follow => ⟨follow_operand precedence follow, many_of_none ?_⟩⟩
  have noSymbol : ∀ text ∈ symbols precedence, front? rest ≠ some text :=
    fun text symbol => follow text (mem_extending_level.2 (.inr symbol))
  exact bind_eq_ok_iff.2 ⟨_, _, operator?_of_not_mem noSymbol, rfl⟩

/-- Without a parenthesis there is no argument list. -/
lemma fills_calls : Fills anything (Follow .primary) (many (argumentList? expression)) := by
  refine ⟨[], [], fun rest follow => ⟨trivial, many_of_none ?_⟩⟩
  have noOpening : front? rest ≠ some "(" := follow "(" (by decide)
  rw [argumentList?, List.nil_append, sees_bind_eq, if_neg noOpening]
  rfl

/-- A list of arguments can be closed at once. -/
lemma fills_items : Fills anything anything (many (argument? expression)) := by
  refine ⟨[⟨.punctuation, ")"⟩], [], fun rest _ => ⟨trivial, many_of_none ?_⟩⟩
  rfl

/-- An expression ends before a symbol that it does not go on with. -/
lemma ends_expr {text : String} (apart : text ∉ Category.expr.extending) :
    Ends (Follow .expr) text := by
  intro tokens front other member same
  rw [front] at same
  exact apart (Option.some.inj same ▸ member)

section Nested

variable (nested : Completable n anything (Follow .expr) expression)

include nested

/-- The inside of a parenthesis can be completed by the closing one. -/
lemma completable_group : Completable n anything anything (group expression) := by
  apply nested.bind
  intro inner
  exact completable_accept (ends_expr (by decide)) (completable_pure _ id)
    (looksAhead_fail_found fun _ => rfl) (viable_fail _)

/-- What an operand takes can be completed. -/
lemma viable_operand : Viable (n + 1) anything (operand expression) := by
  have leaf : Viable (n + 1) anything leaf := by
    rw [leaf_eq_taking]
    exact viable_taking fun _ => rfl
  apply viable_accept _ _ leaf
  · exact (completable_group nested).viable
  · exact (completable_group nested).fills

/-- The arguments of a list can be completed by a closing parenthesis. -/
lemma completable_items : Completable n anything anything (many (argument? expression)) := by
  have argument : Completable n anything anything (do
      let value ← expression
      expect ","
      return some value) := by
    apply nested.bind
    intro value
    exact (completable_expect (ends_expr (by decide))).bind_pure fun _ => some value
  have step : Viable n anything (argument? expression) :=
    viable_accept (viable_pure none) (fills_pure none id) argument.viable
  exact completable_many nested.looks.argument? (stepAdvances_argument? advances_expression) step
    fills_items id

/-- An argument list can be completed. -/
lemma completable_arguments : Completable (n + 1) anything anything (arguments expression) := by
  apply completable_accept (fun _ _ => trivial) _ (looksAhead_pure none) (viable_pure none)
  apply (completable_items nested).bind
  intro values
  cases values with
  | nil => exact completable_pure none id
  | cons value values => exact completable_pure _ id

/-- What a primary expression takes can be completed. -/
lemma viable_primary : Viable (n + 1) (Follow .primary) (primary expression) := by
  have list : Viable (n + 1) anything (argumentList? expression) := by
    apply viable_sees _ (viable_pure none)
    exact ((completable_arguments nested).bind_pure _).viable
  have calls := completable_many (nested.looks.argumentList? advances_expression)
    (stepAdvances_argumentList? recedes_expression) list fills_calls fun _ => trivial
  rw [primary_eq]
  apply (viable_operand nested).bind nested.looks.operand
  · intro head
    exact (calls.bind_pure _).viable
  · intro head
    exact (calls.bind_pure _).fills

end Nested

/-- What an operator with its operand takes can be completed. -/
lemma viable_link? {precedence : Precedence}
    (operand : Completable n anything (Follow (.operand precedence))
      (operandAt expression precedence)) :
    Viable n (Follow (.operand precedence))
      (link? precedence (operandAt expression precedence)) := by
  have operator : Viable n anything (operator? precedence) := by
    rw [operator?_eq_taking]
    exact viable_taking fun _ => rfl
  apply operator.bind (looksAhead_operator? precedence)
  · intro op
    cases op with
    | none => exact viable_pure none
    | some op => exact (operand.bind_pure _).viable
  · intro op
    cases op with
    | none => exact fills_pure none fun _ => trivial
    | some op => exact (operand.bind_pure _).fills

/-- A level can be completed if its operands can. -/
lemma completable_levelAt (precedence : Precedence)
    (viable : Viable n (Follow (.operand precedence)) (operandAt expression precedence)) :
    Completable n anything (Follow (.level precedence)) (levelAt expression precedence) := by
  have looks : LooksAhead n (operandAt expression precedence) :=
    (looksAhead_expression.operandAt advances_expression precedence).mono (Nat.le_succ n)
  have operand : Completable n anything (Follow (.operand precedence))
      (operandAt expression precedence) := ⟨looks, viable, fills_operandAt precedence⟩
  have advances := advances_operandAt recedes_expression precedence
  have links := completable_many (looks.link? precedence) (stepAdvances_link? advances precedence)
    (viable_link? operand) (fills_links precedence) (follow_operand precedence)
  rw [levelAt_eq]
  apply operand.bind
  intro first
  exact links.bind_pure _

/-- What an expression takes can be completed, and an expression can be filled in anywhere. -/
lemma completable_expression : Completable n anything (Follow .expr) expression := by
  induction n with
  | zero =>
    rw [expression_eq]
    exact completable_levelAt .comparison nofun
  | succ n ih =>
    rw [expression_eq]
    have product := completable_levelAt .product (viable_primary ih)
    have sum := completable_levelAt .sum product.viable
    exact completable_levelAt .comparison sum.viable

/-! ## The parsers of statements -/

/-- A semicolon comes first. -/
def Semicolon (tokens : List Token) : Prop :=
  front? tokens = some ";"

/-- A semicolon does not extend an expression. -/
lemma follow_of_semicolon {rest : List Token} (semicolon : Semicolon rest) : Follow .expr rest :=
  ends_expr (by decide) semicolon

/-- What the rest of an assignment takes can be completed. -/
lemma viable_assignment (target : Expr) : Viable n (Follow .expr) (assignment target) := by
  have refused : Viable n (Follow .expr) (fail fun _ => .expectedVariable : Parser Stmt) :=
    viable_fail _
  cases target
  case «variable» name =>
    have sign : Viable n anything advance := by
      rw [advance_eq_taking]
      exact viable_taking fun _ => rfl
    have source : Completable n anything (Follow .expr) expression := completable_expression
    apply sign.bind looksAhead_advance
    · intro _
      exact (source.bind_pure _).viable
    · intro _
      exact (source.bind_pure _).fills
  all_goals exact refused

/-- What follows the first expression may be nothing but the semicolon. -/
lemma fills_simpleTail (first : Expr) : Fills (Follow .expr) Semicolon (simpleTail first) := by
  refine ⟨[], .expr first, fun rest semicolon => ⟨follow_of_semicolon semicolon, ?_⟩⟩
  have front : front? rest = some ";" := semicolon
  rw [List.nil_append, simpleTail, sees_bind_eq, if_neg (by simp [front]), sees_bind_eq,
    if_neg (by simp [front]), sees_bind_eq, if_pos front]
  rfl

/-- What follows the first expression of a statement can be completed before a semicolon. -/
lemma viable_simpleTail (first : Expr) : Viable n Semicolon (simpleTail first) := by
  have nested : Completable n anything (Follow .expr) expression := completable_expression
  have list : Completable (n + 1) anything anything (arguments expression) :=
    completable_arguments nested
  apply viable_sees
  · exact (viable_assignment first).mono (Nat.le_refl n) follow_of_semicolon
  apply viable_sees
  · exact (list.bind_pure _).viable.mono (Nat.le_succ n) fun _ => trivial
  exact viable_sees (viable_pure _) (viable_fail _)

/-- A simple statement can be completed before a semicolon. -/
lemma completable_simple : Completable n anything Semicolon simple := by
  rw [simple_eq]
  apply completable_expression.bind
  intro first
  exact ⟨looksAhead_simpleTail first, viable_simpleTail first, fills_simpleTail first⟩

section Nested

variable (nested : Viable n anything statement)

include nested

/-- A block can be closed at once. -/
lemma completable_block : Completable n anything anything (block statement) := by
  have item : Viable n anything (do return some (← statement) : Parser (Option Stmt)) :=
    nested.bind_pure looksAhead_statement some
  have step : Viable n anything (blockItem? statement) :=
    viable_accept (viable_pure none) (fills_pure none id) (viable_atEnd item)
  apply completable_many looksAhead_statement.blockItem?
    (stepAdvances_blockItem? advances_statement) step _ id
  refine ⟨[⟨.punctuation, "\x7d"⟩], [], fun rest _ => ⟨trivial, many_of_none ?_⟩⟩
  rfl

/-- A condition with its block can be completed. -/
lemma completable_clause : Completable n anything anything (clause statement) := by
  apply (completable_expect fun _ _ => trivial).bind
  intro _
  apply completable_expression.bind
  intro condition
  apply (completable_expect (ends_expr (by decide))).bind
  intro _
  apply (completable_expect fun _ _ => trivial).bind
  intro _
  exact (completable_block nested).bind_pure _

/-- What a statement takes can be completed if this holds of the statements in its block. -/
lemma viable_statementOver : Viable (n + 1) anything (statementOver statement) := by
  have clause := completable_clause nested
  have simple : Completable (n + 1) anything anything (do
      let stmt ← simple
      expect ";"
      return stmt) := by
    apply completable_simple.bind
    intro stmt
    exact (completable_expect fun _ front => front).bind_pure fun _ => stmt
  apply viable_accept
  · exact (clause.bind_pure _).viable
  · exact (clause.bind_pure _).fills
  apply viable_accept
  · exact (clause.bind_pure _).viable
  · exact (clause.bind_pure _).fills
  exact simple.viable

end Nested

/-- What a statement takes can be completed. -/
lemma viable_statement : Viable n anything statement := by
  induction n with
  | zero => exact nofun
  | succ n ih =>
    rw [statement_eq]
    exact viable_statementOver ih

/-- What a program takes can be completed up to the end of the tokens. -/
lemma viable_program : Viable n (· = []) program := by
  have item : Viable n anything programItem? :=
    viable_atEnd (viable_statement.bind_pure looksAhead_statement some)
  apply item.many looksAhead_programItem? stepAdvances_programItem? _ fun _ => trivial
  refine ⟨[], [], fun rest ended => ⟨trivial, ?_⟩⟩
  rw [ended]
  rfl

end Parser

/-! ## Errors of programs -/

namespace Program

/-- How many tokens have been taken when the reading of a program is over. -/
def consumed (tokens : List Token) : Nat :=
  tokens.length - (Parser.program tokens).rest.length

variable {taken rest : List Token} {cause : ParseError}

/-- An error divides the tokens into those that were taken and those that were left. -/
lemma exists_stop {tokens : List Token} (refused : Program.ofTokens tokens = .error cause) :
    ∃ taken rest, tokens = taken ++ rest ∧ consumed tokens = taken.length ∧
      Parser.program (taken ++ rest) = .error cause rest := by
  rw [Program.ofTokens] at refused
  cases read : Parser.program tokens with
  | ok program rest =>
    rw [read] at refused
    cases refused
  | error cause' rest =>
    rw [read] at refused
    obtain rfl := Except.error.inj refused
    obtain ⟨taken, rfl⟩ : rest <:+ tokens := by
      simpa [read, Parsed.rest] using (Parser.looksAhead_program (n := 0)).recedes tokens
    exact ⟨taken, rest, rfl, by simp [consumed, read, Parsed.rest], read⟩

/-- The same token where an error was found leads to the same error. -/
lemma ofTokens_of_stop (stop : Parser.program (taken ++ rest) = .error cause rest)
    {rest' : List Token} (same : rest'.head? = rest.head?) :
    Program.ofTokens (taken ++ rest') = .error cause := by
  have peeks := Parser.looksAhead_program.peeks (Nat.lt_succ_self taken.length) (by rw [stop]; rfl)
  rw [Program.ofTokens, peeks.same same, stop]
  rfl

/-- The error of a program is about the tokens that are left. -/
lemma isAbout_of_stop (stop : Parser.program (taken ++ rest) = .error cause rest) :
    cause.IsAbout rest := by
  have peeks := Parser.looksAhead_program.peeks (Nat.lt_succ_self taken.length) (by rw [stop]; rfl)
  have honest := peeks.honest
  rwa [stop] at honest

/-- What was taken before an error is the beginning of a program. -/
lemma exists_completion (stop : Parser.program (taken ++ rest) = .error cause rest) :
    ∃ suffix program, Program.ofTokens (taken ++ suffix) = .ok program := by
  cases taken with
  | nil => exact ⟨[], [], rfl⟩
  | cons next taken =>
    have through : (Parser.program (next :: taken ++ rest)).rest <:+ rest := by
      rw [stop]
      exact List.suffix_refl rest
    have solid : next :: taken ≠ [] := nofun
    obtain ⟨suffix, program, reads⟩ := Parser.viable_program solid (Nat.lt_succ_self _) through
    refine ⟨suffix ++ [], program, ?_⟩
    rw [Program.ofTokens, reads [] rfl]
    rfl

/-- Tokens that are the same up to where an error was found have the same error. -/
lemma ofTokens_of_take_eq (stop : Parser.program (taken ++ rest) = .error cause rest)
    (inside : taken.length < (taken ++ rest).length) {others : List Token}
    (same : others.take (taken.length + 1) = (taken ++ rest).take (taken.length + 1)) :
    Program.ofTokens others = .error cause := by
  cases rest with
  | nil => simp at inside
  | cons next rest =>
    have split : others = taken ++ next :: others.drop (taken.length + 1) :=
      calc others = others.take (taken.length + 1) ++ others.drop (taken.length + 1) :=
            (List.take_append_drop _ _).symm
        _ = taken ++ next :: others.drop (taken.length + 1) := by
            rw [same]
            simp [List.take_append, List.take_of_length_le]
    rw [split]
    exact ofTokens_of_stop stop rfl

/-- If anything was left, whatever is appended, the error stays. -/
lemma rest_eq_nil_of_accepted (stop : Parser.program (taken ++ rest) = .error cause rest)
    {suffix : List Token} {program : Program}
    (accepted : Program.ofTokens (taken ++ rest ++ suffix) = .ok program) : rest = [] := by
  cases rest with
  | nil => rfl
  | cons next rest =>
    have same : (next :: rest ++ suffix).head? = (next :: rest).head? := rfl
    have refused := ofTokens_of_stop stop same
    rw [← List.append_assoc, accepted] at refused
    cases refused

/-- Errors are found as early as one token of lookahead allows. Every token list that is the same up
to the token at which the reading stopped has the same error, what was taken before it is the
beginning of a program, and the error names the token that stands there. So tokens that are no
program are the beginning of one exactly if the reading stopped at their end. -/
theorem refused_at_earliest (tokens : List Token) (cause : ParseError)
    (refused : Program.ofTokens tokens = .error cause) :
    (Parser.program tokens).rest = tokens.drop (consumed tokens) ∧
    (consumed tokens < tokens.length →
      ∀ others : List Token,
        others.take (consumed tokens + 1) = tokens.take (consumed tokens + 1) →
        Program.ofTokens others = .error cause) ∧
    (∃ suffix program, Program.ofTokens (tokens.take (consumed tokens) ++ suffix) = .ok program) ∧
    (∀ text, cause.found? = some (.token text) →
      tokens[consumed tokens]?.map Token.text = some text) ∧
    (cause.found? = some .endOfInput ∨ cause = .expectedBlockEnd →
      consumed tokens = tokens.length) ∧
    ((∃ suffix program, Program.ofTokens (tokens ++ suffix) = .ok program) ↔
      consumed tokens = tokens.length) := by
  obtain ⟨taken, rest, rfl, count, stop⟩ := exists_stop refused
  have about := isAbout_of_stop stop
  have completion := exists_completion stop
  have atEnd : taken.length = (taken ++ rest).length ↔ rest = [] := by simp
  rw [count, atEnd]
  refine ⟨?_, ?_, ?_, ?_, ?_, ?_⟩
  · rw [stop, List.drop_left]
    rfl
  · intro inside others same
    exact ofTokens_of_take_eq stop inside same
  · rw [List.take_left]
    exact completion
  · intro text named
    have next : (taken ++ rest)[taken.length]? = rest.head? := by
      rw [List.getElem?_append_right (Nat.le_refl _), Nat.sub_self, List.head?_eq_getElem?]
    rw [next]
    exact Found.ofTokens_eq_token_iff.1 (about.found _ named).symm
  · intro ended
    rcases ended with named | block
    · exact Found.ofTokens_eq_endOfInput_iff.1 (about.found _ named).symm
    · exact about.ended block
  · constructor
    · intro ⟨suffix, program, accepted⟩
      exact rest_eq_nil_of_accepted stop accepted
    · intro ended
      subst ended
      rw [List.append_nil]
      exact completion

/-- A closing parenthesis where an argument still needs its comma. -/
theorem refused_at_earliest_missing_comma :
    let taken : List Token := [⟨.identifier, "f"⟩, ⟨.punctuation, "("⟩, ⟨.identifier, "x"⟩]
    (∃ suffix program, Program.ofTokens (taken ++ suffix) = .ok program) ∧
    ∀ more : List Token, Program.ofTokens (taken ++ ⟨.punctuation, ")"⟩ :: more) =
      .error (.expectedSymbol "," (.token ")")) := by
  have refused : Program.ofTokens [⟨.identifier, "f"⟩, ⟨.punctuation, "("⟩, ⟨.identifier, "x"⟩,
      ⟨.punctuation, ")"⟩] = .error (.expectedSymbol "," (.token ")")) := rfl
  obtain ⟨-, others, completion, -⟩ := refused_at_earliest _ _ refused
  exact ⟨completion, fun more => others (by decide) _ rfl⟩

end Program

end Scriptlet
