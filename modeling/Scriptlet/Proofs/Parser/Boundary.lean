import Scriptlet.Proofs.Parser.Viable

/-!
# What follows an expression

Whatever a parser reads before some tokens, it reads before all others that may follow (`Settles`).
Of an expression these are the tokens that do not extend it, the end of the input among them. Tokens
are of any kind and text here, so that this does not follow from the grammar, in which numbers and
names are not written like symbols. What a nested expression reads is settled by the token behind
it, which is taken too, so that only the last loops of a parser matter.
-/

namespace Scriptlet.Parser
open Grammar
open Token (front?)

variable {α β : Type} {between follow : List Token → Prop}

/-- What the parser reads before some tokens it reads before all others that may follow. -/
def Settles (follow : List Token → Prop) (p : Parser α) : Prop :=
  ∀ ⦃taken value rest rest'⦄, p (taken ++ rest) = .ok value rest → follow rest' →
    p (taken ++ rest') = .ok value rest'

/-- Before tokens with the same one in front a parser that looks one token ahead reads the same. -/
lemma ok_of_head? {p : Parser α} (looks : ∀ n, LooksAhead n p) {taken rest rest' : List Token}
    {value : α} (read : p (taken ++ rest) = .ok value rest) (same : rest'.head? = rest.head?) :
    p (taken ++ rest') = .ok value rest' := by
  have stops : Peeks p taken rest :=
    (looks _).peeks (Nat.lt_succ_self taken.length) (by rw [read]; rfl)
  rw [stops.same same, read]
  rfl

/-! ## Parsers in a row -/

section Bind

variable {p : Parser α} {f : α → Parser β}

/-- Two parsers in a row read the same before other tokens, if the second one does, and the first
one does where the second takes nothing. -/
lemma ok_of_bind (looks : ∀ n, LooksAhead n p) (recedes : ∀ value, Recedes (f value))
    {taken rest rest' : List Token} {result : β}
    (read : (p >>= f) (taken ++ rest) = .ok result rest)
    (whole : ∀ {value}, p (taken ++ rest) = .ok value rest → f value rest = .ok result rest →
      p (taken ++ rest') = .ok value rest')
    (partly : ∀ {front back value}, taken = front ++ back →
      p (taken ++ rest) = .ok value (back ++ rest) → f value (back ++ rest) = .ok result rest →
      f value (back ++ rest') = .ok result rest') :
    (p >>= f) (taken ++ rest') = .ok result rest' := by
  obtain ⟨value, middle, first, second⟩ := bind_eq_ok_iff.1 read
  obtain ⟨front, back, split, rfl⟩ :=
    exists_split ((looks 0).recedes.suffix first) ((recedes value).suffix second)
  refine bind_eq_ok_iff.2 ⟨value, back ++ rest', ?_, partly split first second⟩
  cases back with
  | nil => exact whole first second
  | cons next back =>
    subst split
    rw [List.append_assoc] at first ⊢
    exact ok_of_head? looks first rfl

/-- One parser after another settles before what the second one settles before, if what may follow
the second may follow the first. -/
lemma Settles.bind (here : Settles between p) (looks : ∀ n, LooksAhead n p)
    (there : ∀ value, Settles follow (f value)) (recedes : ∀ value, Recedes (f value))
    (ends : ∀ {rest}, follow rest → between rest) : Settles follow (p >>= f) := by
  intro taken result rest rest' read holds
  apply ok_of_bind looks recedes read
  · intro value first _
    exact here first (ends holds)
  · intro front back value _ _ second
    exact there value second holds

/-- Behind a parser that looks one token ahead, the second one takes this token. -/
lemma settles_bind_of_advances (looks : ∀ n, LooksAhead n p)
    (there : ∀ value, Settles follow (f value)) (recedes : ∀ value, Recedes (f value))
    (advances : ∀ value, Advances (f value)) :
    Settles follow (p >>= f) := by
  intro taken result rest rest' read holds
  apply ok_of_bind looks recedes read
  · intro value _ second
    exact absurd (advances value second) (Nat.lt_irrefl _)
  · intro front back value _ _ second
    exact there value second holds

end Bind

/-- A constant parser settles before anything. -/
lemma settles_pure (value : α) : Settles follow (pure value : Parser α) := by
  intro taken result rest rest' read _
  obtain ⟨rfl, same⟩ := pure_eq_ok_iff.1 read
  obtain rfl : taken = [] := by simpa using same
  rfl

/-- What is made of a value does not matter to what may follow. -/
lemma Settles.bind_pure {p : Parser α} (here : Settles follow p) (looks : ∀ n, LooksAhead n p)
    (make : α → β) : Settles follow (do return make (← p) : Parser β) :=
  here.bind looks (fun _ => settles_pure _) (fun _ => recedes_pure _) id

/-! ## Choices -/

/-- A parser that decides by the first token is settled as those that it decides between are. If it
takes nothing, then it does so before whatever may follow. -/
lemma settles_of_decides {p : Parser α}
    (idle : ∀ ⦃value rest rest'⦄, p rest = .ok value rest → follow rest' →
      p rest' = .ok value rest')
    (decides : ∀ next, Decides p (Settles follow) (Settles follow) next) : Settles follow p := by
  intro taken value rest rest' read holds
  cases taken with
  | nil => exact idle read holds
  | cons next taken =>
    rcases decides next with ⟨q, settles, agree⟩ | ⟨q, settles, agree⟩
    · rw [List.cons_append, agree, ← List.cons_append] at read ⊢
      exact settles read holds
    · rw [List.cons_append, agree] at read ⊢
      exact settles read holds

/-- What always takes a token is never idle. -/
lemma Advances.idle {p : Parser α} (advances : Advances p) ⦃value : α⦄ ⦃rest rest' : List Token⦄
    (read : p rest = .ok value rest) (_ : follow rest') : p rest' = .ok value rest' :=
  absurd (advances read) (Nat.lt_irrefl _)

/-- A parser that reads nothing settles before anything. -/
lemma settles_fail (cause : Found → ParseError) : Settles follow (fail cause : Parser α) := by
  intro taken value rest rest' read _
  cases read

/-- A text that is accepted counts as the token that has to be taken. -/
lemma advances_accept {text : String} {yes no : Parser α} (recedes : Recedes yes)
    (advances : Advances no) : Advances (do if ← accept text then yes else no : Parser α) := by
  intro tokens value rest read
  rw [accept_bind_eq] at read
  split at read
  · next front =>
    obtain ⟨next, more, rfl, -⟩ := Token.exists_of_front? front
    exact Nat.lt_succ_of_le (recedes.length_le read)
  · exact advances read

/-- A text that may be accepted settles if both branches do and the other one takes a token. -/
lemma settles_accept {text : String} {yes no : Parser α} (inside : Settles follow yes)
    (recedes : Recedes yes) (other : Settles follow no) (advances : Advances no) :
    Settles follow (do if ← accept text then yes else no : Parser α) :=
  settles_of_decides (advances_accept recedes advances).idle (decides_accept inside other)

/-- A complaint reads no value, and so there is no token that it would have to take. -/
lemma advances_fail (cause : Found → ParseError) : Advances (fail cause : Parser α) := by
  intro tokens value rest read
  cases read

/-- A text that is expected takes its token. -/
lemma advances_expect (text : String) : Advances (expect text) :=
  advances_accept (recedes_pure ()) (advances_fail _)

/-- An expected text settles before anything. -/
lemma settles_expect (text : String) : Settles follow (expect text) :=
  settles_accept (settles_pure ()) (recedes_pure ()) (settles_fail _) (advances_fail _)

/-- A number or a name settles before anything. -/
lemma settles_leaf : Settles follow leaf := by
  apply settles_of_decides advances_leaf.idle
  rw [leaf_eq_taking]
  exact decides_taking (fun value => settles_pure value) (settles_fail _)

/-! ## Repetition -/

/-- A repetition settles if its step does. -/
lemma Settles.many {step : Parser (Option α)} (settles : Settles follow step)
    (looks : ∀ n, LooksAhead n step) (advances : StepAdvances step) :
    Settles follow (many step) := by
  intro taken items rest rest' read holds
  -- by induction on the number of tokens taken, of which every step with an item takes one
  induction size : taken.length using Nat.strongRecOn generalizing taken items with
  | ind size ih =>
    have recedes : ∀ item, Recedes (match item with
        | none => pure []
        | some item => do return item :: (← Parser.many step) : Parser (List α)) := by
      intro item
      cases item with
      | none => exact recedes_pure _
      | some item => exact (looks 0).recedes.many.bind fun _ => recedes_pure _
    rw [many_unfold advances] at read ⊢
    apply ok_of_bind looks recedes read
    · intro item first _
      exact settles first holds
    · intro front back item split first second
      cases item with
      | none => exact settles_pure [] second holds
      | some item =>
        have shorter := advances first
        subst split
        simp only [List.length_append] at shorter size
        obtain ⟨more, left, others, finish⟩ := bind_eq_ok_iff.1 second
        obtain ⟨rfl, rfl⟩ := pure_eq_ok_iff.1 finish
        exact bind_eq_ok_iff.2 ⟨more, rest', ih back.length (by omega) others rfl, rfl⟩

/-! ## The parsers of expressions -/

/-- An operand is complete by itself. -/
lemma settles_operand : Settles anything (operand expression) := by
  apply settles_accept _ recedes_expression.group settles_leaf advances_leaf
  apply settles_bind_of_advances (fun n => looksAhead_expression)
  · intro inner
    exact settles_accept (settles_pure _) (recedes_pure _) (settles_fail _) (advances_fail _)
  · intro inner
    exact (recedes_accept _).bind fun _ => .ite (recedes_pure _) (recedes_fail _)
  · intro inner
    exact advances_accept (recedes_pure _) (advances_fail _)

/-- An argument settles before anything, since a comma closes it. -/
lemma settles_argument? : Settles anything (argument? expression) := by
  apply settles_accept (settles_pure none) (recedes_pure none)
  · apply settles_bind_of_advances (fun n => looksAhead_expression)
    · intro value
      exact (settles_expect ",").bind_pure (fun n => looksAhead_expect ",") fun _ => some value
    · intro value
      exact (recedes_expect _).bind fun _ => recedes_pure _
    · intro value
      exact (advances_expect _).bind fun _ => recedes_pure _
  · exact advances_expression.bind fun _ => (recedes_expect _).bind fun _ => recedes_pure _

/-- What stands between an opening parenthesis behind a callee and what follows the arguments. -/
def argumentsInside : Parser (Option (List Expr)) := do
  match ← many (argument? expression) with
  | [] => return none
  | values => return some values

/-- The inside of an argument list goes by one more token at most. -/
lemma looksAhead_argumentsInside (n : Nat) : LooksAhead n argumentsInside := by
  apply (looksAhead_expression.argument?.many (stepAdvances_argument? advances_expression)).bind
  intro values
  cases values with
  | nil => exact looksAhead_pure _
  | cons value values => exact looksAhead_pure _

/-- The inside of an argument list settles before anything, since a parenthesis closes it. -/
lemma settles_argumentsInside : Settles anything argumentsInside := by
  have looks : ∀ n, LooksAhead n (Parser.many (argument? expression)) := fun n =>
    looksAhead_expression.argument?.many (stepAdvances_argument? advances_expression)
  have values := settles_argument?.many (fun n => looksAhead_expression.argument?)
    (stepAdvances_argument? advances_expression)
  refine values.bind looks ?_ ?_ id
  · intro values
    cases values with
    | nil => exact settles_pure _
    | cons value values => exact settles_pure _
  · intro values
    cases values with
    | nil => exact recedes_pure _
    | cons value values => exact recedes_pure _

/-- A step that yields nothing before what may follow is idle there. -/
lemma StepAdvances.idle {step : Parser (Option α)} (advances : StepAdvances step)
    (ends : ∀ {rest}, follow rest → step rest = .ok none rest) ⦃item : Option α⦄
    ⦃rest rest' : List Token⦄ (read : step rest = .ok item rest) (holds : follow rest') :
    step rest' = .ok item rest' := by
  cases item with
  | none => exact ends holds
  | some item => exact absurd (advances read) (Nat.lt_irrefl _)

/-- Without a parenthesis there is no argument list. -/
lemma argumentList?_of_follow {p : Parser Expr} {rest : List Token}
    (follow : Follow .primary rest) : argumentList? p rest = .ok none rest := by
  rw [argumentList?, sees_bind_eq, if_neg (follow "(" (by decide))]
  rfl

/-- The question for one more argument list settles before what does not open one. -/
lemma settles_argumentList? : Settles (Follow .primary) (argumentList? expression) := by
  apply settles_of_decides
  · exact (stepAdvances_argumentList? recedes_expression).idle argumentList?_of_follow
  · intro next
    by_cases opening : next.text = "("
    · have inside : Settles anything (do return some (← argumentsInside)) :=
        settles_argumentsInside.bind_pure looksAhead_argumentsInside some
      refine .inr ⟨_, fun _ _ _ _ read _ => inside read trivial, fun rest => ?_⟩
      have front : front? (next :: rest) = some "(" := congrArg some opening
      rw [argumentList?, sees_bind_eq, if_pos front, bind_apply, arguments, accept_bind_eq,
        if_pos front]
      rfl
    · refine .inl ⟨pure none, settles_pure none, fun rest => ?_⟩
      have front : front? (next :: rest) ≠ some "(" := by simpa using opening
      rw [argumentList?, sees_bind_eq, if_neg front]

/-- A primary expression settles before what does not open an argument list. -/
lemma settles_primary : Settles (Follow .primary) (primary expression) := by
  have looks : ∀ n, LooksAhead n (argumentList? expression) := fun n =>
    (looksAhead_expression.argumentList? advances_expression).mono (Nat.le_succ n)
  have advances := stepAdvances_argumentList? recedes_expression
  have lists := settles_argumentList?.many looks advances
  rw [primary_eq]
  apply settles_operand.bind fun n => looksAhead_expression.operand.mono (Nat.le_succ n)
  · intro head
    exact lists.bind_pure (fun n => (looks n).many advances) fun lists => lists.foldl .invoke head
  · intro head
    exact recedes_expression.argumentList?.many.bind fun _ => recedes_pure _
  · exact fun _ => trivial

section Levels

variable {precedence : Precedence}

/-- The operands of every level go by one more token at most. -/
lemma looksAhead_operandAt (n : Nat) : LooksAhead n (operandAt expression precedence) :=
  (looksAhead_expression.operandAt advances_expression precedence).mono (Nat.le_succ n)

/-- Without an operator of the level there is no further operand. -/
lemma link?_of_follow {p : Parser Expr} {rest : List Token}
    (follow : Follow (.level precedence) rest) : link? precedence p rest = .ok none rest := by
  have noSymbol : ∀ text ∈ symbols precedence, front? rest ≠ some text :=
    fun text symbol => follow text (mem_extending_level.2 (.inr symbol))
  exact bind_eq_ok_iff.2 ⟨_, _, operator?_of_not_mem noSymbol, rfl⟩

/-- The question for one more operator settles before what does not extend the level. -/
lemma settles_link?
    (operands : Settles (Follow (.operand precedence)) (operandAt expression precedence)) :
    Settles (Follow (.level precedence)) (link? precedence (operandAt expression precedence)) := by
  apply settles_of_decides
  · exact (stepAdvances_link? (advances_operandAt recedes_expression precedence) precedence).idle
      link?_of_follow
  · intro next
    by_cases symbol : next.text ∈ symbols precedence
    · obtain ⟨op, found, same⟩ := mem_symbols_iff.1 symbol
      have right := operands.bind_pure looksAhead_operandAt fun right => some (op, right)
      refine .inr ⟨_, fun _ _ _ _ read follow => right read (follow_operand precedence follow), ?_⟩
      intro rest
      rw [link?, bind_apply, operator?, List.head?_cons, Option.bind_some, found]
      simp only [same, if_true, List.tail_cons]
    · refine .inl ⟨pure none, settles_pure none, fun rest => ?_⟩
      have noSymbol : ∀ text ∈ symbols precedence, front? (next :: rest) ≠ some text :=
        fun text member front => symbol (Option.some.inj front ▸ member)
      rw [link?, bind_apply, operator?_of_not_mem noSymbol]

/-- A level settles before what does not extend it, if its operands settle before what does not
extend them. -/
lemma settles_levelAt
    (operands : Settles (Follow (.operand precedence)) (operandAt expression precedence)) :
    Settles (Follow (.level precedence)) (levelAt expression precedence) := by
  have looks : ∀ n, LooksAhead n (link? precedence (operandAt expression precedence)) :=
    fun n => (looksAhead_operandAt n).link? precedence
  have advances :=
    stepAdvances_link? (advances_operandAt recedes_expression precedence) precedence
  have links := (settles_link? operands).many looks advances
  rw [levelAt_eq]
  apply operands.bind looksAhead_operandAt _ _ (follow_operand precedence)
  · intro first
    exact links.bind_pure (fun n => (looks n).many advances)
      fun chain => join precedence first chain
  · intro first
    exact ((recedes_expression.operandAt precedence).links precedence).bind fun _ => recedes_pure _

/-- What an operand of a level reads does not depend on what follows, unless this extends it. -/
lemma settles_operandAt (precedence : Precedence) :
    Settles (Follow (.operand precedence)) (operandAt expression precedence) := by
  have product : Settles (Follow (.level .product)) (levelAt expression .product) :=
    settles_levelAt settles_primary
  have sum : Settles (Follow (.level .sum)) (levelAt expression .sum) := settles_levelAt product
  cases precedence with
  | product => exact settles_primary
  | sum => exact product
  | comparison => exact sum

end Levels

/-- What an expression reads does not depend on what follows, unless this extends it. -/
lemma settles_expression : Settles (Follow .expr) expression := by
  rw [expression_eq]
  exact settles_levelAt (settles_operandAt .comparison)

end Scriptlet.Parser
