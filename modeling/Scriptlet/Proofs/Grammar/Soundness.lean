import Scriptlet.Proofs.Grammar.Basic

/-!
# What parsers read is derived

Whenever a parser reads a value, the tokens it took have a derivation that builds this value
(`sound_expression`, `sound_statement`), and no longer phrase could have been taken: the token that
follows is none that would extend the phrase (`Follow`). This holds of all token lists. For parsers
with a nested parser in them it is shown under the assumption that the nested parser has the
property; the recursive equations then close the circle.
-/

namespace Scriptlet.Grammar
open Scriptlet.Parser
open Token (front?)

/-- The texts that would extend a level: an opening parenthesis and the symbols that bind at least
as tightly. -/
def extendingLevel : Precedence → List String
  | .product => ["(", "*", "/"]
  | .sum => ["(", "*", "/", "+", "-"]
  | .comparison => ["(", "*", "/", "+", "-", "==", "!=", "<=", ">=", "<", ">"]

/-- The texts that would extend a phrase if they followed it. -/
def Category.extending : Category → List String
  | .main | .items | .args => []
  | .calls | .primary | .operand .product => ["("]
  | .operand .sum => extendingLevel .product
  | .operand .comparison => extendingLevel .sum
  | .links precedence | .level precedence => extendingLevel precedence

/-- The tokens do not extend a phrase of the category that stands before them. -/
def Follow (category : Category) (rest : List Token) : Prop :=
  ∀ text ∈ category.extending, front? rest ≠ some text

/-- A level is extended by what extends its operands and by its own symbols. -/
lemma mem_extending_level {precedence : Precedence} {text : String} :
    text ∈ (Category.level precedence).extending ↔
      text ∈ (Category.operand precedence).extending ∨ text ∈ symbols precedence := by
  cases precedence <;> simp [Category.extending, extendingLevel, symbols] <;> tauto

/-- The symbols of a level are those of the operators of its precedence. -/
lemma mem_symbols_iff {precedence : Precedence} {text : String} :
    text ∈ symbols precedence ↔
      ∃ op, Operator.ofSymbol? text = some op ∧ op.precedence = precedence := by
  constructor
  · intro member
    cases precedence <;> simp only [symbols, List.mem_cons, List.not_mem_nil, or_false] at member
    case comparison =>
      rcases member with rfl | rfl | rfl | rfl | rfl | rfl
      · exact ⟨.equal, rfl, rfl⟩
      · exact ⟨.notEqual, rfl, rfl⟩
      · exact ⟨.lessEqual, rfl, rfl⟩
      · exact ⟨.greaterEqual, rfl, rfl⟩
      · exact ⟨.less, rfl, rfl⟩
      · exact ⟨.greater, rfl, rfl⟩
    case sum =>
      rcases member with rfl | rfl
      · exact ⟨.add, rfl, rfl⟩
      · exact ⟨.subtract, rfl, rfl⟩
    case product =>
      rcases member with rfl | rfl
      · exact ⟨.multiply, rfl, rfl⟩
      · exact ⟨.divide, rfl, rfl⟩
  · rintro ⟨op, found, rfl⟩
    rw [← Operator.symbol_of_ofSymbol?_eq_some found]
    cases op <;> decide

/-- An operator of the precedence is taken. -/
lemma operator?_of_mem {precedence : Precedence} {next : Token} (rest : List Token)
    (member : next.text ∈ symbols precedence) :
    ∃ op, operator? precedence (next :: rest) = .ok (some op) rest ∧ op.symbol = next.text := by
  obtain ⟨op, found, same⟩ := mem_symbols_iff.1 member
  refine ⟨op, ?_, Operator.symbol_of_ofSymbol?_eq_some found⟩
  simp [operator?, found, same]

/-- Where there is no operator of the precedence, everything stays as it is. -/
lemma operator?_of_not_mem {precedence : Precedence} {tokens : List Token}
    (none : ∀ text ∈ symbols precedence, front? tokens ≠ some text) :
    operator? precedence tokens = .ok .none tokens := by
  cases tokens with
  | nil => rfl
  | cons next rest =>
    simp only [operator?, List.head?_cons, Option.bind_some]
    cases found : Operator.ofSymbol? next.text with
    | none => rfl
    | some op =>
      have other : op.precedence ≠ precedence :=
        fun same => none _ (mem_symbols_iff.2 ⟨op, found, same⟩) rfl
      simp only [other, if_false]

/-- An operator is taken from the front, or no symbol of its precedence stands there. -/
lemma operator?_inv {precedence : Precedence} {tokens rest : List Token}
    {found : Option Operator} (read : operator? precedence tokens = .ok found rest) :
    (∃ op next, found = some op ∧ tokens = next :: rest ∧ next.text = op.symbol ∧
      next.text ∈ symbols precedence) ∨
    (found = none ∧ tokens = rest ∧ ∀ text ∈ symbols precedence, front? tokens ≠ some text) := by
  by_cases some : ∃ text ∈ symbols precedence, front? tokens = some text
  · obtain ⟨text, member, front⟩ := some
    obtain ⟨next, left, rfl, rfl⟩ := Token.exists_of_front? front
    obtain ⟨op, taken, spelled⟩ := operator?_of_mem left member
    rw [taken] at read
    cases read
    exact .inl ⟨op, next, rfl, rfl, spelled.symm, member⟩
  · push Not at some
    rw [operator?_of_not_mem some] at read
    cases read
    exact .inr ⟨rfl, rfl, some⟩

/-- A chain with the symbols of its operators. -/
def spelled (chain : List (Operator × Expr)) : List (String × Expr) :=
  chain.map fun link => (link.1.symbol, link.2)

/-- Chains are joined as the grammar says. -/
lemma join_eq_fold (precedence : Precedence) (first : Expr) (chain : List (Operator × Expr)) :
    join precedence first chain = fold precedence first (spelled chain) := by
  cases precedence with
  | comparison =>
    cases chain with
    | nil => rfl
    | cons link chain => simp [join, joinFirst, fold, spelled, label, List.foldl_map]
  | sum => simp [join, joinOwn, fold, spelled, label, List.foldl_map]
  | product => simp [join, joinOwn, fold, spelled, label, List.foldl_map]

/-! ## Expressions -/

/-- Whatever the parser reads is derived as a phrase of the category that cannot be extended. -/
def Sound (category : Category) (p : Parser category.Meaning) : Prop :=
  ∀ ⦃tokens value rest⦄, p tokens = .ok value rest →
    ∃ phrase : Phrase category,
      tokens = phrase.tokens ++ rest ∧ phrase.value = value ∧ Follow category rest

/-- A number or a name is derived from its token. -/
lemma leaf_inv {tokens rest : List Token} {value : Expr} (read : leaf tokens = .ok value rest) :
    ∃ phrase : Phrase .main, tokens = phrase.tokens ++ rest ∧ phrase.value = value := by
  match tokens with
  | [] => cases read
  | ⟨kind, text⟩ :: left =>
    cases kind
    case number =>
      simp only [leaf] at read
      split at read
      case h_1 x reads =>
        cases read
        exact ⟨.number ⟨.number, text⟩ x rfl reads, rfl, rfl⟩
      case h_2 => cases read
    case identifier =>
      cases read
      exact ⟨.name ⟨.identifier, text⟩ rfl, rfl, rfl⟩
    all_goals cases read

section Over

variable {p : Parser Expr}

/-- Operands are derived if expressions are. -/
lemma Sound.operand (sound : Sound .expr p) : Sound .main (operand p) := by
  intro tokens value rest whole
  obtain ⟨opened, between, front, read⟩ := bind_eq_ok_iff.1 whole
  rcases accept_eq_ok_iff.1 front with ⟨rfl, opening, rfl, isOpen⟩ | ⟨rfl, rfl, -⟩
  · obtain ⟨inner, after, inside, more⟩ := bind_eq_ok_iff.1 read
    obtain ⟨phrase, rfl, rfl, -⟩ := sound inside
    obtain ⟨closed, last, front, finish⟩ := bind_eq_ok_iff.1 more
    rcases accept_eq_ok_iff.1 front with ⟨rfl, closing, rfl, isClose⟩ | ⟨rfl, rfl, -⟩
    · cases finish
      refine ⟨.group ⟨opening, isOpen⟩ phrase ⟨closing, isClose⟩, ?_, rfl, nofun⟩
      simp [Phrase.tokens]
    · cases finish
  · obtain ⟨phrase, taken, built⟩ := leaf_inv read
    exact ⟨phrase, taken, built, nofun⟩

/-- The arguments of a list are derived if expressions are. -/
lemma Sound.items (sound : Sound .expr p) (advances : Advances p) :
    Sound .items (many (argument? p)) := by
  intro tokens values rest whole
  have steps := (many_eq_ok_iff (stepAdvances_argument? advances)).1 whole
  clear whole
  induction steps with
  | done step =>
    obtain ⟨closed, between, front, read⟩ := bind_eq_ok_iff.1 step
    rcases accept_eq_ok_iff.1 front with ⟨rfl, closing, rfl, isClose⟩ | ⟨rfl, rfl, -⟩
    · cases read
      exact ⟨.close ⟨closing, isClose⟩, rfl, rfl, nofun⟩
    · obtain ⟨value, after, -, more⟩ := bind_eq_ok_iff.1 read
      obtain ⟨_, last, -, finish⟩ := bind_eq_ok_iff.1 more
      cases finish
  | next step _ ih =>
    obtain ⟨others, rfl, rfl, -⟩ := ih
    obtain ⟨closed, between, front, read⟩ := bind_eq_ok_iff.1 step
    rcases accept_eq_ok_iff.1 front with ⟨rfl, closing, rfl, isClose⟩ | ⟨rfl, rfl, -⟩
    · cases read
    · obtain ⟨value, after, first, more⟩ := bind_eq_ok_iff.1 read
      obtain ⟨_, last, front, finish⟩ := bind_eq_ok_iff.1 more
      obtain ⟨comma, rfl, isComma⟩ := expect_eq_ok_iff.1 front
      obtain ⟨argument, rfl, rfl, -⟩ := sound first
      cases finish
      refine ⟨.item argument ⟨comma, isComma⟩ others, ?_, rfl, nofun⟩
      simp [Phrase.tokens]

/-- An argument list is derived wherever a parenthesis is opened. -/
lemma Sound.arguments (sound : Sound .expr p) (advances : Advances p) {tokens rest : List Token}
    {value : Option (List Expr)} (opened : front? tokens = some "(")
    (whole : arguments p tokens = .ok value rest) :
    ∃ phrase : Phrase .args, tokens = phrase.tokens ++ rest ∧ phrase.value = value := by
  obtain ⟨found, between, front, read⟩ := bind_eq_ok_iff.1 whole
  rcases accept_eq_ok_iff.1 front with ⟨rfl, opening, rfl, isOpen⟩ | ⟨rfl, rfl, other⟩
  · obtain ⟨values, after, inside, finish⟩ := bind_eq_ok_iff.1 read
    obtain ⟨items, rfl, rfl, -⟩ := sound.items advances inside
    cases items with
    | close closing =>
      cases finish
      exact ⟨.noArgs ⟨opening, isOpen⟩ closing, rfl, rfl⟩
    | item argument comma more =>
      cases finish
      exact ⟨.args ⟨opening, isOpen⟩ argument comma more, rfl, rfl⟩
  · exact absurd opened other

/-- Argument lists one after the other are derived if expressions are. -/
lemma Sound.calls (sound : Sound .expr p) (advances : Advances p) (recedes : Recedes p) :
    Sound .calls (many (argumentList? p)) := by
  intro tokens lists rest whole
  have steps := (many_eq_ok_iff (stepAdvances_argumentList? recedes)).1 whole
  clear whole
  induction steps with
  | @done tokens rest step =>
    obtain ⟨opened, between, front, read⟩ := bind_eq_ok_iff.1 step
    rw [sees_eq] at front
    cases front
    by_cases here : front? tokens = some "("
    · rw [if_pos (by simpa using here)] at read
      obtain ⟨values, after, -, finish⟩ := bind_eq_ok_iff.1 read
      cases finish
    · rw [if_neg (by simpa using here)] at read
      cases read
      -- the step saw no parenthesis, which is all that extends the lists
      refine ⟨.noCalls, rfl, rfl, ?_⟩
      simpa [Follow, Category.extending] using here
  | @next tokens list between lists rest step _ ih =>
    obtain ⟨more, rfl, rfl, follow⟩ := ih
    obtain ⟨opened, _, front, read⟩ := bind_eq_ok_iff.1 step
    rw [sees_eq] at front
    cases front
    by_cases here : front? tokens = some "("
    · rw [if_pos (by simpa using here)] at read
      obtain ⟨values, after, inside, finish⟩ := bind_eq_ok_iff.1 read
      cases finish
      obtain ⟨args, rfl, rfl⟩ := sound.arguments advances here inside
      refine ⟨.call args more, ?_, rfl, follow⟩
      simp [Phrase.tokens]
    · rw [if_neg (by simpa using here)] at read
      cases read

/-- Primary expressions are derived if expressions are. -/
lemma Sound.primary (sound : Sound .expr p) (advances : Advances p) (recedes : Recedes p) :
    Sound .primary (primary p) := by
  intro tokens value rest whole
  obtain ⟨head, between, first, read⟩ := bind_eq_ok_iff.1 whole
  obtain ⟨lists, last, more, finish⟩ := bind_eq_ok_iff.1 read
  obtain ⟨main, rfl, rfl, -⟩ := sound.operand first
  obtain ⟨calls, rfl, rfl, follow⟩ := sound.calls advances recedes more
  cases finish
  refine ⟨.primary main calls, ?_, rfl, follow⟩
  simp [Phrase.tokens]

/-- Operators with their right operands are derived. If they do not extend the operand before them,
nothing extends the level behind them. -/
lemma Sound.links {precedence : Precedence} {item : Parser Expr}
    (sound : Sound (.operand precedence) item) (advances : Advances item)
    {tokens rest : List Token} {chain : List (Operator × Expr)}
    (whole : links precedence item tokens = .ok chain rest) :
    ∃ phrase : Phrase (.links precedence),
      tokens = phrase.tokens ++ rest ∧ phrase.value = spelled chain ∧
      (Follow (.operand precedence) tokens → Follow (.level precedence) rest) := by
  have steps := (many_eq_ok_iff (stepAdvances_link? advances precedence)).1 whole
  clear whole
  induction steps with
  | done step =>
    obtain ⟨op, between, front, read⟩ := bind_eq_ok_iff.1 step
    rcases operator?_inv front with ⟨op, next, rfl, -⟩ | ⟨rfl, rfl, noSymbol⟩
    · obtain ⟨right, after, -, finish⟩ := bind_eq_ok_iff.1 read
      cases finish
    · cases read
      refine ⟨.noLinks, rfl, rfl, fun follow text member => ?_⟩
      -- an operator behind the level belongs to its operands or to the level itself
      rcases mem_extending_level.1 member with looser | own
      · exact follow text looser
      · exact noSymbol text own
  | next step _ ih =>
    obtain ⟨more, rfl, built, follow⟩ := ih
    obtain ⟨op, between, front, read⟩ := bind_eq_ok_iff.1 step
    rcases operator?_inv front with ⟨op, next, rfl, rfl, symbol, member⟩ | ⟨rfl, -⟩
    · obtain ⟨right, after, first, finish⟩ := bind_eq_ok_iff.1 read
      cases finish
      obtain ⟨operand, rfl, rfl, bounded⟩ := sound first
      refine ⟨.link next member operand more, ?_, ?_, fun _ => follow bounded⟩
      · simp [Phrase.tokens]
      · simp [Phrase.value, built, spelled, symbol]
    · cases read

/-- A level is derived if its operands are. -/
lemma Sound.levelAt {precedence : Precedence} (sound : Sound (.operand precedence)
    (operandAt p precedence)) (recedes : Recedes p) :
    Sound (.level precedence) (levelAt p precedence) := by
  intro tokens value rest whole
  rw [levelAt_eq] at whole
  obtain ⟨first, between, head, read⟩ := bind_eq_ok_iff.1 whole
  obtain ⟨chain, last, more, finish⟩ := bind_eq_ok_iff.1 read
  obtain ⟨operand, rfl, rfl, bounded⟩ := sound head
  obtain ⟨links, rfl, built, follow⟩ := sound.links (advances_operandAt recedes precedence) more
  cases finish
  refine ⟨.level operand links, ?_, ?_, follow bounded⟩
  · simp [Phrase.tokens]
  · rw [join_eq_fold, ← built]
    rfl

/-- The operands of every level are derived if expressions are. -/
lemma Sound.operandAt (sound : Sound .expr p) (advances : Advances p) (recedes : Recedes p)
    (precedence : Precedence) : Sound (.operand precedence) (operandAt p precedence) := by
  have product : Sound (.operand .product) (Parser.operandAt p .product) := by
    intro tokens value rest read
    obtain ⟨phrase, taken, built, follow⟩ := sound.primary advances recedes read
    exact ⟨.ofPrimary phrase, taken, built, follow⟩
  have sum : Sound (.operand .sum) (Parser.operandAt p .sum) := by
    intro tokens value rest read
    obtain ⟨phrase, taken, built, follow⟩ := product.levelAt recedes read
    exact ⟨.ofProduct phrase, taken, built, follow⟩
  cases precedence with
  | product => exact product
  | sum => exact sum
  | comparison =>
    intro tokens value rest read
    obtain ⟨phrase, taken, built, follow⟩ := sum.levelAt recedes read
    exact ⟨.ofSum phrase, taken, built, follow⟩

/-- Comparisons are derived if the expressions in them are. -/
lemma Sound.comparison (sound : Sound .expr p) (advances : Advances p) (recedes : Recedes p) :
    Sound .expr (comparison p) :=
  (sound.operandAt advances recedes .comparison).levelAt recedes

end Over

/-- A bounded expression takes a token. -/
lemma advances_expressionWithin (bound : List Token) : Advances (expressionWithin bound) := by
  cases bound with
  | nil => exact nofun
  | cons _ bound => exact advances_comparison (unrolls_expression.recedes_within bound)

/-- Every expression that is read is derived, and nothing that follows it extends it. -/
theorem sound_expression : Sound .expr expression := by
  have within : ∀ bound, Sound .expr (expressionWithin bound) := by
    intro bound
    induction bound with
    | nil => exact nofun
    | cons _ bound ih =>
      exact ih.comparison (advances_expressionWithin bound)
        (unrolls_expression.recedes_within bound)
  exact fun tokens _ _ read => within tokens read

/-! ## Names

An expression that builds a variable is a single name.
-/

/-- The tokens are one name. -/
def IsName (tokens : List Token) (name : String) : Prop :=
  ∃ token : Token, tokens = [token] ∧ token.kind = .identifier ∧ token.text = name

/-- Operands that are joined to a name are that name alone. -/
lemma fold_eq_variable {precedence : Precedence} {first : Expr} {links : List (String × Expr)}
    {name : String} (built : fold precedence first links = .variable name) :
    links = [] ∧ first = .variable name := by
  rcases List.eq_nil_or_concat links with rfl | ⟨front, last, rfl⟩
  · exact ⟨rfl, built⟩
  · simp [fold] at built

/-- Calls that come to a name are no calls. -/
lemma foldl_invoke_eq_variable {head : Expr} {lists : List (Option (List Expr))} {name : String}
    (built : lists.foldl .invoke head = .variable name) : lists = [] ∧ head = .variable name := by
  rcases List.eq_nil_or_concat lists with rfl | ⟨front, last, rfl⟩
  · exact ⟨rfl, built⟩
  · simp at built

/-- A primary expression whose value is a name is one token. -/
lemma isName_of_primary {phrase : Phrase .primary} {name : String}
    (built : phrase.value = .variable name) : IsName phrase.tokens name := by
  cases phrase with
  | primary head lists =>
    obtain ⟨noLists, built⟩ := foldl_invoke_eq_variable built
    cases lists with
    | noCalls =>
      cases head with
      | name token kind => exact ⟨token, rfl, kind, by simpa [Phrase.value] using built⟩
      | number => simp [Phrase.value] at built
      | group => simp [Phrase.value] at built
    | call list more => simp [Phrase.value] at noLists

/-- A level whose value is a name is one token if this holds of its operands. -/
lemma isName_of_level {precedence : Precedence} {name : String}
    (operand : ∀ phrase : Phrase (.operand precedence),
      phrase.value = .variable name → IsName phrase.tokens name)
    {phrase : Phrase (.level precedence)} (built : phrase.value = .variable name) :
    IsName phrase.tokens name := by
  cases phrase with
  | level first more =>
    obtain ⟨noLinks, built⟩ := fold_eq_variable built
    cases more with
    | noLinks => simpa [Phrase.tokens] using operand first built
    | link op symbol right more => simp [Phrase.value] at noLinks

/-- An expression whose value is a name is one token. -/
lemma isName_of_expr {phrase : Phrase .expr} {name : String}
    (built : phrase.value = .variable name) : IsName phrase.tokens name := by
  refine isName_of_level (fun | .ofSum sum, built => ?_) built
  refine isName_of_level (fun | .ofProduct product, built => ?_) built
  exact isName_of_level (fun | .ofPrimary primary, built => isName_of_primary built) built

/-! ## Statements -/

/-- A statement without a block is an assignment to a name or an expression, up to its
semicolon. -/
lemma simple_inv {tokens rest : List Token} {stmt : Stmt} (whole : simple tokens = .ok stmt rest) :
    (∃ (target : Token) (sign : Terminal "=") (source : Phrase .expr),
      target.kind = .identifier ∧ tokens = target :: sign.token :: (source.tokens ++ rest) ∧
      stmt = .assign (.variable target.text) (some source.value)) ∨
    (∃ action : Phrase .expr, tokens = action.tokens ++ rest ∧ stmt = .expr action.value) := by
  obtain ⟨first, between, head, read⟩ := bind_eq_ok_iff.1 whole
  obtain ⟨phrase, rfl, rfl, follow⟩ := sound_expression head
  obtain ⟨assigns, _, front, read⟩ := bind_eq_ok_iff.1 read
  rw [sees_eq] at front
  cases front
  by_cases assigned : front? between = some "="
  · rw [if_pos (by simpa using assigned)] at read
    obtain ⟨sign, after, rfl, isSign⟩ := Token.exists_of_front? assigned
    left
    cases built : phrase.value
    case «variable» name =>
      rw [built] at read
      obtain ⟨_, _, skip, more⟩ := bind_eq_ok_iff.1 read
      cases skip
      obtain ⟨value, last, inside, finish⟩ := bind_eq_ok_iff.1 more
      obtain ⟨source, taken, rfl, -⟩ := sound_expression inside
      cases finish
      obtain ⟨target, single, kind, rfl⟩ := isName_of_expr built
      refine ⟨target, ⟨sign, isSign⟩, source, kind, ?_, rfl⟩
      rw [single, ← taken]
      rfl
    all_goals
      rw [built] at read
      cases read
  · rw [if_neg (by simpa using assigned)] at read
    obtain ⟨calls, _, front, more⟩ := bind_eq_ok_iff.1 read
    rw [sees_eq] at front
    cases front
    -- nothing extends an expression that was read, so that no argument list can follow it
    have noCall : front? between ≠ some "(" := follow "(" (by decide)
    rw [if_neg (by simpa using noCall)] at more
    obtain ⟨ends, _, front, finish⟩ := bind_eq_ok_iff.1 more
    rw [sees_eq] at front
    cases front
    split at finish
    · cases finish
      exact .inr ⟨phrase, rfl, rfl⟩
    · cases finish

/-- Whatever the parser reads is derived as one statement. -/
def SoundStatement (p : Parser Stmt) : Prop :=
  ∀ ⦃tokens stmt rest⦄, p tokens = .ok stmt rest →
    ∃ sentence : Sentence .one, tokens = sentence.tokens ++ rest ∧ sentence.value = stmt

section Over

variable {p : Parser Stmt}

/-- Blocks are derived if statements are. -/
lemma SoundStatement.block (sound : SoundStatement p) (advances : Advances p)
    {tokens rest : List Token} {body : List Stmt} (whole : block p tokens = .ok body rest) :
    ∃ (row : Sentence .row) (unbrace : Terminal "\x7d"),
      tokens = row.tokens ++ unbrace.token :: rest ∧ row.value = body := by
  have steps := (many_eq_ok_iff (stepAdvances_blockItem? advances)).1 whole
  clear whole
  induction steps with
  | done step =>
    obtain ⟨closed, between, front, read⟩ := bind_eq_ok_iff.1 step
    rcases accept_eq_ok_iff.1 front with ⟨rfl, unbrace, rfl, isClose⟩ | ⟨rfl, rfl, -⟩
    · cases read
      exact ⟨.none, ⟨unbrace, isClose⟩, rfl, rfl⟩
    · obtain ⟨ended, _, stay, more⟩ := bind_eq_ok_iff.1 read
      split at more
      · cases more
      · obtain ⟨_, _, -, finish⟩ := bind_eq_ok_iff.1 more
        cases finish
  | next step _ ih =>
    obtain ⟨row, unbrace, rfl, rfl⟩ := ih
    obtain ⟨closed, between, front, read⟩ := bind_eq_ok_iff.1 step
    rcases accept_eq_ok_iff.1 front with ⟨rfl, _, rfl, -⟩ | ⟨rfl, rfl, -⟩
    · cases read
    · obtain ⟨ended, _, stay, more⟩ := bind_eq_ok_iff.1 read
      cases stay
      split at more
      · cases more
      · obtain ⟨_, _, first, finish⟩ := bind_eq_ok_iff.1 more
        cases finish
        obtain ⟨sentence, rfl, rfl⟩ := sound first
        refine ⟨.more sentence row, unbrace, ?_, rfl⟩
        simp [Sentence.tokens]

/-- Behind a keyword, a condition and a block make up a statement. -/
lemma SoundStatement.clause (sound : SoundStatement p) (advances : Advances p)
    (keyword : Keyword) (word : Terminal keyword.text) {tokens rest : List Token}
    {condition : Expr} {body : List Stmt} (whole : clause p tokens = .ok (condition, body) rest) :
    ∃ sentence : Sentence .one, word.token :: tokens = sentence.tokens ++ rest ∧
      sentence.value = keyword.build condition body := by
  obtain ⟨_, _, opened, read⟩ := bind_eq_ok_iff.1 whole
  obtain ⟨_, _, inside, more⟩ := bind_eq_ok_iff.1 read
  obtain ⟨_, _, closed, rest⟩ := bind_eq_ok_iff.1 more
  obtain ⟨_, _, braced, last⟩ := bind_eq_ok_iff.1 rest
  obtain ⟨_, _, block, finish⟩ := bind_eq_ok_iff.1 last
  cases finish
  obtain ⟨opening, rfl, isOpen⟩ := expect_eq_ok_iff.1 opened
  obtain ⟨phrase, rfl, rfl, -⟩ := sound_expression inside
  obtain ⟨closing, rfl, isClose⟩ := expect_eq_ok_iff.1 closed
  obtain ⟨brace, rfl, isBrace⟩ := expect_eq_ok_iff.1 braced
  obtain ⟨row, unbrace, rfl, rfl⟩ := sound.block advances block
  refine ⟨.clause keyword word ⟨opening, isOpen⟩ phrase ⟨closing, isClose⟩ ⟨brace, isBrace⟩ row
    unbrace, ?_, rfl⟩
  simp [Sentence.tokens]

/-- Statements are derived if those in their blocks are. -/
lemma SoundStatement.statementOver (sound : SoundStatement p) (advances : Advances p) :
    SoundStatement (statementOver p) := by
  intro tokens stmt rest whole
  obtain ⟨conditional, between, front, read⟩ := bind_eq_ok_iff.1 whole
  rcases accept_eq_ok_iff.1 front with ⟨rfl, word, rfl, isWord⟩ | ⟨rfl, rfl, noIf⟩
  · obtain ⟨⟨condition, body⟩, _, inside, finish⟩ := bind_eq_ok_iff.1 read
    cases finish
    exact sound.clause advances .ifThen ⟨word, isWord⟩ inside
  obtain ⟨loop, between, front, more⟩ := bind_eq_ok_iff.1 read
  rcases accept_eq_ok_iff.1 front with ⟨rfl, word, rfl, isWord⟩ | ⟨rfl, rfl, noWhile⟩
  · obtain ⟨⟨condition, body⟩, _, inside, finish⟩ := bind_eq_ok_iff.1 more
    cases finish
    exact sound.clause advances .whileDo ⟨word, isWord⟩ inside
  have noKeyword : ∀ keyword : Keyword, front? tokens ≠ some keyword.text := by
    intro keyword
    cases keyword with
    | ifThen => exact noIf
    | whileDo => exact noWhile
  obtain ⟨_, _, first, last⟩ := bind_eq_ok_iff.1 more
  obtain ⟨_, _, front, finish⟩ := bind_eq_ok_iff.1 last
  obtain ⟨semicolon, rfl, isEnd⟩ := expect_eq_ok_iff.1 front
  cases finish
  rcases simple_inv first with ⟨target, sign, source, kind, rfl, rfl⟩ | ⟨action, rfl, rfl⟩
  · have plain : ∀ keyword : Keyword, target.text ≠ keyword.text := by
      intro keyword same
      exact noKeyword keyword (by simp [same])
    refine ⟨.assignment target kind plain sign source ⟨semicolon, isEnd⟩, ?_, rfl⟩
    simp [Sentence.tokens]
  · have plain : ∀ keyword : Keyword, front? action.tokens ≠ some keyword.text := by
      intro keyword same
      obtain ⟨word, more, taken, isWord⟩ := Token.exists_of_front? same
      exact noKeyword keyword (by simp [taken, isWord])
    refine ⟨.effect action plain ⟨semicolon, isEnd⟩, ?_, rfl⟩
    simp [Sentence.tokens]

end Over

/-- Every statement that is read is derived. -/
theorem sound_statement : SoundStatement statement := by
  have within : ∀ bound,
      SoundStatement (statementWithin bound) ∧ Advances (statementWithin bound) := by
    intro bound
    induction bound with
    | nil => exact ⟨nofun, nofun⟩
    | cons _ bound ih =>
      obtain ⟨sound, advances⟩ := ih
      exact ⟨sound.statementOver advances,
        advances_statementOver (unrolls_statement.recedes_within bound)⟩
  exact fun tokens _ _ read => (within tokens).1 read

/-- Every program that is read is derived, and all tokens are taken. -/
theorem exists_derivation_of_program {tokens rest : List Token} {program : Program}
    (whole : Parser.program tokens = .ok program rest) :
    ∃ derivation : Derivation, derivation.tokens = tokens ∧ derivation.value = program ∧
      rest = [] := by
  have steps := (many_eq_ok_iff stepAdvances_programItem?).1 whole
  clear whole
  induction steps with
  | @done tokens rest step =>
    obtain ⟨ended, _, stay, read⟩ := bind_eq_ok_iff.1 step
    cases stay
    split at read
    case isTrue empty =>
      cases read
      obtain rfl := List.isEmpty_iff.1 empty
      exact ⟨.none, rfl, rfl, rfl⟩
    case isFalse =>
      obtain ⟨_, _, -, finish⟩ := bind_eq_ok_iff.1 read
      cases finish
  | next step _ ih =>
    obtain ⟨row, rfl, rfl, rfl⟩ := ih
    obtain ⟨ended, _, stay, read⟩ := bind_eq_ok_iff.1 step
    cases stay
    split at read
    case isTrue => cases read
    case isFalse =>
      obtain ⟨_, _, first, finish⟩ := bind_eq_ok_iff.1 read
      cases finish
      obtain ⟨sentence, rfl, rfl⟩ := sound_statement first
      exact ⟨.more sentence row, rfl, rfl, rfl⟩

end Scriptlet.Grammar
