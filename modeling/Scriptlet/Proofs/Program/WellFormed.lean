import Scriptlet.Proofs.Program.Regular

/-!
# Well-formed programs

Which trees can be written down, without regard to how they are read. Every expression has a rank:
primaries (numbers, names, parentheses and calls), products of primaries, sums of products, and
comparisons of sums, in which all symbols of a chain are the same. No statement without a block
starts with a name that is written like a keyword. Everything that is derived from well-formed
tokens is well-formed (`Phrase.formed`, `Sentence.formed`), and so is every program that a text
spells.
-/

namespace Scriptlet
open Grammar
open Token (front?)

/-- A text of word characters, the first of which is no digit. -/
def Text.IsName (text : String) : Prop :=
  text ≠ "" ∧ (∀ c ∈ text.toList, isWord c = true) ∧ Free Char.isDigit text.toList

instance (text : String) : Decidable (Text.IsName text) :=
  decidable_of_iff (text ≠ "" ∧ text.toList.all Text.isWord = true ∧
    text.toList.head?.all (!·.isDigit) = true) <| by
    cases first : text.toList.head? <;> simp [Text.IsName, Text.Free, first]

/-- A text of digits. -/
def Text.IsNumeral (text : String) : Prop :=
  text ≠ "" ∧ ∀ c ∈ text.toList, c.isDigit = true

/-- The number is what some digits are read as. -/
def Number.IsLiteral (x : Float) : Prop :=
  ∃ digits, Text.IsNumeral digits ∧ Number.read? digits = some x

namespace Expr

/-- The ranks of expressions from the tightest to the loosest. -/
inductive Rank where
  | primary
  | product
  | sum
  -- a chain of comparisons that all have the same symbol
  | chain (symbol : String)
  | expression

/-- Expressions that can be written down at a rank. -/
inductive WellFormed : Rank → Expr → Prop where
  | number {value : Float} (literal : Number.IsLiteral value) : WellFormed .primary (.number value)
  | name {text : String} (named : Text.IsName text) : WellFormed .primary (.variable text)
  | group {inner : Expr} (whole : WellFormed .expression inner) : WellFormed .primary (.group inner)
  | invoke {callee : Expr} {arguments : Option (List Expr)} (first : WellFormed .primary callee)
      (solid : ∀ list ∈ arguments, list ≠ [])
      (all : ∀ list ∈ arguments, ∀ e ∈ list, WellFormed .expression e) :
      WellFormed .primary (.invoke callee arguments)
  | ofPrimary {e : Expr} (whole : WellFormed .primary e) : WellFormed .product e
  | product {symbol : String} {left right : Expr} (among : symbol ∈ ["*", "/"])
      (first : WellFormed .product left) (second : WellFormed .primary right) :
      WellFormed .product (.binary symbol left right)
  | ofProduct {e : Expr} (whole : WellFormed .product e) : WellFormed .sum e
  | sum {symbol : String} {left right : Expr} (among : symbol ∈ ["+", "-"])
      (first : WellFormed .sum left) (second : WellFormed .product right) :
      WellFormed .sum (.binary symbol left right)
  | comparison {symbol : String} {left right : Expr}
      (among : symbol ∈ ["==", "!=", "<=", ">=", "<", ">"])
      (first : WellFormed .sum left) (second : WellFormed .sum right) :
      WellFormed (.chain symbol) (.binary symbol left right)
  | longer {symbol : String} {left right : Expr}
      (among : symbol ∈ ["==", "!=", "<=", ">=", "<", ">"])
      (first : WellFormed (.chain symbol) left) (second : WellFormed .sum right) :
      WellFormed (.chain symbol) (.binary symbol left right)
  | ofSum {e : Expr} (whole : WellFormed .sum e) : WellFormed .expression e
  | ofChain {e : Expr} {symbol : String} (whole : WellFormed (.chain symbol) e) :
      WellFormed .expression e

/-- The name of the variable that an expression starts with, if it starts with one. -/
def leftmost? : Expr → Option String
  | .variable name => some name
  | .binary _ left _ => left.leftmost?
  | .unfinished _ left => left.leftmost?
  | .invoke callee _ => callee.leftmost?
  | .number _ | .group _ | .negate _ => none

end Expr

/-- Statements that can be written down. -/
inductive Stmt.WellFormed : Stmt → Prop where
  | ifThen {condition : Expr} {body : List Stmt} (test : condition.WellFormed .expression)
      (block : ∀ stmt ∈ body, WellFormed stmt) : WellFormed (.ifThen condition body)
  | whileDo {condition : Expr} {body : List Stmt} (test : condition.WellFormed .expression)
      (block : ∀ stmt ∈ body, WellFormed stmt) : WellFormed (.whileDo condition body)
  | assign {name : String} {value : Expr} (named : Text.IsName name)
      (noKeyword : name ≠ "if" ∧ name ≠ "while") (source : value.WellFormed .expression) :
      WellFormed (.assign (.variable name) (some value))
  | expr {e : Expr} (action : e.WellFormed .expression)
      (noKeyword : e.leftmost? ≠ some "if" ∧ e.leftmost? ≠ some "while") : WellFormed (.expr e)

/-- Every statement of the program is well-formed. -/
def Program.WellFormed (program : Program) : Prop :=
  ∀ stmt ∈ program, stmt.WellFormed

namespace Grammar

/-! ## The first variable -/

/-- Joined operands start with what the first of them starts with. -/
lemma leftmost?_fold (precedence : Precedence) (first : Expr) (links : List (String × Expr)) :
    (fold precedence first links).leftmost? = first.leftmost? := by
  rw [fold]
  -- the label looks at the whole chain, of which the induction walks over an end
  generalize label links = labels
  induction links generalizing first with
  | nil => rfl
  | cons link links ih => exact ih _

/-- Calls start with what the callee starts with. -/
lemma leftmost?_foldl_invoke (head : Expr) (lists : List (Option (List Expr))) :
    (lists.foldl Expr.invoke head).leftmost? = head.leftmost? := by
  induction lists generalizing head with
  | nil => rfl
  | cons list lists ih => exact ih _

/-- What the phrase builds starts with a variable, if the category builds one expression. -/
def Category.leftmost? : (category : Category) → category.Meaning → Option String
  | .main, e | .primary, e | .operand _, e | .level _, e => e.leftmost?
  | .items, _ | .args, _ | .calls, _ | .links _, _ => none

/-- A keyword is no numeral. -/
lemma Keyword.text_not_numeral (keyword : Keyword) : ¬ Text.IsNumeral keyword.text := by
  rintro ⟨-, digits⟩
  cases keyword with
  | ifThen => exact absurd (digits 'i' (by decide)) (by decide)
  | whileDo => exact absurd (digits 'w' (by decide)) (by decide)

/-- A phrase starts with a keyword exactly if its first variable is written like one. -/
lemma Phrase.leftmost?_eq_keyword_iff {category : Category} (phrase : Phrase category)
    (solid : category.Solid) (formed : ∀ token ∈ phrase.tokens, token.WellFormed)
    (keyword : Keyword) :
    category.leftmost? phrase.value = some keyword.text ↔
      front? phrase.tokens = some keyword.text := by
  induction phrase with
  | number token value kind reads =>
    obtain ⟨_, text⟩ := token
    cases kind
    have digits : Text.IsNumeral text := formed _ List.mem_cons_self
    have other : text ≠ keyword.text := fun same => keyword.text_not_numeral (same ▸ digits)
    simp [Category.leftmost?, Phrase.value, tokens, Expr.leftmost?, other]
  | name token kind => simp [Category.leftmost?, value, tokens, Expr.leftmost?]
  | group opening inner closing ih =>
    have other : "(" ≠ keyword.text := by cases keyword <;> decide
    simp [Category.leftmost?, value, tokens, Expr.leftmost?, opening.spelled, other]
  | primary head lists ih _ =>
    have first := ih trivial (List.forall_mem_append.1 formed).1
    obtain ⟨start, rest, taken, -⟩ := head.exists_start trivial
    rw [taken] at first
    simpa [Category.leftmost?, value, tokens, taken, leftmost?_foldl_invoke] using first
  | ofPrimary phrase ih => exact ih trivial formed
  | ofProduct phrase ih => exact ih trivial formed
  | ofSum phrase ih => exact ih trivial formed
  | level first more ih _ =>
    have head := ih trivial (List.forall_mem_append.1 formed).1
    obtain ⟨start, rest, taken, -⟩ := first.exists_start trivial
    rw [taken] at head
    simpa [Category.leftmost?, value, tokens, taken, leftmost?_fold] using head
  | _ => exact solid.elim

/-! ## Derivations build well-formed trees -/

/-- The rank of the operands between the symbols of a precedence. -/
def operandRank : Precedence → Expr.Rank
  | .product => .primary
  | .sum => .product
  | .comparison => .sum

/-- The rank of operands with symbols of a precedence between them. -/
def levelRank : Precedence → Expr.Rank
  | .product => .product
  | .sum => .sum
  | .comparison => .expression

/-- What a phrase builds is well-formed. -/
def Category.Formed : (category : Category) → category.Meaning → Prop
  | .main, e | .primary, e => e.WellFormed .primary
  | .operand precedence, e => e.WellFormed (operandRank precedence)
  | .level precedence, e => e.WellFormed (levelRank precedence)
  | .items, list => ∀ e ∈ list, e.WellFormed .expression
  | .args, arguments =>
    ∀ list ∈ arguments, list ≠ [] ∧ ∀ e ∈ list, e.WellFormed .expression
  | .calls, lists =>
    ∀ arguments ∈ lists, ∀ list ∈ arguments, list ≠ [] ∧ ∀ e ∈ list, e.WellFormed .expression
  | .links precedence, chain =>
    ∀ link ∈ chain, link.1 ∈ symbols precedence ∧ link.2.WellFormed (operandRank precedence)

/-- Calls are well-formed if the callee and the arguments are. -/
lemma formed_foldl_invoke {head : Expr} {calls : List (Option (List Expr))}
    (formed : head.WellFormed .primary) (all : Category.calls.Formed calls) :
    (calls.foldl .invoke head).WellFormed .primary := by
  induction calls generalizing head with
  | nil => exact formed
  | cons arguments calls ih =>
    obtain ⟨first, others⟩ := List.forall_mem_cons.1 all
    apply ih _ others
    exact .invoke formed (fun list member => (first list member).1)
      fun list member => (first list member).2

/-- A chain is well-formed at a rank that is kept by every one of its links. -/
lemma formed_foldl {rank : Expr.Rank} {symbol : String × Expr → String} {first : Expr}
    {links : List (String × Expr)}
    (longer : ∀ {left : Expr}, left.WellFormed rank → ∀ link ∈ links,
      (Expr.binary (symbol link) left link.2).WellFormed rank)
    (formed : first.WellFormed rank) :
    (links.foldl (fun left link => .binary (symbol link) left link.2) first).WellFormed rank := by
  induction links generalizing first with
  | nil => exact formed
  | cons link links ih =>
    apply ih
    · exact fun left link member => longer left link (List.mem_cons_of_mem _ member)
    · exact longer formed link List.mem_cons_self

/-- Joined operands are well-formed at the rank of their level. -/
lemma formed_fold {precedence : Precedence} {first : Expr} {links : List (String × Expr)}
    (formed : first.WellFormed (operandRank precedence))
    (chain : (Category.links precedence).Formed links) :
    (fold precedence first links).WellFormed (levelRank precedence) := by
  cases precedence with
  | product =>
    exact formed_foldl (fun left link member => .product (chain link member).1 left
      (chain link member).2) (.ofPrimary formed)
  | sum =>
    exact formed_foldl (fun left link member => .sum (chain link member).1 left
      (chain link member).2) (.ofProduct formed)
  | comparison =>
    cases links with
    | nil => exact .ofSum formed
    | cons link links =>
      -- all nodes have the symbol of the first one
      obtain ⟨⟨among, second⟩, others⟩ := List.forall_mem_cons.1 chain
      have node := Expr.WellFormed.comparison among formed second
      have chained : Expr.WellFormed (.chain link.1)
          (links.foldl (fun left next => .binary link.1 left next.2)
            (.binary link.1 first link.2)) :=
        formed_foldl (fun left next member => .longer among left (others next member).2) node
      exact .ofChain chained

/-- What a phrase of well-formed tokens builds is well-formed. -/
lemma Phrase.formed {category : Category} (phrase : Phrase category)
    (formed : ∀ token ∈ phrase.tokens, token.WellFormed) : category.Formed phrase.value := by
  induction phrase with
  | number token value kind reads =>
    obtain ⟨_, text⟩ := token
    cases kind
    exact .number ⟨text, formed _ List.mem_cons_self, reads⟩
  | name token kind =>
    obtain ⟨_, text⟩ := token
    cases kind
    exact .name (formed _ List.mem_cons_self)
  | group opening inner closing ih =>
    simp only [tokens, List.forall_mem_cons, List.forall_mem_append] at formed
    exact .group (ih formed.2.1)
  | close closing => exact List.forall_mem_nil _
  | item argument comma more ihArgument ihMore =>
    simp only [tokens, List.forall_mem_cons, List.forall_mem_append] at formed
    exact List.forall_mem_cons.2 ⟨ihArgument formed.1, ihMore formed.2.2⟩
  | noArgs opening closing =>
    intro list same
    cases same
  | args opening first comma more ihFirst ihMore =>
    simp only [tokens, List.forall_mem_cons, List.forall_mem_append] at formed
    intro list same
    obtain rfl := Option.some.inj same
    exact ⟨List.cons_ne_nil _ _, List.forall_mem_cons.2 ⟨ihFirst formed.2.1, ihMore formed.2.2.2⟩⟩
  | noCalls => exact List.forall_mem_nil _
  | call list more ihList ihMore =>
    obtain ⟨formedList, formedMore⟩ := List.forall_mem_append.1 formed
    exact List.forall_mem_cons.2 ⟨ihList formedList, ihMore formedMore⟩
  | primary head lists ihHead ihLists =>
    obtain ⟨formedHead, formedLists⟩ := List.forall_mem_append.1 formed
    exact formed_foldl_invoke (ihHead formedHead) (ihLists formedLists)
  | ofPrimary phrase ih => exact ih formed
  | ofProduct phrase ih => exact ih formed
  | ofSum phrase ih => exact ih formed
  | noLinks => exact List.forall_mem_nil _
  | link op symbol right more ihRight ihMore =>
    simp only [tokens, List.forall_mem_cons, List.forall_mem_append] at formed
    exact List.forall_mem_cons.2 ⟨⟨symbol, ihRight formed.2.1⟩, ihMore formed.2.2⟩
  | level first more ihFirst ihMore =>
    obtain ⟨formedFirst, formedMore⟩ := List.forall_mem_append.1 formed
    exact formed_fold (ihFirst formedFirst) (ihMore formedMore)

/-- What a sentence builds is well-formed. -/
def Extent.Formed : (extent : Extent) → extent.Meaning → Prop
  | .one, stmt => stmt.WellFormed
  | .row, stmts => ∀ stmt ∈ stmts, stmt.WellFormed

/-- What a sentence of well-formed tokens builds is well-formed. -/
lemma Sentence.formed {extent : Extent} (sentence : Sentence extent)
    (formed : ∀ token ∈ sentence.tokens, token.WellFormed) : extent.Formed sentence.value := by
  induction sentence with
  | clause keyword word opening condition closing brace body unbrace ih =>
    simp only [tokens, List.forall_mem_cons, List.forall_mem_append] at formed
    obtain ⟨-, -, formedCondition, -, -, formedBody, -⟩ := formed
    have test : condition.value.WellFormed .expression := condition.formed formedCondition
    cases keyword with
    | ifThen => exact Stmt.WellFormed.ifThen test (ih formedBody)
    | whileDo => exact Stmt.WellFormed.whileDo test (ih formedBody)
  | assignment target kind noKeyword sign source semicolon =>
    simp only [tokens, List.forall_mem_cons, List.forall_mem_append] at formed
    obtain ⟨_, text⟩ := target
    cases kind
    exact Stmt.WellFormed.assign formed.1 ⟨noKeyword .ifThen, noKeyword .whileDo⟩
      (source.formed formed.2.2.1)
  | effect action noKeyword semicolon =>
    obtain ⟨formedAction, -⟩ := List.forall_mem_append.1 formed
    have starts := action.leftmost?_eq_keyword_iff trivial formedAction
    apply Stmt.WellFormed.expr (action.formed formedAction)
    exact ⟨fun first => noKeyword .ifThen ((starts .ifThen).1 first),
      fun first => noKeyword .whileDo ((starts .whileDo).1 first)⟩
  | none => exact List.forall_mem_nil _
  | more first others ihFirst ihOthers =>
    obtain ⟨formedFirst, formedOthers⟩ := List.forall_mem_append.1 formed
    exact List.forall_mem_cons.2 ⟨ihFirst formedFirst, ihOthers formedOthers⟩

end Grammar

/-- The tokens of a source text are well-formed. -/
lemma wellFormed_of_sourceTokens {source : String} {tokens : List Token}
    (handed : sourceTokens source = .ok tokens) : ∀ token ∈ tokens, token.WellFormed := by
  obtain ⟨all, cut, rfl⟩ := sourceTokens_eq_ok_iff.1 handed
  have formed := (Scanner.Lexes.iff_spelling.1 (tokenize_eq_ok_iff_lexes.1 cut)).2.1
  exact fun token member => formed token (List.mem_of_mem_filter member)

/-- Every program that a text spells is well-formed. -/
lemma Program.wellFormed_of_ofSource {source : String} {program : Program}
    (accepted : Program.ofSource source = .ok program) : program.WellFormed := by
  obtain ⟨derivation, handed, rfl, -⟩ := Program.exists_derivation_of_ofSource accepted
  exact derivation.formed (wellFormed_of_sourceTokens handed)

end Scriptlet
