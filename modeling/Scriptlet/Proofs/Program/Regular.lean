import Scriptlet.Proofs.Program.Append

/-!
# Regular programs

A tree is regular if every symbol in it is that of an operator, nothing is negated or unfinished,
and every assignment gives a variable a value. Only regular trees are derived, and so every program
that a text spells is regular.
-/

namespace Scriptlet
open Grammar

/-- Operators with two operands, variables, numbers, groups and calls. -/
inductive Expr.Regular : Expr → Prop where
  | number (value : Float) : Regular (.number value)
  | name (text : String) : Regular (.variable text)
  | binary (op : Operator) {left right : Expr} (first : Regular left) (second : Regular right) :
      Regular (.binary op.symbol left right)
  | group {inner : Expr} (whole : Regular inner) : Regular (.group inner)
  | invoke {callee : Expr} {arguments : Option (List Expr)} (first : Regular callee)
      (all : ∀ list ∈ arguments, ∀ e ∈ list, Regular e) : Regular (.invoke callee arguments)

/-- Statements over regular expressions that assign to variables only. -/
inductive Stmt.Regular : Stmt → Prop where
  | ifThen {condition : Expr} {body : List Stmt} (test : condition.Regular)
      (block : ∀ stmt ∈ body, Regular stmt) : Regular (.ifThen condition body)
  | whileDo {condition : Expr} {body : List Stmt} (test : condition.Regular)
      (block : ∀ stmt ∈ body, Regular stmt) : Regular (.whileDo condition body)
  | assign (name : String) {value : Expr} (source : value.Regular) :
      Regular (.assign (.variable name) (some value))
  | expr {e : Expr} (action : e.Regular) : Regular (.expr e)

/-- Every statement of the program is regular. -/
def Program.Regular (program : Program) : Prop :=
  ∀ stmt ∈ program, stmt.Regular

namespace Grammar

/-- What a phrase builds is made of regular expressions. -/
def Category.Regular : (category : Category) → category.Meaning → Prop
  | .main, e | .primary, e | .operand _, e | .level _, e => e.Regular
  | .items, list => ∀ e ∈ list, e.Regular
  | .args, arguments => ∀ list ∈ arguments, ∀ e ∈ list, e.Regular
  | .calls, lists => ∀ arguments ∈ lists, ∀ list ∈ arguments, ∀ e ∈ list, e.Regular
  | .links precedence, chain => ∀ link ∈ chain, link.1 ∈ symbols precedence ∧ link.2.Regular

/-- Every symbol between operands is that of an operator. -/
lemma exists_operator {precedence : Precedence} {text : String}
    (symbol : text ∈ symbols precedence) : ∃ op : Operator, op.symbol = text := by
  have found : ∀ text ∈ symbols precedence, (Operator.ofSymbol? text).isSome := by
    cases precedence <;> decide
  obtain ⟨op, among⟩ := Option.isSome_iff_exists.1 (found text symbol)
  exact ⟨op, Operator.symbol_of_ofSymbol?_eq_some among⟩

/-- The symbol at a node of a chain is one of the chain. -/
lemma label_mem_symbols {precedence : Precedence} {links : List (String × Expr)} {symbol : String}
    (member : symbol ∈ symbols precedence) (all : ∀ link ∈ links, link.1 ∈ symbols precedence) :
    label links symbol precedence ∈ symbols precedence := by
  cases precedence with
  | comparison =>
    cases links with
    | nil => exact member
    | cons link links => exact all link List.mem_cons_self
  | sum => exact member
  | product => exact member

/-- Joined operands are regular if the operands are. -/
lemma regular_fold {precedence : Precedence} {first : Expr} {links : List (String × Expr)}
    (regular : first.Regular) (chain : (Category.links precedence).Regular links) :
    (fold precedence first links).Regular := by
  have labels := fun link member => (chain link member).1
  -- the label looks at the whole chain, of which the induction walks over an end
  suffices walk : ∀ (rest : List (String × Expr)) (left : Expr), (∀ link ∈ rest, link ∈ links) →
      left.Regular →
      (rest.foldl (fun left link => .binary (label links link.1 precedence) left link.2)
        left).Regular from walk links first (fun _ member => member) regular
  intro rest
  induction rest with
  | nil => exact fun left _ regular => regular
  | cons link rest ih =>
    intro left among regular
    obtain ⟨member, among⟩ := List.forall_mem_cons.1 among
    refine ih _ among ?_
    obtain ⟨symbol, right⟩ := chain link member
    obtain ⟨op, spelled⟩ := exists_operator (label_mem_symbols symbol labels)
    have node : (Expr.binary op.symbol left link.2).Regular := .binary op regular right
    rwa [spelled] at node

/-- Calls are regular if the callee and the arguments are. -/
lemma regular_foldl_invoke {head : Expr} {calls : List (Option (List Expr))}
    (regular : head.Regular) (all : Category.calls.Regular calls) :
    (calls.foldl .invoke head).Regular := by
  induction calls generalizing head with
  | nil => exact regular
  | cons arguments calls ih =>
    obtain ⟨first, others⟩ := List.forall_mem_cons.1 all
    exact ih (.invoke regular first) others

/-- What a phrase builds is regular. -/
lemma Phrase.regular {category : Category} (phrase : Phrase category) :
    category.Regular phrase.value := by
  induction phrase with
  | number token value kind reads => exact Expr.Regular.number value
  | name token kind => exact Expr.Regular.name token.text
  | group opening inner closing ih => exact Expr.Regular.group ih
  | close closing => exact nofun
  | item argument comma more ihArgument ihMore => exact List.forall_mem_cons.2 ⟨ihArgument, ihMore⟩
  | noArgs opening closing => exact nofun
  | args opening first comma more ihFirst ihMore =>
    intro list same
    obtain rfl := Option.some.inj same
    exact List.forall_mem_cons.2 ⟨ihFirst, ihMore⟩
  | noCalls => exact nofun
  | call list more ihList ihMore => exact List.forall_mem_cons.2 ⟨ihList, ihMore⟩
  | primary head lists ihHead ihLists => exact regular_foldl_invoke ihHead ihLists
  | ofPrimary phrase ih => exact ih
  | ofProduct phrase ih => exact ih
  | ofSum phrase ih => exact ih
  | noLinks => exact nofun
  | link op symbol right more ihRight ihMore =>
    exact List.forall_mem_cons.2 ⟨⟨symbol, ihRight⟩, ihMore⟩
  | level first more ihFirst ihMore => exact regular_fold ihFirst ihMore

/-- What a sentence builds is regular. -/
def Extent.Regular : (extent : Extent) → extent.Meaning → Prop
  | .one, stmt => stmt.Regular
  | .row, stmts => ∀ stmt ∈ stmts, stmt.Regular

/-- What a sentence builds is regular. -/
lemma Sentence.regular {extent : Extent} (sentence : Sentence extent) :
    extent.Regular sentence.value := by
  induction sentence with
  | clause keyword word opening condition closing brace body unbrace ih =>
    cases keyword with
    | ifThen => exact Stmt.Regular.ifThen condition.regular ih
    | whileDo => exact Stmt.Regular.whileDo condition.regular ih
  | assignment target kind noKeyword sign source semicolon =>
    exact Stmt.Regular.assign target.text source.regular
  | effect action noKeyword semicolon => exact Stmt.Regular.expr action.regular
  | none => exact nofun
  | more first others ihFirst ihOthers => exact List.forall_mem_cons.2 ⟨ihFirst, ihOthers⟩

end Grammar

/-- Every program that a text spells is regular. -/
lemma Program.regular_of_ofSource {source : String} {program : Program}
    (accepted : Program.ofSource source = .ok program) : program.Regular := by
  obtain ⟨derivation, -, rfl, -⟩ := Program.exists_derivation_of_ofSource accepted
  exact derivation.regular

end Scriptlet
