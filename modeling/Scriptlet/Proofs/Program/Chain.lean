import Scriptlet.Proofs.Parser.Boundary
import Scriptlet.Proofs.Program.Denotation
import Scriptlet.Session.Basic

/-!
# Chains of comparisons

Sums with comparisons between them are read as a chain that goes by its first comparison: all others
are dropped. The answer to a comparison is a truth value, and order is between numbers. So a chain
of three sums or more that starts with an order has no value.
-/

namespace Scriptlet

/-- Tokens that are read as one sum, up to the last of them. -/
structure Parser.Sum where
  tokens : List Token
  value : Expr
  reads : sum expression tokens = .ok value []

/-- A comparison as it is written. -/
structure Parser.Comparison where
  op : Operator
  token : Token
  spelled : token.text = op.symbol
  compares : op.precedence = .comparison

/-- The tokens of comparisons with the sums behind them. -/
def Parser.linkTokens (links : List (Comparison × Sum)) : List Token :=
  links.flatMap fun link => link.1.token :: link.2.tokens

/-- At least two sums with comparisons between them. -/
structure Parser.Chain where
  first : Sum
  comparison : Comparison
  second : Sum
  more : List (Comparison × Sum)

namespace Parser.Chain

/-- The comparisons of a chain, each with the sum behind it. -/
def links (chain : Chain) : List (Comparison × Sum) :=
  (chain.comparison, chain.second) :: chain.more

/-- The tokens of a chain from left to right. -/
def tokens (chain : Chain) : List Token :=
  chain.first.tokens ++ linkTokens chain.links

/-- The sums behind the first one. -/
def others (chain : Chain) : List Sum :=
  chain.second :: chain.more.map Prod.snd

/-- The sums of a chain joined from the left, always by the first comparison. -/
def value (chain : Chain) : Expr :=
  chain.others.foldl (fun left right => .binary chain.comparison.op.symbol left right.value)
    chain.first.value

end Parser.Chain

/-! ## Reading -/

namespace Parser
open Grammar
open Token (front?)

/-- A token that is neither an operator nor an opening parenthesis does not extend an expression. -/
lemma follow_of_no_operator {rest : List Token}
    (ends : ∀ next ∈ rest.head?, Operator.ofSymbol? next.text = none ∧ next.text ≠ "(") :
    Follow .expr rest := by
  intro text member front
  obtain ⟨next, more, rfl, rfl⟩ := Token.exists_of_front? front
  obtain ⟨noOperator, noOpening⟩ := ends next rfl
  have operators : ∀ text ∈ Category.expr.extending,
      text = "(" ∨ (Operator.ofSymbol? text).isSome := by decide
  rcases operators next.text member with opening | operator
  · exact noOpening opening
  · rw [noOperator] at operator
    cases operator

namespace Comparison

variable (comparison : Comparison)

/-- The text of a comparison is one of the symbols of comparisons. -/
lemma mem_symbols : comparison.token.text ∈ symbols .comparison := by
  rw [mem_symbols_iff, comparison.spelled]
  exact ⟨comparison.op, Operator.ofSymbol?_symbol comparison.op, comparison.compares⟩

/-- A comparison is read as its operator. -/
lemma operator?_eq (rest : List Token) :
    operator? .comparison (comparison.token :: rest) = .ok (some comparison.op) rest := by
  rw [operator?, List.head?_cons, Option.bind_some, comparison.spelled, Operator.ofSymbol?_symbol]
  simp only [comparison.compares, if_true, List.tail_cons]

end Comparison

/-- A sum ends where a comparison follows or the whole expression ends. -/
lemma Sum.read_before_links (operand : Sum) (links : List (Comparison × Sum)) {rest : List Token}
    (follow : Follow .expr rest) :
    sum expression (operand.tokens ++ (linkTokens links ++ rest)) =
      .ok operand.value (linkTokens links ++ rest) := by
  have reads : sum expression (operand.tokens ++ []) = .ok operand.value [] := by
    rw [List.append_nil]
    exact operand.reads
  apply settles_operandAt .comparison reads
  cases links with
  | nil => exact follow_operand .comparison follow
  | cons link links =>
    intro text member front
    have same : link.1.token.text = text := Option.some.inj front
    exact not_mem_extending_operand link.1.mem_symbols (same ▸ member)

/-- Comparisons with the sums behind them are read one after the other. -/
lemma read_links (chain : List (Comparison × Sum)) {rest : List Token}
    (follow : Follow .expr rest) :
    links .comparison (sum expression) (linkTokens chain ++ rest) =
      .ok (chain.map fun link => (link.1.op, link.2.value)) rest := by
  have advances : StepAdvances (link? .comparison (sum expression)) :=
    stepAdvances_link? (advances_operandAt recedes_expression .comparison) .comparison
  rw [links_eq]
  induction chain with
  | nil => exact many_of_none (link?_of_follow follow)
  | cons link chain ih =>
    have operand := link.2.read_before_links chain follow
    have step : link? .comparison (sum expression)
        (link.1.token :: (link.2.tokens ++ (linkTokens chain ++ rest))) =
        .ok (some (link.1.op, link.2.value)) (linkTokens chain ++ rest) :=
      bind_eq_ok_iff.2 ⟨_, _, link.1.operator?_eq _, bind_eq_ok_iff.2 ⟨_, _, operand, rfl⟩⟩
    rw [linkTokens, List.flatMap_cons, List.cons_append, List.cons_append, List.append_assoc,
      ← linkTokens, many_of_some advances step]
    exact bind_eq_ok_iff.2 ⟨_, _, ih, rfl⟩

/-- A chain is read as its sums joined by the first comparison. -/
lemma Chain.read (chain : Chain) {rest : List Token} (follow : Follow .expr rest) :
    expression (chain.tokens ++ rest) = .ok chain.value rest := by
  rw [expression_eq, Chain.tokens, List.append_assoc]
  have first := chain.first.read_before_links chain.links follow
  have others := read_links chain.links follow
  refine bind_eq_ok_iff.2 ⟨_, _, first, bind_eq_ok_iff.2 ⟨_, _, others, ?_⟩⟩
  simp [Chain.value, Chain.others, Chain.links, joinFirst, List.foldl_map]

end Parser

/-! ## Evaluating -/

/-- The operators that ask for an order. -/
def Operator.orders : List Operator :=
  [.less, .greater, .lessEqual, .greaterEqual]

/-- Order is between numbers, and it is answered by a truth value. -/
lemma Operator.order_inv {op : Operator} (order : op ∈ Operator.orders) {left right value : Value}
    (applied : Operator.applySymbol op.symbol left right = .ok value) :
    (∃ x, left = .number x) ∧ ∃ answer, value = .boolean answer := by
  rw [Operator.applySymbol, Operator.ofSymbol?_symbol] at applied
  simp only [Operator.orders, List.mem_cons, List.not_mem_nil, or_false] at order
  rcases order with rfl | rfl | rfl | rfl
  all_goals
    cases left <;> cases right <;> cases applied
    exact ⟨⟨_, rfl⟩, _, rfl⟩

namespace Expr

variable {vars : Bindings} {left right : Expr}

/-- The expression has no value, whatever was written before. -/
def Fails (vars : Bindings) (e : Expr) : Prop :=
  ∀ sink, ∃ fault last, e.eval vars sink = (.error fault, last)

/-- An expression that never has a value fails. -/
lemma fails_of_no_value {e : Expr}
    (none : ∀ sink value last, e.eval vars sink ≠ (.ok value, last)) : e.Fails vars := by
  intro sink
  rcases evaluated : e.eval vars sink with ⟨fault | value, last⟩
  · exact ⟨fault, last, rfl⟩
  · exact absurd evaluated (none sink value last)

/-- An operation that has a value has a left operand with a value. -/
lemma eval_binary_inv {symbol : String} {value : Value} {sink last : Sink}
    (evaluated : (Expr.binary symbol left right).eval vars sink = (.ok value, last)) :
    ∃ a b middle, left.eval vars sink = (.ok a, middle) ∧
      Operator.applySymbol symbol a b = .ok value := by
  rw [eval] at evaluated
  obtain ⟨a, middle, first, evaluated⟩ := Writing.bind_eq_ok_iff.1 evaluated
  obtain ⟨b, _, -, evaluated⟩ := Writing.bind_eq_ok_iff.1 evaluated
  exact ⟨a, b, middle, first, (Writing.ofResult_eq_ok_iff.1 evaluated).1⟩

/-- An operation fails if its left operand does. -/
lemma Fails.binary (fails : left.Fails vars) (symbol : String) (right : Expr) :
    (Expr.binary symbol left right).Fails vars := by
  apply fails_of_no_value
  intro sink value last evaluated
  obtain ⟨a, b, middle, first, -⟩ := eval_binary_inv evaluated
  obtain ⟨fault, stopped, failed⟩ := fails sink
  rw [failed] at first
  cases first

/-- A chain fails if its beginning does. -/
lemma Fails.foldl (fails : left.Fails vars) (symbol : String)
    (others : List Parser.Sum) :
    (others.foldl (fun left right => .binary symbol left right.value) left).Fails vars := by
  induction others generalizing left with
  | nil => exact fails
  | cons right others ih => exact ih (fails.binary symbol right.value)

/-- The answer to a comparison is in no order. -/
lemma fails_order {op : Operator} (order : op ∈ Operator.orders) (third : Expr) :
    (Expr.binary op.symbol (.binary op.symbol left right) third).Fails vars := by
  apply fails_of_no_value
  intro sink value last evaluated
  obtain ⟨a, b, middle, first, applied⟩ := eval_binary_inv evaluated
  obtain ⟨_, _, _, -, compared⟩ := eval_binary_inv first
  obtain ⟨⟨x, number⟩, -⟩ := Operator.order_inv order applied
  obtain ⟨-, answer, truth⟩ := Operator.order_inv order compared
  cases number.symm.trans truth

end Expr

/-- A chain of order comparisons with more than two sums fails, since a truth value has no order. -/
lemma Parser.Chain.fails {chain : Parser.Chain} (order : chain.comparison.op ∈ Operator.orders)
    (long : chain.more ≠ []) (vars : Bindings) : chain.value.Fails vars := by
  obtain ⟨third, more, split⟩ := List.exists_cons_of_ne_nil long
  rw [Chain.value, Chain.others, split, List.map_cons, List.foldl_cons, List.foldl_cons]
  exact (Expr.fails_order order third.2.value).foldl _ _

/-- Before a token that is neither an operator nor an opening parenthesis, or at the end, a chain is
read as its sums joined from the left, always by the first comparison. The comparisons behind the
first make no difference. If the first one is an order and there are others, then the chain has no
value in any session. -/
theorem Parser.Chain.read_by_first (chain : Parser.Chain) (rest : List Token)
    (ends : ∀ next ∈ rest.head?, Operator.ofSymbol? next.text = none ∧ next.text ≠ "(") :
    Parser.expression (chain.tokens ++ rest) = .ok chain.value rest ∧
    (∀ others : List (Parser.Comparison × Parser.Sum),
      others.map Prod.snd = chain.more.map Prod.snd →
        Parser.expression ({ chain with more := others }.tokens ++ rest) = .ok chain.value rest) ∧
    (chain.comparison.op ∈ Operator.orders → chain.more ≠ [] →
      ∀ s : Session, ∃ fault last, s.evaluate chain.value = (.error fault, last)) := by
  have follow := follow_of_no_operator ends
  refine ⟨chain.read follow, ?_, ?_⟩
  · intro others same
    rw [Chain.read _ follow, Chain.value, Chain.value, Chain.others, Chain.others, same]
  · intro order long s
    obtain ⟨fault, sink, failed⟩ := chain.fails order long s.vars s.sink
    refine ⟨fault, { s with sink }, ?_⟩
    rw [Session.evaluate, Session.perform, failed]

/-- A sum, a parenthesis and a call as they stand in `a+b<(c==d)<=f(a,);`, and the two comparisons
between them. -/
def Parser.Chain.ofThree : Parser.Chain where
  first := ⟨[⟨.identifier, "a"⟩, ⟨.punctuation, "+"⟩, ⟨.identifier, "b"⟩], _, rfl⟩
  comparison := ⟨.less, ⟨.punctuation, "<"⟩, rfl, rfl⟩
  second := ⟨[⟨.punctuation, "("⟩, ⟨.identifier, "c"⟩, ⟨.punctuation, "=="⟩, ⟨.identifier, "d"⟩,
    ⟨.punctuation, ")"⟩], _, rfl⟩
  more := [(⟨.lessEqual, ⟨.punctuation, "<="⟩, rfl, rfl⟩,
    ⟨[⟨.identifier, "f"⟩, ⟨.punctuation, "("⟩, ⟨.identifier, "a"⟩, ⟨.punctuation, ","⟩,
      ⟨.punctuation, ")"⟩], _, rfl⟩)]

/-- Three sums with an order and another comparison between them. -/
theorem Parser.Chain.read_by_first_of_three :
    Parser.expression (Parser.Chain.ofThree.tokens ++ [⟨.punctuation, ";"⟩]) =
      .ok (.binary "<" (.binary "<" (.binary "+" (.variable "a") (.variable "b"))
          (.group (.binary "==" (.variable "c") (.variable "d"))))
        (.call (.variable "f") [.variable "a"])) [⟨.punctuation, ";"⟩] ∧
    ∃ fault last, (Session.fresh 0 .unlimited).evaluate Parser.Chain.ofThree.value =
      (.error fault, last) := by
  obtain ⟨read, -, fails⟩ := Parser.Chain.read_by_first .ofThree [⟨.punctuation, ";"⟩]
    (by rintro next ⟨⟩; decide)
  exact ⟨read, fails (by decide) (List.cons_ne_nil _ _) _⟩

end Scriptlet
