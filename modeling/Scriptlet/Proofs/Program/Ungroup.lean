import Scriptlet.Proofs.Grammar.Unambiguous
import Scriptlet.Proofs.Parser.Boundary
import Scriptlet.Proofs.Program.Parts
import Scriptlet.Proofs.Session.Fuel

/-!
# Parentheses

Parentheses decide how a text is read and mean nothing after that. An expression without its
parentheses does over all variables what it does with them (`Expr.eval_ungroup`), and so does a
program, step by step and with the same fuel. Only where a parenthesis stands on the left of an
assignment its removal shows. In a text, parentheses make a group of every expression that they are
put around (`Parser.read_group`).
-/

namespace Scriptlet

mutual

/-- The expression without parentheses. -/
def Expr.ungroup : Expr → Expr
  | .number x => .number x
  | .variable name => .variable name
  | .binary symbol left right => .binary symbol left.ungroup right.ungroup
  | .unfinished symbol left => .unfinished symbol left.ungroup
  | .group inner => inner.ungroup
  | .invoke callee none => .invoke callee.ungroup none
  | .invoke callee (some arguments) => .invoke callee.ungroup (some (Expr.ungroupAll arguments))
  | .negate inner => .negate inner.ungroup

/-- The expressions without parentheses. -/
def Expr.ungroupAll : List Expr → List Expr
  | [] => []
  | e :: more => e.ungroup :: Expr.ungroupAll more

end

mutual

/-- The statement without parentheses around expressions. -/
def Stmt.ungroup : Stmt → Stmt
  | .ifThen condition body => .ifThen condition.ungroup (Stmt.ungroupAll body)
  | .whileDo condition body => .whileDo condition.ungroup (Stmt.ungroupAll body)
  | .assign target value => .assign target.ungroup (value.map Expr.ungroup)
  | .expr e => .expr e.ungroup

/-- The statements without parentheses around expressions. -/
def Stmt.ungroupAll : List Stmt → List Stmt
  | [] => []
  | stmt :: more => stmt.ungroup :: Stmt.ungroupAll more

end

/-- The program without parentheses around expressions. -/
def Program.ungroup (program : Program) : Program :=
  Stmt.ungroupAll program

/-! ## No group is left -/

section Nodes

variable (inner : Expr)

mutual

/-- Without parentheses there is none left in an expression. -/
lemma Expr.group_not_mem_nodes : ∀ e : Expr, .group inner ∉ e.ungroup.nodes
  | .number x => by simp [Expr.ungroup, Expr.nodes]
  | .variable name => by simp [Expr.ungroup, Expr.nodes]
  | .binary symbol left right => by
    simp [Expr.ungroup, Expr.nodes, left.group_not_mem_nodes, right.group_not_mem_nodes]
  | .unfinished symbol left => by simp [Expr.ungroup, Expr.nodes, left.group_not_mem_nodes]
  | .group whole => by
    rw [Expr.ungroup]
    exact whole.group_not_mem_nodes
  | .invoke callee none => by simp [Expr.ungroup, Expr.nodes, callee.group_not_mem_nodes]
  | .invoke callee (some arguments) => by
    simp [Expr.ungroup, Expr.nodes, callee.group_not_mem_nodes,
      Expr.group_not_mem_allNodes arguments]
  | .negate whole => by simp [Expr.ungroup, Expr.nodes, whole.group_not_mem_nodes]

/-- Without parentheses there is none left in any of the expressions. -/
lemma Expr.group_not_mem_allNodes : ∀ list : List Expr,
    .group inner ∉ Expr.allNodes (Expr.ungroupAll list)
  | [] => by simp [Expr.ungroupAll, Expr.allNodes]
  | e :: more => by
    simp [Expr.ungroupAll, Expr.allNodes, e.group_not_mem_nodes, Expr.group_not_mem_allNodes more]

end

mutual

/-- Without parentheses there is none left in a statement. -/
lemma Stmt.group_not_mem_nodes : ∀ stmt : Stmt, .group inner ∉ stmt.ungroup.nodes
  | .ifThen condition body => by
    simp [Stmt.ungroup, Stmt.nodes, Expr.group_not_mem_nodes inner condition,
      Stmt.group_not_mem_allNodes body]
  | .whileDo condition body => by
    simp [Stmt.ungroup, Stmt.nodes, Expr.group_not_mem_nodes inner condition,
      Stmt.group_not_mem_allNodes body]
  | .assign target none => by simp [Stmt.ungroup, Stmt.nodes, Expr.group_not_mem_nodes inner target]
  | .assign target (some value) => by
    simp [Stmt.ungroup, Stmt.nodes, Expr.group_not_mem_nodes inner target,
      Expr.group_not_mem_nodes inner value]
  | .expr e => by simp [Stmt.ungroup, Stmt.nodes, Expr.group_not_mem_nodes inner e]

/-- Without parentheses there is none left in any of the statements. -/
lemma Stmt.group_not_mem_allNodes : ∀ stmts : List Stmt,
    .group inner ∉ Stmt.allNodes (Stmt.ungroupAll stmts)
  | [] => by simp [Stmt.ungroupAll, Stmt.allNodes]
  | stmt :: more => by
    simp [Stmt.ungroupAll, Stmt.allNodes, stmt.group_not_mem_nodes,
      Stmt.group_not_mem_allNodes more]

end

end Nodes

/-! ## Running -/

section Evaluation

variable (vars : Bindings)

mutual

/-- An expression has the same value and writes the same without its parentheses. -/
lemma Expr.eval_ungroup : ∀ e : Expr, e.ungroup.eval vars = e.eval vars
  | .number x => by rw [Expr.ungroup]
  | .variable name => by rw [Expr.ungroup]
  | .binary symbol left right => by
    rw [Expr.ungroup, Expr.eval, Expr.eval, left.eval_ungroup, right.eval_ungroup]
  | .unfinished symbol left => by rw [Expr.ungroup, Expr.eval, Expr.eval]
  | .group inner => by rw [Expr.ungroup, Expr.eval, inner.eval_ungroup]
  | .invoke callee none => by rw [Expr.ungroup, Expr.eval, Expr.eval, callee.eval_ungroup]
  | .invoke callee (some arguments) => by
    rw [Expr.ungroup, Expr.eval, Expr.eval, Expr.evalArguments, Expr.evalArguments,
      callee.eval_ungroup, Expr.evalAll_ungroupAll arguments]
  | .negate inner => by rw [Expr.ungroup, Expr.eval, Expr.eval, inner.eval_ungroup]

/-- Arguments have the same values without parentheses. -/
lemma Expr.evalAll_ungroupAll : ∀ list : List Expr,
    Expr.evalAll vars (Expr.ungroupAll list) = Expr.evalAll vars list
  | [] => by rw [Expr.ungroupAll]
  | e :: more => by
    rw [Expr.ungroupAll, Expr.evalAll, Expr.evalAll, e.eval_ungroup,
      Expr.evalAll_ungroupAll more]

end

end Evaluation

/-- An expression is evaluated in the same way without parentheses. -/
lemma Session.evaluate_ungroup (s : Session) (e : Expr) : s.evaluate e.ungroup = s.evaluate e := by
  simp only [Session.evaluate, Expr.eval_ungroup]

/-- A condition is tested in the same way without parentheses. -/
lemma Session.test_ungroup (s : Session) (condition : Expr) :
    s.test condition.ungroup = s.test condition := by
  simp only [Session.test, Expr.holds, Expr.eval_ungroup]

/-- A loop goes on in the same way without parentheses in its condition. -/
lemma Session.repeatWhile_ungroup (condition : Expr) (body : Session → Outcome Fault) (fuel : Nat)
    (s : Session) :
    Session.repeatWhile condition.ungroup body fuel s =
      Session.repeatWhile condition body fuel s := by
  induction fuel generalizing s with
  | zero => rfl
  | succ fuel ih =>
    rw [Session.repeatWhile_succ, Session.repeatWhile_succ, Session.test_ungroup, funext ih]

/-- Whatever is assigned to in the statement is a variable or a call. -/
inductive Stmt.Assignable : Stmt → Prop where
  | ifThen {condition : Expr} {body : List Stmt} (block : ∀ stmt ∈ body, Assignable stmt) :
      Assignable (.ifThen condition body)
  | whileDo {condition : Expr} {body : List Stmt} (block : ∀ stmt ∈ body, Assignable stmt) :
      Assignable (.whileDo condition body)
  | name {name : String} {value : Option Expr} : Assignable (.assign (.variable name) value)
  | call {callee : Expr} {arguments : Option (List Expr)} {value : Option Expr} :
      Assignable (.assign (.invoke callee arguments) value)
  | expr {e : Expr} : Assignable (.expr e)

section Running

variable {fuel : Nat}

/-- Statements run in the same way without parentheses if each of them does. -/
lemma Stmt.execAll_ungroupAll {stmts : List Stmt}
    (each : ∀ stmt ∈ stmts, stmt.ungroup.exec (fun _ s => s) fuel = stmt.exec (fun _ s => s) fuel) :
    Stmt.execAll (fun _ s => s) fuel (Stmt.ungroupAll stmts) =
      Stmt.execAll (fun _ s => s) fuel stmts := by
  induction stmts with
  | nil => rw [Stmt.ungroupAll]
  | cons stmt more ih =>
    obtain ⟨head, others⟩ := List.forall_mem_cons.1 each
    funext s
    rw [Stmt.ungroupAll, Stmt.execAll_cons, Stmt.execAll_cons, head, ih others]

/-- A statement does the same without its parentheses. -/
lemma Stmt.Assignable.exec_ungroup {stmt : Stmt} (assignable : stmt.Assignable) :
    stmt.ungroup.exec (fun _ s => s) fuel = stmt.exec (fun _ s => s) fuel := by
  funext s
  induction assignable generalizing s with
  | ifThen block ih =>
    rw [Stmt.ungroup, Stmt.exec_ifThen, Stmt.exec_ifThen, Session.test_ungroup,
      Stmt.execAll_ungroupAll fun stmt member => funext (ih stmt member)]
  | whileDo block ih =>
    rw [Stmt.ungroup, Stmt.exec_whileDo, Stmt.exec_whileDo, Session.test_ungroup,
      Stmt.execAll_ungroupAll fun stmt member => funext (ih stmt member)]
    simp only [Session.repeatWhile_ungroup]
  | @name name value =>
    rw [Stmt.ungroup, Expr.ungroup, Stmt.exec, Stmt.exec]
    cases value with
    | none => rfl
    | some e => simp only [Option.map_some, Session.assign, Session.evaluate_ungroup]
  | @call callee arguments value =>
    have same := s.evaluate_ungroup (.invoke callee arguments)
    rw [Stmt.ungroup, Stmt.exec, Stmt.exec]
    cases arguments with
    | none =>
      rw [Expr.ungroup] at same ⊢
      simp only [Session.assign, same]
    | some list =>
      rw [Expr.ungroup] at same ⊢
      simp only [Session.assign, same]
  | expr => rw [Stmt.ungroup, Stmt.exec, Stmt.exec, Session.evaluate_ungroup]

end Running

/-! ## Reading -/

namespace Parser
open Grammar

variable {tokens rest : List Token} {value : Expr}

/-- An operand is a whole level before what extends neither. -/
lemma levelAt_of_operandAt (precedence : Precedence)
    (read : operandAt expression precedence tokens = .ok value rest)
    (follow : Follow (.level precedence) rest) :
    levelAt expression precedence tokens = .ok value rest := by
  rw [levelAt_eq]
  refine bind_eq_ok_iff.2 ⟨_, _, read, ?_⟩
  refine bind_eq_ok_iff.2 ⟨_, _, many_of_none (link?_of_follow follow), ?_⟩
  cases precedence <;> rfl

/-- An operand that nothing extends is an expression. -/
lemma expression_of_operand (read : operand expression tokens = .ok value rest)
    (follow : Follow .expr rest) : expression tokens = .ok value rest := by
  have sum : Follow (.level .sum) rest := follow_operand .comparison follow
  have product : Follow (.level .product) rest := follow_operand .sum sum
  have lists : many (argumentList? expression) rest = .ok [] rest :=
    many_of_none (argumentList?_of_follow (follow_operand .product product))
  have primary : primary expression tokens = .ok value rest := by
    rw [primary_eq]
    exact bind_eq_ok_iff.2 ⟨_, _, read, bind_eq_ok_iff.2 ⟨_, _, lists, rfl⟩⟩
  rw [expression_eq]
  have ofProduct := levelAt_of_operandAt .product primary product
  have ofSum := levelAt_of_operandAt .sum ofProduct sum
  exact levelAt_of_operandAt .comparison ofSum follow

/-- In parentheses every expression is read as a group. -/
lemma read_group (opening : Terminal "(") (closing : Terminal ")")
    (read : expression tokens = .ok value []) :
    expression (opening.token :: (tokens ++ [closing.token])) = .ok (.group value) [] := by
  apply expression_of_operand _ (follow_nil .expr)
  have inside : expression (tokens ++ [closing.token]) = .ok value [closing.token] := by
    rw [← List.append_nil tokens] at read
    exact settles_expression read (follow_terminal closing [] (by decide))
  refine bind_eq_ok_iff.2 ⟨_, _, accept_terminal opening _, ?_⟩
  exact bind_eq_ok_iff.2 ⟨_, _, inside, bind_eq_ok_iff.2 ⟨_, _, accept_terminal closing [], rfl⟩⟩

end Parser

/-- Where only variables and calls are assigned to, the program without its parentheses does the
same from every session and with every amount of fuel, and no group is left in it. Tokens that are a
whole expression are read as a group of it in parentheses. -/
theorem Program.run_ungroup (program : Program)
    (assignable : ∀ stmt ∈ program, stmt.Assignable) :
    (∀ inner, .group inner ∉ program.ungroup.nodes) ∧
    (∀ fuel s, program.ungroup.run fuel s = program.run fuel s) ∧
    (∀ (opening : Grammar.Terminal "(") (closing : Grammar.Terminal ")") (tokens : List Token)
        (value : Expr),
      Parser.expression tokens = .ok value [] →
        Parser.expression (opening.token :: (tokens ++ [closing.token])) =
          .ok (.group value) []) := by
  refine ⟨fun inner => Stmt.group_not_mem_allNodes inner program, ?_, ?_⟩
  · intro fuel s
    exact congrFun
      (Stmt.execAll_ungroupAll fun stmt member => (assignable stmt member).exec_ungroup) s
  · intro opening closing tokens value read
    exact Parser.read_group opening closing read

/-- The program `f = (print); while ((true)) { (f)(((y)),); }` fails alike without parentheses, and
a name in parentheses is a group. -/
theorem Program.run_ungroup_of_aliased_callee :
    let program : Program :=
      [.assign (.variable "f") (some (.group (.variable "print"))),
        .whileDo (.group (.group (.variable "true")))
          [.expr (.call (.group (.variable "f")) [.group (.group (.variable "y"))])]]
    (∀ inner, .group inner ∉ program.ungroup.nodes) ∧
    (∀ fuel s, Program.run fuel
      [.assign (.variable "f") (some (.variable "print")),
        .whileDo (.variable "true") [.expr (.call (.variable "f") [.variable "y"])]] s =
      program.run fuel s) ∧
    Parser.expression [⟨.punctuation, "("⟩, ⟨.identifier, "y"⟩, ⟨.punctuation, ")"⟩] =
      .ok (.group (.variable "y")) [] := by
  intro program
  have assignable : ∀ stmt ∈ program, stmt.Assignable := by
    simp only [program, List.forall_mem_cons, List.not_mem_nil, IsEmpty.forall_iff, implies_true,
      and_true]
    refine ⟨.name, .whileDo ?_⟩
    simpa using Stmt.Assignable.expr
  obtain ⟨none, same, read⟩ := Program.run_ungroup program assignable
  exact ⟨none, same, read ⟨⟨.punctuation, "("⟩, rfl⟩ ⟨⟨.punctuation, ")"⟩, rfl⟩
    [⟨.identifier, "y"⟩] (.variable "y") rfl⟩

end Scriptlet
