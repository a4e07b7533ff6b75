import Mathlib.Tactic.Common
import Scriptlet.Program.Basic

/-!
# What programs are made of

An expression contains itself, its operands, its callee, its arguments, and whatever these contain.
A statement assigns the variables that stand on the left of an assignment somewhere in it. Where a
call stands on the left, nothing is assigned. The nodes of a program are all expressions that stand
somewhere in it, as a list.
-/

namespace Scriptlet

namespace Expr

/-- The expressions that an expression is put together from. -/
def parts : Expr → List Expr
  | .number _ | .variable _ => []
  | .binary _ left right => [left, right]
  | .unfinished _ left => [left]
  | .group inner | .negate inner => [inner]
  | .invoke callee arguments => callee :: arguments.getD []

/-- The second expression stands somewhere in the first, or is the first. -/
inductive Contains : Expr → Expr → Prop where
  | here {e : Expr} : Contains e e
  | deeper {e child part : Expr} (member : child ∈ e.parts) (inside : Contains child part) :
      Contains e part

/-- The variable stands somewhere in the expression. -/
def Mentions (e : Expr) (name : String) : Prop :=
  e.Contains (.variable name)

/-- A call stands somewhere in the expression. -/
def HasCall (e : Expr) : Prop :=
  ∃ callee arguments, e.Contains (.invoke callee arguments)

/-- What stands in an expression is the expression itself or stands in one of its parts. -/
lemma Contains.inv {e part : Expr} (contains : e.Contains part) :
    part = e ∨ ∃ child ∈ e.parts, child.Contains part := by
  cases contains with
  | here => exact .inl rfl
  | deeper member inside => exact .inr ⟨_, member, inside⟩

/-- A variable that stands in a part stands in the expression. -/
lemma Mentions.deeper {e child : Expr} {name : String} (member : child ∈ e.parts)
    (inside : child.Mentions name) : e.Mentions name :=
  Contains.deeper member inside

end Expr

/-- The statement contains an assignment to the variable. -/
inductive Stmt.Assigns : Stmt → String → Prop where
  | assign {name : String} (value : Option Expr) : Assigns (.assign (.variable name) value) name
  | ifThen {condition : Expr} {body : List Stmt} {stmt : Stmt} {name : String}
      (member : stmt ∈ body) (inside : Assigns stmt name) : Assigns (.ifThen condition body) name
  | whileDo {condition : Expr} {body : List Stmt} {stmt : Stmt} {name : String}
      (member : stmt ∈ body) (inside : Assigns stmt name) : Assigns (.whileDo condition body) name

/-- The program contains an assignment to the variable. -/
def Program.Assigns (program : Program) (name : String) : Prop :=
  ∃ stmt ∈ program, stmt.Assigns name

/-! ## Nodes -/

mutual

/-- The expression and all expressions that stand in it. -/
def Expr.nodes : Expr → List Expr
  | .number x => [.number x]
  | .variable name => [.variable name]
  | .binary symbol left right => .binary symbol left right :: (left.nodes ++ right.nodes)
  | .unfinished symbol left => .unfinished symbol left :: left.nodes
  | .group inner => .group inner :: inner.nodes
  | .invoke callee none => .invoke callee none :: callee.nodes
  | .invoke callee (some arguments) =>
    .invoke callee (some arguments) :: (callee.nodes ++ Expr.allNodes arguments)
  | .negate inner => .negate inner :: inner.nodes

/-- All expressions that stand in some of the expressions. -/
def Expr.allNodes : List Expr → List Expr
  | [] => []
  | e :: more => e.nodes ++ Expr.allNodes more

end

mutual

/-- All expressions that stand in the statement. -/
def Stmt.nodes : Stmt → List Expr
  | .ifThen condition body => condition.nodes ++ Stmt.allNodes body
  | .whileDo condition body => condition.nodes ++ Stmt.allNodes body
  | .assign target none => target.nodes
  | .assign target (some value) => target.nodes ++ value.nodes
  | .expr e => e.nodes

/-- All expressions that stand in some of the statements. -/
def Stmt.allNodes : List Stmt → List Expr
  | [] => []
  | stmt :: more => stmt.nodes ++ Stmt.allNodes more

end

/-- All expressions that stand in the program. -/
def Program.nodes (program : Program) : List Expr :=
  Stmt.allNodes program

/-- The expressions in some expressions are collected from each of them. -/
lemma Expr.allNodes_eq_flatMap (list : List Expr) : Expr.allNodes list = list.flatMap nodes := by
  induction list with
  | nil => rfl
  | cons e more ih => rw [Expr.allNodes, ih, List.flatMap_cons]

/-- The expressions in some statements are collected from each of them. -/
lemma Stmt.allNodes_eq_flatMap (stmts : List Stmt) : Stmt.allNodes stmts = stmts.flatMap nodes := by
  induction stmts with
  | nil => rfl
  | cons stmt more ih => rw [Stmt.allNodes, ih, List.flatMap_cons]

/-- What stands in a part of an expression stands in the expression. -/
lemma Expr.nodes_subset_of_mem_parts {e part : Expr} (member : part ∈ e.parts) :
    part.nodes ⊆ e.nodes := by
  cases e with
  | number | «variable» => cases member
  | binary symbol left right =>
    rw [Expr.nodes]
    simp only [parts, List.mem_cons, List.not_mem_nil, or_false] at member
    rcases member with rfl | rfl
    · exact List.subset_cons_of_subset _ (List.subset_append_left _ _)
    · exact List.subset_cons_of_subset _ (List.subset_append_right _ _)
  | unfinished | group | negate =>
    rw [Expr.nodes, List.mem_singleton.1 member]
    exact List.subset_cons_self _ _
  | invoke callee arguments =>
    cases arguments with
    | none =>
      rw [Expr.nodes, List.mem_singleton.1 member]
      exact List.subset_cons_self _ _
    | some list =>
      rw [Expr.nodes]
      apply List.subset_cons_of_subset
      rcases List.mem_cons.1 member with rfl | inside
      · exact List.subset_append_left _ _
      · apply List.subset_append_of_subset_right
        rw [Expr.allNodes_eq_flatMap]
        exact fun node => List.mem_flatMap_of_mem inside

end Scriptlet
