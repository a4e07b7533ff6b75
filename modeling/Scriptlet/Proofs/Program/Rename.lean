import Scriptlet.Proofs.Program.Written
import Scriptlet.Proofs.Value.Text

/-!
# Renaming the variables of a program

A renaming turns names into names, different ones into different ones. It leaves alone the keywords,
the names that every session starts with and the names that are the text of a value. A program that
a text spells is still spelled by some text after its variables are renamed.
-/

namespace Scriptlet

/-- The names that no renaming touches: those that every session starts with, the keywords, and the
texts of values. -/
def Renaming.kept : List String :=
  ["true", "false", "print", "if", "while", "True", "False", "nil", "inf", "NaN"]

/-- A renaming of variables. -/
structure Renaming where
  /-- The new name for a name. -/
  rename : String → String
  named : ∀ {name}, Text.IsName name → Text.IsName (rename name)
  injective : ∀ {first second}, Text.IsName first → Text.IsName second →
    rename first = rename second → first = second
  fixed : ∀ name ∈ Renaming.kept, rename name = name

instance : CoeFun Renaming fun _ => String → String :=
  ⟨Renaming.rename⟩

section Renaming

variable (ρ : Renaming)

mutual

/-- The expression with its variables renamed. -/
def Expr.rename : Expr → Expr
  | .number x => .number x
  | .variable name => .variable (ρ name)
  | .binary symbol left right => .binary symbol left.rename right.rename
  | .unfinished symbol left => .unfinished symbol left.rename
  | .group inner => .group inner.rename
  | .invoke callee none => .invoke callee.rename none
  | .invoke callee (some arguments) => .invoke callee.rename (some (Expr.renameAll arguments))
  | .negate inner => .negate inner.rename

/-- The expressions with their variables renamed. -/
def Expr.renameAll : List Expr → List Expr
  | [] => []
  | e :: more => e.rename :: Expr.renameAll more

end

mutual

/-- The statement with its variables renamed. -/
def Stmt.rename : Stmt → Stmt
  | .ifThen condition body => .ifThen (condition.rename ρ) (Stmt.renameAll body)
  | .whileDo condition body => .whileDo (condition.rename ρ) (Stmt.renameAll body)
  | .assign target value => .assign (target.rename ρ) (value.map (Expr.rename ρ))
  | .expr e => .expr (e.rename ρ)

/-- The statements with their variables renamed. -/
def Stmt.renameAll : List Stmt → List Stmt
  | [] => []
  | stmt :: more => stmt.rename :: Stmt.renameAll more

end

/-- The program with its variables renamed. -/
def Program.rename (program : Program) : Program :=
  Stmt.renameAll ρ program

/-- Expressions are renamed one by one. -/
lemma Expr.renameAll_eq_map (list : List Expr) :
    Expr.renameAll ρ list = list.map (Expr.rename ρ) := by
  induction list with
  | nil => rw [Expr.renameAll, List.map_nil]
  | cons e list ih => rw [Expr.renameAll, List.map_cons, ih]

/-- A call is renamed in its callee and in its arguments. -/
lemma Expr.rename_invoke (callee : Expr) (arguments : Option (List Expr)) :
    (Expr.invoke callee arguments).rename ρ =
      .invoke (callee.rename ρ) (arguments.map (List.map (Expr.rename ρ))) := by
  cases arguments with
  | none =>
    rw [Expr.rename]
    rfl
  | some list =>
    rw [Expr.rename, Expr.renameAll_eq_map]
    rfl

/-- Statements are renamed one by one. -/
lemma Stmt.renameAll_eq_map (stmts : List Stmt) :
    Stmt.renameAll ρ stmts = stmts.map (Stmt.rename ρ) := by
  induction stmts with
  | nil => rw [Stmt.renameAll, List.map_nil]
  | cons stmt stmts ih => rw [Stmt.renameAll, List.map_cons, ih]

/-! ## Well-formed programs -/

/-- Only a keyword is renamed to it. -/
lemma Renaming.ne_of_ne {name other : String} (named : Text.IsName name)
    (among : other ∈ ["if", "while"]) (distinct : name ≠ other) : ρ name ≠ other := by
  intro same
  have keywords : ∀ other ∈ ["if", "while"], Text.IsName other ∧ other ∈ Renaming.kept := by decide
  obtain ⟨named', kept⟩ := keywords other among
  exact distinct (ρ.injective named named' (same.trans (ρ.fixed other kept).symm))

/-- The variable that an expression starts with is renamed. -/
lemma Expr.leftmost?_rename (e : Expr) :
    (e.rename ρ).leftmost? = e.leftmost?.map ρ := by
  cases e with
  | number | group | negate | «variable» =>
    rw [Expr.rename]
    rfl
  | binary symbol left right =>
    rw [Expr.rename, Expr.leftmost?, Expr.leftmost?, Expr.leftmost?_rename left]
  | unfinished symbol left =>
    rw [Expr.rename, Expr.leftmost?, Expr.leftmost?, Expr.leftmost?_rename left]
  | invoke callee arguments =>
    rw [Expr.rename_invoke, Expr.leftmost?, Expr.leftmost?, Expr.leftmost?_rename callee]

/-- The variable that a well-formed expression starts with has a name. -/
lemma Expr.WellFormed.isName_leftmost? {rank : Expr.Rank} {e : Expr} (formed : e.WellFormed rank) :
    ∀ name, e.leftmost? = some name → Text.IsName name := by
  induction formed with
  | number | group => exact nofun
  | @name text named =>
    intro name first
    exact Option.some.inj first ▸ named
  | invoke first solid all ihFirst ihAll => exact ihFirst
  | ofPrimary whole ih | ofProduct whole ih | ofSum whole ih | ofChain whole ih => exact ih
  | product among first second ihFirst ihSecond | sum among first second ihFirst ihSecond
  | comparison among first second ihFirst ihSecond
  | longer among first second ihFirst ihSecond => exact ihFirst

variable {ρ}

/-- A renamed expression can be written down at the same rank. -/
lemma Expr.WellFormed.rename {rank : Expr.Rank} {e : Expr} (formed : e.WellFormed rank) :
    (e.rename ρ).WellFormed rank := by
  induction formed with
  | number literal =>
    rw [Expr.rename]
    exact .number literal
  | name named =>
    rw [Expr.rename]
    exact .name (ρ.named named)
  | group whole ih =>
    rw [Expr.rename]
    exact .group ih
  | @invoke callee arguments first solid all ihFirst ihAll =>
    rw [Expr.rename_invoke]
    cases arguments with
    | none => exact .invoke ihFirst nofun nofun
    | some list =>
      apply Expr.WellFormed.invoke ihFirst
      · simpa using solid list rfl
      · simpa using ihAll list rfl
  | ofPrimary whole ih => exact .ofPrimary ih
  | product among first second ihFirst ihSecond =>
    rw [Expr.rename]
    exact .product among ihFirst ihSecond
  | ofProduct whole ih => exact .ofProduct ih
  | sum among first second ihFirst ihSecond =>
    rw [Expr.rename]
    exact .sum among ihFirst ihSecond
  | comparison among first second ihFirst ihSecond =>
    rw [Expr.rename]
    exact .comparison among ihFirst ihSecond
  | longer among first second ihFirst ihSecond =>
    rw [Expr.rename]
    exact .longer among ihFirst ihSecond
  | ofSum whole ih => exact .ofSum ih
  | ofChain whole ih => exact .ofChain ih

/-- An expression that does not start with a keyword does not get one in front. -/
lemma Expr.WellFormed.leftmost?_rename_ne {e : Expr} (formed : e.WellFormed .expression)
    {keyword : String} (among : keyword ∈ ["if", "while"]) (other : e.leftmost? ≠ some keyword) :
    (e.rename ρ).leftmost? ≠ some keyword := by
  rw [Expr.leftmost?_rename]
  intro first
  obtain ⟨name, found, same⟩ := Option.map_eq_some_iff.1 first
  have distinct : name ≠ keyword := fun same => other (same ▸ found)
  exact ρ.ne_of_ne (formed.isName_leftmost? name found) among distinct same

/-- A renamed statement can be written down. -/
lemma Stmt.WellFormed.rename {stmt : Stmt} (formed : stmt.WellFormed) :
    (stmt.rename ρ).WellFormed := by
  induction formed with
  | ifThen test block ih =>
    rw [Stmt.rename, Stmt.renameAll_eq_map]
    exact .ifThen test.rename (List.forall_mem_map.2 ih)
  | whileDo test block ih =>
    rw [Stmt.rename, Stmt.renameAll_eq_map]
    exact .whileDo test.rename (List.forall_mem_map.2 ih)
  | assign named noKeyword source =>
    rw [Stmt.rename, Expr.rename]
    apply Stmt.WellFormed.assign (ρ.named named) _ source.rename
    exact ⟨ρ.ne_of_ne named (by decide) noKeyword.1,
      ρ.ne_of_ne named (by decide) noKeyword.2⟩
  | expr action noKeyword =>
    rw [Stmt.rename]
    apply Stmt.WellFormed.expr action.rename
    exact ⟨action.leftmost?_rename_ne (by decide) noKeyword.1,
      action.leftmost?_rename_ne (by decide) noKeyword.2⟩

/-- A renamed program can be written down. -/
lemma Program.WellFormed.rename {program : Program} (formed : program.WellFormed) :
    (program.rename ρ).WellFormed := by
  rw [Program.WellFormed, Program.rename, Stmt.renameAll_eq_map, List.forall_mem_map]
  exact fun stmt member => (formed stmt member).rename

/-- A program that can be written down has a source text. -/
lemma Program.WellFormed.exists_source {program : Program} (formed : program.WellFormed) :
    ∃ source, Program.ofSource source = .ok program := by
  obtain ⟨numeral, spells⟩ := Number.exists_spells
  exact ⟨_, formed.ofSource_eq spells (Token.laidOut_intercalate _)⟩

end Renaming

end Scriptlet
