import Scriptlet.Proofs.Number.Literal
import Scriptlet.Proofs.Program.Outline
import Scriptlet.Proofs.Program.Parts

/-!
# Programs with the same outline

Two programs are alike if they differ in nothing but numbers that are written the same. In the
outline of a program that a text spells the first word of every row tells what the row stands for,
and a number that is finite is not written like a name. So programs with the same outline are alike,
even if variables are named like the words of an outline.
-/

namespace Scriptlet
open Grammar

/-- The expressions differ in nothing but numbers that are written the same. -/
inductive Expr.Alike : Expr → Expr → Prop where
  | number {x y : Float} (same : Number.text x = Number.text y) : Alike (.number x) (.number y)
  | name (name : String) : Alike (.variable name) (.variable name)
  | binary (symbol : String) {left left' right right' : Expr} (first : Alike left left')
      (second : Alike right right') :
      Alike (.binary symbol left right) (.binary symbol left' right')
  | unfinished (symbol : String) {left left' : Expr} (first : Alike left left') :
      Alike (.unfinished symbol left) (.unfinished symbol left')
  | group {inner inner' : Expr} (whole : Alike inner inner') : Alike (.group inner) (.group inner')
  | bareCall {callee callee' : Expr} (first : Alike callee callee') :
      Alike (.invoke callee none) (.invoke callee' none)
  | call {callee callee' : Expr} {list list' : List Expr} (first : Alike callee callee')
      (all : List.Forall₂ Alike list list') :
      Alike (.invoke callee (some list)) (.invoke callee' (some list'))
  | negate {inner inner' : Expr} (whole : Alike inner inner') :
      Alike (.negate inner) (.negate inner')

/-- The statements differ in nothing but numbers that are written the same. -/
inductive Stmt.Alike : Stmt → Stmt → Prop where
  | ifThen {condition condition' : Expr} {body body' : List Stmt}
      (test : condition.Alike condition') (block : List.Forall₂ Alike body body') :
      Alike (.ifThen condition body) (.ifThen condition' body')
  | whileDo {condition condition' : Expr} {body body' : List Stmt}
      (test : condition.Alike condition') (block : List.Forall₂ Alike body body') :
      Alike (.whileDo condition body) (.whileDo condition' body')
  | assign {target target' value value' : Expr} (goal : target.Alike target')
      (source : value.Alike value') :
      Alike (.assign target (some value)) (.assign target' (some value'))
  | clear {target target' : Expr} (goal : target.Alike target') :
      Alike (.assign target none) (.assign target' none)
  | expr {e e' : Expr} (action : e.Alike e') : Alike (.expr e) (.expr e')

/-- The programs differ in nothing but numbers that are written the same. -/
def Program.Alike (program program' : Program) : Prop :=
  List.Forall₂ Stmt.Alike program program'

/-- No number among the expressions lies beyond all finite ones. -/
def Expr.AllFinite (nodes : List Expr) : Prop :=
  ∀ x, .number x ∈ nodes → Magnitude.ofFloat x ≠ .infinite false

/-! ## Legible programs -/

/-- An expression whose outline tells what stands where. -/
inductive Expr.Legible : Expr → Prop where
  | number {x : Float} (starts : ∃ c, (Number.text x).toList.head? = some c ∧ c.isDigit = true)
      (digits : ∀ c ∈ (Number.text x).toList, c.isDigit = true ∨ c = '.') : Legible (.number x)
  | name {name : String} (named : Text.IsName name) : Legible (.variable name)
  | binary (precedence : Precedence) {symbol : String} {left right : Expr}
      (among : symbol ∈ symbols precedence) (first : Legible left) (second : Legible right) :
      Legible (.binary symbol left right)
  | group {inner : Expr} (whole : Legible inner) : Legible (.group inner)
  | invoke {callee : Expr} {arguments : Option (List Expr)} (first : Legible callee)
      (solid : arguments ≠ some []) (all : ∀ e ∈ arguments.getD [], Legible e) :
      Legible (.invoke callee arguments)

/-- A statement whose outline tells what stands where. -/
inductive Stmt.Legible : Stmt → Prop where
  | ifThen {condition : Expr} {body : List Stmt} (test : condition.Legible)
      (block : ∀ stmt ∈ body, Legible stmt) : Legible (.ifThen condition body)
  | whileDo {condition : Expr} {body : List Stmt} (test : condition.Legible)
      (block : ∀ stmt ∈ body, Legible stmt) : Legible (.whileDo condition body)
  | assign {name : String} {value : Expr} (named : Text.IsName name) (source : value.Legible) :
      Legible (.assign (.variable name) (some value))
  | expr {e : Expr} (action : e.Legible) : Legible (.expr e)

namespace Expr

/-- Among fewer expressions all numbers are finite too. -/
lemma AllFinite.mono {nodes nodes' : List Expr} (finite : AllFinite nodes)
    (fewer : nodes' ⊆ nodes) : AllFinite nodes' :=
  fun x inside => finite x (fewer inside)

/-- The numbers in a part are among those in the whole. -/
lemma AllFinite.part {e part : Expr} (finite : AllFinite e.nodes) (member : part ∈ e.parts) :
    AllFinite part.nodes :=
  finite.mono (nodes_subset_of_mem_parts member)

/-- The numbers in both operands are among those in the whole. -/
lemma AllFinite.operands {symbol : String} {left right : Expr}
    (finite : AllFinite (Expr.binary symbol left right).nodes) :
    AllFinite left.nodes ∧ AllFinite right.nodes :=
  ⟨finite.part List.mem_cons_self, finite.part (List.mem_cons_of_mem _ List.mem_cons_self)⟩

/-- An expression that can be written down has an outline that can be read, if its numbers are
finite. -/
lemma WellFormed.legible {rank : Rank} {e : Expr} (formed : e.WellFormed rank)
    (finite : AllFinite e.nodes) : e.Legible := by
  induction formed with
  | number literal =>
    obtain ⟨starts, digits⟩ := literal.text (finite _ List.mem_cons_self)
    exact .number starts digits
  | name named => exact .name named
  | group whole ih => exact .group (ih (finite.part List.mem_cons_self))
  | @invoke callee arguments first solid all ih ihAll =>
    apply Legible.invoke (ih (finite.part List.mem_cons_self))
    · rintro rfl
      exact solid [] rfl rfl
    · intro e member
      cases arguments with
      | none => cases member
      | some list => exact ihAll list rfl e member (finite.part (List.mem_cons_of_mem _ member))
  | product among first second ih ih' =>
    exact .binary .product among (ih finite.operands.1) (ih' finite.operands.2)
  | sum among first second ih ih' =>
    exact .binary .sum among (ih finite.operands.1) (ih' finite.operands.2)
  | comparison among first second ih ih' =>
    exact .binary .comparison among (ih finite.operands.1) (ih' finite.operands.2)
  | longer among first second ih ih' =>
    exact .binary .comparison among (ih finite.operands.1) (ih' finite.operands.2)
  | ofPrimary whole ih => exact ih finite
  | ofProduct whole ih => exact ih finite
  | ofSum whole ih => exact ih finite
  | ofChain whole ih => exact ih finite

end Expr

namespace Stmt

/-- The statements of a block can be read if each of them can whose numbers are finite. -/
lemma legible_of_allFinite {body : List Stmt} (finite : Expr.AllFinite (allNodes body))
    (each : ∀ stmt ∈ body, Expr.AllFinite stmt.nodes → stmt.Legible) :
    ∀ stmt ∈ body, stmt.Legible := by
  intro stmt member
  apply each stmt member
  rw [allNodes_eq_flatMap] at finite
  exact finite.mono fun node => List.mem_flatMap_of_mem member

/-- A statement that can be written down has an outline that can be read, if its numbers are finite.
-/
lemma WellFormed.legible {stmt : Stmt} (formed : stmt.WellFormed)
    (finite : Expr.AllFinite stmt.nodes) : stmt.Legible := by
  induction formed with
  | ifThen test block ih =>
    exact .ifThen (test.legible (finite.mono (List.subset_append_left _ _)))
      (legible_of_allFinite (finite.mono (List.subset_append_right _ _)) ih)
  | whileDo test block ih =>
    exact .whileDo (test.legible (finite.mono (List.subset_append_left _ _)))
      (legible_of_allFinite (finite.mono (List.subset_append_right _ _)) ih)
  | assign named noKeyword source =>
    exact .assign named (source.legible (finite.mono (List.subset_append_right _ _)))
  | expr action noKeyword => exact .expr (action.legible finite)

end Stmt

/-- The statements of a source text have outlines that can be read, if all numbers are finite. -/
lemma Program.legible_of_ofSource {source : String} {program : Program}
    (accepted : Program.ofSource source = .ok program) (finite : Expr.AllFinite program.nodes) :
    ∀ stmt ∈ program, stmt.Legible :=
  Stmt.legible_of_allFinite finite fun stmt member =>
    (Program.wellFormed_of_ofSource accepted stmt member).legible

/-! ## Their outlines -/

/-- The trees of expressions are made one by one. -/
lemma Expr.toOutlines_eq_map (list : List Expr) : Expr.toOutlines list = list.map toOutline := by
  induction list with
  | nil => rfl
  | cons e more ih => rw [Expr.toOutlines, ih, List.map_cons]

/-- The tree of a call has the callee and the arguments behind its name. -/
lemma Expr.toOutline_invoke (callee : Expr) (arguments : Option (List Expr)) :
    (Expr.invoke callee arguments).toOutline =
      .node "call" (callee.toOutline :: (arguments.getD []).map toOutline) := by
  cases arguments with
  | none => rw [toOutline, Option.getD_none, List.map_nil]
  | some list => rw [toOutline, toOutlines_eq_map, Option.getD_some]

/-- The trees of statements are made one by one. -/
lemma Stmt.toOutlines_eq_map (stmts : List Stmt) : Stmt.toOutlines stmts = stmts.map toOutline := by
  induction stmts with
  | nil => rfl
  | cons stmt more ih => rw [Stmt.toOutlines, ih, List.map_cons]

/-- The characters of names are plain. -/
lemma Outline.isPlain_of_isWord {c : Char} (word : Text.isWord c = true) : isPlain c = true := by
  rw [isPlain, decide_eq_true_eq]
  intro mark
  simp only [List.mem_cons, List.not_mem_nil, or_false] at mark
  rcases mark with rfl | rfl | rfl | rfl | rfl | rfl
  all_goals exact absurd word (by decide)

/-- The symbols of operators are plain, and none of them is a word of the outlines. -/
lemma Outline.symbol_plain {precedence : Precedence} {symbol : String}
    (among : symbol ∈ symbols precedence) :
    symbol ≠ "" ∧ symbol.toList.all isPlain = true ∧ symbol ≠ "group" ∧ symbol ≠ "call" := by
  revert symbol
  cases precedence <;> decide

/-- A name is a word that can be read. -/
lemma Text.IsName.legible {name : String} (named : Text.IsName name) :
    (Outline.word name.toList).Legible :=
  .word (by simpa using named.1) fun c member => Outline.isPlain_of_isWord (named.2.1 c member)

/-- The tree of a legible expression can be read. -/
lemma Expr.Legible.toOutline {e : Expr} (legible : e.Legible) : e.toOutline.Legible := by
  induction legible with
  | number starts digits =>
    obtain ⟨c, first, -⟩ := starts
    rw [Expr.toOutline]
    refine .word (List.ne_nil_of_mem (List.mem_of_mem_head? first)) fun c member => ?_
    rcases digits c member with digit | rfl
    · exact Outline.isPlain_of_isWord (Text.isWord_of_isDigit digit)
    · decide
  | name named =>
    rw [Expr.toOutline]
    exact named.legible
  | binary precedence among first second ih ih' =>
    obtain ⟨solid, plain, -⟩ := Outline.symbol_plain among
    rw [Expr.toOutline]
    exact .node solid plain (by simp [ih, ih'])
  | group whole ih =>
    rw [Expr.toOutline]
    exact .node (by decide) (by decide) (by simp [ih])
  | invoke first solid all ih ihAll =>
    rw [Expr.toOutline_invoke]
    exact .node (by decide) (by decide)
      (List.forall_mem_cons.2 ⟨ih, List.forall_mem_map.2 ihAll⟩)

/-- A block can be read if its statements can. -/
lemma Stmt.legible_block {body : List Stmt} (each : ∀ stmt ∈ body, stmt.toOutline.Legible) :
    (Outline.row .curly (Stmt.toOutlines body)).Legible := by
  rw [Stmt.toOutlines_eq_map]
  exact .row (List.forall_mem_map.2 each)

/-- The tree of a legible statement can be read. -/
lemma Stmt.Legible.toOutline {stmt : Stmt} (legible : stmt.Legible) : stmt.toOutline.Legible := by
  induction legible with
  | ifThen test block ih =>
    rw [Stmt.toOutline]
    exact .node (by decide) (by decide) (by simp [test.toOutline, legible_block ih])
  | whileDo test block ih =>
    rw [Stmt.toOutline]
    exact .node (by decide) (by decide) (by simp [test.toOutline, legible_block ih])
  | assign named source =>
    rw [Stmt.toOutline, Expr.toOutline]
    exact .node (by decide) (by decide) (by simp [named.legible, source.toOutline])
  | expr action =>
    rw [Stmt.toOutline]
    exact .node (by decide) (by decide) (by simp [action.toOutline])

/-! ## Reading an outline back -/

/-- Lists with the same images are related item by item if the images tell the items. -/
lemma forall₂_of_map_eq {α β : Type} {make : α → β} {R : α → α → Prop} {list list' : List α}
    (each : ∀ a ∈ list, ∀ a' ∈ list', make a = make a' → R a a')
    (same : list.map make = list'.map make) : List.Forall₂ R list list' := by
  induction list generalizing list' with
  | nil =>
    rw [List.map_nil, eq_comm, List.map_eq_nil_iff] at same
    rw [same]
    exact .nil
  | cons a list ih =>
    obtain ⟨a', behind, rfl, here, there⟩ := List.map_eq_cons_iff.1 same.symm
    refine .cons (each a List.mem_cons_self a' List.mem_cons_self here.symm) (ih ?_ there.symm)
    exact fun b member b' member' =>
      each b (List.mem_cons_of_mem _ member) b' (List.mem_cons_of_mem _ member')

/-- The text of a finite literal is no name. -/
lemma Outline.digits_ne_name {text name : String}
    (starts : ∃ c, text.toList.head? = some c ∧ c.isDigit = true) (named : Text.IsName name) :
    text.toList ≠ name.toList := by
  obtain ⟨c, first, digit⟩ := starts
  intro same
  rw [same] at first
  exact Text.not_isName_of_head? first (.inl digit) named

/-- No list of arguments and one without arguments look alike, but only the former can be
written. -/
lemma Expr.Alike.invoke {callee callee' : Expr} {arguments arguments' : Option (List Expr)}
    (first : callee.Alike callee')
    (all : List.Forall₂ Alike (arguments.getD []) (arguments'.getD []))
    (solid : arguments ≠ some []) (solid' : arguments' ≠ some []) :
    (Expr.invoke callee arguments).Alike (.invoke callee' arguments') := by
  cases arguments with
  | none =>
    cases arguments' with
    | none => exact .bareCall first
    | some list' =>
      cases all
      exact absurd rfl solid'
  | some list =>
    cases arguments' with
    | none =>
      cases all
      exact absurd rfl solid
    | some list' => exact .call first all

/-- The outline of an expression leaves nothing open but how numbers with the same text differ. -/
lemma Expr.Legible.alike {e e' : Expr} (legible : e.Legible) (legible' : e'.Legible)
    (same : e.toOutline = e'.toOutline) : e.Alike e' := by
  -- words are numbers or names, and the first word of a row is a symbol, `group` or `call`
  induction legible generalizing e' with
  | number starts digits =>
    cases legible' with
    | number =>
      simp only [Expr.toOutline, Outline.word.injEq] at same
      exact .number (String.toList_inj.1 same)
    | name named =>
      simp only [Expr.toOutline, Outline.word.injEq] at same
      exact absurd same (Outline.digits_ne_name starts named)
    | binary => cases same
    | group => cases same
    | invoke =>
      rw [toOutline_invoke] at same
      cases same
  | name named =>
    cases legible' with
    | number starts =>
      simp only [Expr.toOutline, Outline.word.injEq] at same
      exact absurd same.symm (Outline.digits_ne_name starts named)
    | name =>
      simp only [Expr.toOutline, Outline.word.injEq] at same
      rw [String.toList_inj.1 same]
      exact .name _
    | binary => cases same
    | group => cases same
    | invoke =>
      rw [toOutline_invoke] at same
      cases same
  | binary precedence among first second ih ih' =>
    obtain ⟨-, -, noGroup, noCall⟩ := Outline.symbol_plain among
    cases legible' with
    | number => cases same
    | name => cases same
    | binary _ _ first' second' =>
      obtain ⟨rfl, parts⟩ := Outline.node_inj same
      simp only [List.cons.injEq, and_true] at parts
      exact .binary _ (ih first' parts.1) (ih' second' parts.2)
    | group => exact absurd (Outline.node_inj same).1 noGroup
    | invoke =>
      rw [toOutline_invoke] at same
      exact absurd (Outline.node_inj same).1 noCall
  | group whole ih =>
    cases legible' with
    | number => cases same
    | name => cases same
    | binary _ among =>
      obtain ⟨-, -, noGroup, -⟩ := Outline.symbol_plain among
      exact absurd (Outline.node_inj same).1.symm noGroup
    | group whole' =>
      obtain ⟨-, parts⟩ := Outline.node_inj same
      exact .group (ih whole' (List.singleton_inj.1 parts))
    | invoke =>
      rw [toOutline_invoke] at same
      exact absurd (Outline.node_inj same).1 (by decide)
  | @invoke callee arguments first solid all ih ihAll =>
    rw [toOutline_invoke] at same
    cases legible' with
    | number => cases same
    | name => cases same
    | binary _ among =>
      obtain ⟨-, -, -, noCall⟩ := Outline.symbol_plain among
      exact absurd (Outline.node_inj same).1.symm noCall
    | group => exact absurd (Outline.node_inj same).1 (by decide)
    | @invoke callee' arguments' first' solid' all' =>
      rw [toOutline_invoke] at same
      obtain ⟨-, parts⟩ := Outline.node_inj same
      obtain ⟨head, others⟩ := List.cons_eq_cons.1 parts
      apply Alike.invoke (ih first' head) _ solid solid'
      exact forall₂_of_map_eq (fun e member e' member' => ihAll e member (all' e' member')) others

/-- Conditions and blocks with the same trees are alike if the statements in the blocks are. -/
lemma Stmt.alike_of_clause {condition condition' : Expr} {body body' : List Stmt}
    (test : condition.Legible) (test' : condition'.Legible)
    (each : ∀ stmt ∈ body, ∀ stmt' ∈ body', stmt.toOutline = stmt'.toOutline → stmt.Alike stmt')
    (same : [condition.toOutline, .row .curly (toOutlines body)] =
      [condition'.toOutline, .row .curly (toOutlines body')]) :
    condition.Alike condition' ∧ List.Forall₂ Alike body body' := by
  simp only [toOutlines_eq_map, List.cons.injEq, Outline.row.injEq, and_true, true_and] at same
  exact ⟨test.alike test' same.1, forall₂_of_map_eq each same.2⟩

/-- Legible statements with the same tree are alike. -/
lemma Stmt.Legible.alike {stmt stmt' : Stmt} (legible : stmt.Legible) (legible' : stmt'.Legible)
    (same : stmt.toOutline = stmt'.toOutline) : stmt.Alike stmt' := by
  induction legible generalizing stmt' with
  | ifThen test block ih =>
    cases legible' with
    | ifThen test' block' =>
      obtain ⟨condition, body⟩ := Stmt.alike_of_clause test test'
        (fun stmt member stmt' member' => ih stmt member (block' stmt' member'))
        (Outline.node_inj same).2
      exact .ifThen condition body
    | _ => exact absurd (Outline.node_inj same).1 (by decide)
  | whileDo test block ih =>
    cases legible' with
    | whileDo test' block' =>
      obtain ⟨condition, body⟩ := Stmt.alike_of_clause test test'
        (fun stmt member stmt' member' => ih stmt member (block' stmt' member'))
        (Outline.node_inj same).2
      exact .whileDo condition body
    | _ => exact absurd (Outline.node_inj same).1 (by decide)
  | assign named source =>
    cases legible' with
    | assign named' source' =>
      obtain ⟨-, parts⟩ := Outline.node_inj same
      simp only [List.cons.injEq, and_true] at parts
      have target := (Expr.Legible.name named).alike (.name named') parts.1
      exact .assign target (source.alike source' parts.2)
    | _ => exact absurd (Outline.node_inj same).1 (by decide)
  | expr action =>
    cases legible' with
    | expr action' =>
      obtain ⟨-, parts⟩ := Outline.node_inj same
      exact .expr (action.alike action' (List.singleton_inj.1 parts))
    | _ => exact absurd (Outline.node_inj same).1 (by decide)

/-- Programs that texts spell differ in nothing but numbers that are written the same, if their
outlines are equal and no number in them is infinite. -/
theorem Program.alike_of_outline_eq {source source' : String} {program program' : Program}
    (accepted : Program.ofSource source = .ok program)
    (accepted' : Program.ofSource source' = .ok program')
    (finite : Expr.AllFinite program.nodes) (finite' : Expr.AllFinite program'.nodes)
    (same : program.outline = program'.outline) : program.Alike program' := by
  have legible := Program.legible_of_ofSource accepted finite
  have legible' := Program.legible_of_ofSource accepted' finite'
  have trees : program.map Stmt.toOutline = program'.map Stmt.toOutline := by
    have all := List.forall_mem_map.2 fun stmt member => (legible stmt member).toOutline
    have all' := List.forall_mem_map.2 fun stmt member => (legible' stmt member).toOutline
    apply Outline.eq_of_joined_eq (.inr rfl) all all'
    rw [← Program.toList_outline, same, Program.toList_outline]
  apply forall₂_of_map_eq _ trees
  exact fun stmt member stmt' member' => (legible stmt member).alike (legible' stmt' member')

/-- Variables can be named like the words of an outline and like the number that is not finite. -/
theorem Program.alike_of_outline_eq_words :
    let program : Program :=
      [.assign (.variable "group") (some (.number (Number.nearest 7 0))),
        .ifThen (.binary "<" (.variable "group") (.variable "inf"))
          [.expr (.call (.group (.variable "call")) [.variable "set"])]]
    Program.ofSource "group=7; if (group<inf) \x7b(call)(set,);\x7d" = .ok program ∧
    program.outline =
      "(set group 7)\n(if (< group inf) \x7b(expr (call (group call) set))\x7d)" ∧
    ∃ program', Program.ofSource "group=007;if(group<inf)\x7b(call)(set,);\x7d" = .ok program' ∧
      program'.outline = program.outline ∧ program.Alike program' := by
  intro program
  have accepted : Program.ofSource "group=7; if (group<inf) \x7b(call)(set,);\x7d" = .ok program :=
    rfl
  have accepted' : Program.ofSource "group=007;if(group<inf)\x7b(call)(set,);\x7d" = .ok program :=
    rfl
  have finite : Expr.AllFinite program.nodes := by
    intro x member
    obtain rfl : x = Number.nearest 7 0 := by
      simpa [program, Program.nodes, Stmt.allNodes, Stmt.nodes, Expr.nodes, Expr.allNodes,
        Expr.call] using member
    decide
  exact ⟨accepted, by decide +kernel, program, accepted', rfl,
    Program.alike_of_outline_eq accepted accepted' finite finite rfl⟩

end Scriptlet
