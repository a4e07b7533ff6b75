import Scriptlet.Program.Outline
import Scriptlet.Proofs.Token.Rule

/-!
# Outlines as trees

The outline of a program is the text of a tree of words and of rows in brackets. If no word contains
one of the marks that stand between words, then a text belongs to one tree only, whatever the words
are (`Outline.Legible.readable`).
-/

namespace Scriptlet

/-! ## Words and rows -/

/-- The brackets that a row can stand in. -/
inductive Outline.Bracket where
  | round
  | curly

/-- A word, or a row of words and rows in brackets. -/
inductive Outline where
  | word (text : List Char)
  | row (bracket : Outline.Bracket) (items : List Outline)

namespace Outline
open Text (Free free_cons)

/-- The bracket before a row. -/
def Bracket.opening : Bracket → Char
  | .round => '('
  | .curly => '\x7b'

/-- The bracket behind a row. -/
def Bracket.closing : Bracket → Char
  | .round => ')'
  | .curly => '\x7d'

mutual

/-- The text of an outline. In a row there is a space between any two items. -/
def text : Outline → List Char
  | .word text => text
  | .row bracket [] => [bracket.opening, bracket.closing]
  | .row bracket (first :: others) =>
    bracket.opening :: (first.text ++ (textBehind ' ' others ++ [bracket.closing]))

/-- The texts of some items, each behind a separator. -/
@[simp]
def textBehind (separator : Char) : List Outline → List Char
  | [] => []
  | item :: more => separator :: (item.text ++ textBehind separator more)

end

/-- The texts of some items with a separator between any two of them. -/
def joined (separator : Char) : List Outline → List Char
  | [] => []
  | first :: others => first.text ++ textBehind separator others

/-- A row is written as its items between its brackets. -/
lemma text_row (bracket : Bracket) (items : List Outline) :
    (row bracket items).text = bracket.opening :: (joined ' ' items ++ [bracket.closing]) := by
  cases items <;> simp [text, joined]

/-- The characters of words: all but spaces, line breaks and brackets. -/
def isPlain (c : Char) : Bool :=
  c ∉ [' ', '\n', '(', ')', '\x7b', '\x7d']

/-- An opening bracket is no character of a word. -/
lemma Bracket.isPlain_opening (bracket : Bracket) : isPlain bracket.opening = false := by
  cases bracket <;> rfl

/-- A closing bracket is no character of a word. -/
lemma Bracket.isPlain_closing (bracket : Bracket) : isPlain bracket.closing = false := by
  cases bracket <;> rfl

/-- Every word has some characters, all of them plain. -/
inductive Legible : Outline → Prop where
  | word {text : List Char} (solid : text ≠ []) (plain : ∀ c ∈ text, isPlain c = true) :
      Legible (.word text)
  | row {bracket : Bracket} {items : List Outline} (all : ∀ item ∈ items, Legible item) :
      Legible (.row bracket items)

/-- No text starts with the outline and with another one, if both end before what is not plain. -/
def Readable (outline : Outline) : Prop :=
  ∀ ⦃other rest rest'⦄, Legible other → Free isPlain rest → Free isPlain rest' →
    outline.text ++ rest = other.text ++ rest' → outline = other ∧ rest = rest'

/-- The text is empty, or a bracket closes in front. -/
def Closed (text : List Char) : Prop :=
  ∀ c ∈ text.head?, ∃ bracket : Bracket, c = bracket.closing

variable {separator : Char} {items others : List Outline} {rest rest' : List Char}

/-- A text that starts with a closing bracket is closed. -/
lemma closed_cons (bracket : Bracket) : Closed (bracket.closing :: rest) := by
  rintro c ⟨⟩
  exact ⟨bracket, rfl⟩

/-- A word does not go on with a closed text. -/
lemma Closed.free (closed : Closed rest) : Free isPlain rest := by
  intro c first
  obtain ⟨bracket, rfl⟩ := closed c first
  exact bracket.isPlain_closing

/-- A word does not go on with further items and a closed text. -/
lemma Closed.free_textBehind (closed : Closed rest) (apart : separator = ' ' ∨ separator = '\n') :
    Free isPlain (textBehind separator items ++ rest) := by
  cases items with
  | nil => exact closed.free
  | cons item items =>
    rw [textBehind, List.cons_append, free_cons]
    rcases apart with rfl | rfl <;> decide

/-- No outline starts with a closing bracket. -/
lemma Legible.not_closed {outline : Outline} (legible : outline.Legible) (rest : List Char) :
    ¬ Closed (outline.text ++ rest) := by
  intro closed
  cases legible with
  | @word text solid plain =>
    obtain ⟨c, text, rfl⟩ := List.exists_cons_of_ne_nil solid
    have first := closed.free c rfl
    rw [plain c List.mem_cons_self] at first
    cases first
  | @row bracket items all =>
    rw [text_row] at closed
    obtain ⟨other, same⟩ := closed _ rfl
    cases bracket <;> cases other <;> cases same

/-- A word ends where the text stops being plain, and so it is told from what follows. -/
lemma word_append_inj {text text' : List Char} (plain : ∀ c ∈ text, isPlain c = true)
    (plain' : ∀ c ∈ text', isPlain c = true) (free : Free isPlain rest) (free' : Free isPlain rest')
    (same : text ++ rest = text' ++ rest') : text = text' ∧ rest = rest' := by
  have taken := congrArg (List.takeWhile isPlain) same
  rw [Text.takeWhile_of_free plain free, Text.takeWhile_of_free plain' free'] at taken
  subst taken
  exact ⟨rfl, List.append_cancel_left same⟩

/-- Items that each follow a separator can be told from the text. -/
lemma textBehind_append_inj (apart : separator = ' ' ∨ separator = '\n')
    (readable : ∀ item ∈ items, item.Readable) (legible : ∀ other ∈ others, other.Legible)
    (closed : Closed rest) (closed' : Closed rest')
    (same : textBehind separator items ++ rest = textBehind separator others ++ rest') :
    items = others ∧ rest = rest' := by
  have noClosing : ∀ text, ¬ Closed (separator :: text) := by
    intro text closed
    obtain ⟨bracket, rfl⟩ := closed separator rfl
    cases bracket <;> simp [Bracket.closing] at apart
  -- a separator in front tells that one more item follows, on both sides alike
  induction items generalizing others with
  | nil =>
    cases others with
    | nil => exact ⟨rfl, same⟩
    | cons other others =>
      rw [textBehind, textBehind, List.nil_append] at same
      subst same
      exact absurd closed (noClosing _)
  | cons item items ih =>
    cases others with
    | nil =>
      rw [textBehind, textBehind, List.nil_append] at same
      subst same
      exact absurd closed' (noClosing _)
    | cons other others =>
      obtain ⟨here, behind⟩ := List.forall_mem_cons.1 readable
      obtain ⟨here', behind'⟩ := List.forall_mem_cons.1 legible
      simp only [textBehind, List.cons_append, List.append_assoc, List.cons.injEq, true_and] at same
      obtain ⟨rfl, left⟩ :=
        here here' (closed.free_textBehind apart) (closed'.free_textBehind apart) same
      obtain ⟨rfl, ends⟩ := ih behind behind' left
      exact ⟨rfl, ends⟩

/-- Items with separators between them can be told from the text. -/
lemma joined_append_inj (apart : separator = ' ' ∨ separator = '\n')
    (readable : ∀ item ∈ items, item.Readable) (solid : ∀ item ∈ items, item.Legible)
    (legible : ∀ other ∈ others, other.Legible) (closed : Closed rest) (closed' : Closed rest')
    (same : joined separator items ++ rest = joined separator others ++ rest') :
    items = others ∧ rest = rest' := by
  cases items with
  | nil =>
    cases others with
    | nil => exact ⟨rfl, same⟩
    | cons other others =>
      rw [joined, joined, List.nil_append, List.append_assoc] at same
      subst same
      exact absurd closed ((legible other List.mem_cons_self).not_closed _)
  | cons item items =>
    cases others with
    | nil =>
      rw [joined, joined, List.nil_append, List.append_assoc] at same
      subst same
      exact absurd closed' ((solid item List.mem_cons_self).not_closed _)
    | cons other others =>
      -- one more separator in front of both
      apply textBehind_append_inj apart readable legible closed closed'
      simpa only [textBehind, joined, List.cons_append, List.cons.injEq, true_and] using same

/-- A word starts with no bracket. -/
lemma word_ne_row {text : List Char} (solid : text ≠ []) (plain : ∀ c ∈ text, isPlain c = true)
    (bracket : Bracket) (items : List Outline) :
    text ++ rest ≠ (row bracket items).text ++ rest' := by
  intro same
  obtain ⟨c, text, rfl⟩ := List.exists_cons_of_ne_nil solid
  rw [text_row] at same
  obtain ⟨rfl, -⟩ := List.cons_eq_cons.1 same
  have opening := plain _ List.mem_cons_self
  rw [bracket.isPlain_opening] at opening
  cases opening

/-- A text belongs to one outline only. -/
lemma Legible.readable {outline : Outline} (legible : outline.Legible) : outline.Readable := by
  induction legible with
  | word solid plain =>
    intro other rest rest' legible' free free' same
    cases legible' with
    | word _ plain' =>
      obtain ⟨rfl, ends⟩ := word_append_inj plain plain' free free' same
      exact ⟨rfl, ends⟩
    | row => exact absurd same (word_ne_row solid plain _ _)
  | @row bracket items all ih =>
    intro other rest rest' legible' free free' same
    cases legible' with
    | word solid plain => exact absurd same.symm (word_ne_row solid plain _ _)
    | @row bracket' items' all' =>
      simp only [text_row, List.cons_append, List.append_assoc, List.nil_append] at same
      obtain ⟨opening, inside⟩ := List.cons_eq_cons.1 same
      obtain rfl : bracket = bracket' := by
        cases bracket <;> cases bracket' <;> first | rfl | cases opening
      obtain ⟨rfl, ends⟩ := joined_append_inj (.inl rfl) ih all all' (closed_cons bracket)
        (closed_cons bracket) inside
      exact ⟨rfl, (List.cons_eq_cons.1 ends).2⟩

/-- Items with nothing behind them can be read back. -/
lemma eq_of_joined_eq (apart : separator = ' ' ∨ separator = '\n')
    (legible : ∀ item ∈ items, item.Legible) (legible' : ∀ other ∈ others, other.Legible)
    (same : joined separator items = joined separator others) : items = others := by
  have closed : Closed [] := fun c first => by cases first
  apply (joined_append_inj apart (fun item member => (legible item member).readable) legible
    legible' closed closed _).1
  rw [same]

/-- A row in parentheses that starts with a name. -/
def node (name : String) (parts : List Outline) : Outline :=
  .row .round (.word name.toList :: parts)

/-- A named row is written as its name with its parts behind it. -/
@[simp]
lemma text_node (name : String) (parts : List Outline) :
    (node name parts).text = '(' :: (name.toList ++ (textBehind ' ' parts ++ [')'])) := by
  simp [node, text, Bracket.opening, Bracket.closing]

/-- A block is written as its items in braces. -/
@[simp]
lemma text_block (items : List Outline) :
    (row .curly items).text = '\x7b' :: (joined ' ' items ++ ['\x7d']) :=
  text_row .curly items

/-- A named row tells its name and its parts. -/
lemma node_inj {name name' : String} {parts parts' : List Outline}
    (same : node name parts = node name' parts') : name = name' ∧ parts = parts' := by
  simp only [node, row.injEq, List.cons.injEq, word.injEq, true_and] at same
  exact ⟨String.toList_inj.1 same.1, same.2⟩

/-- A named row can be read if its name and its parts can. -/
lemma Legible.node {name : String} {parts : List Outline} (solid : name ≠ "")
    (plain : name.toList.all isPlain = true) (all : ∀ part ∈ parts, part.Legible) :
    (node name parts).Legible := by
  refine .row (List.forall_mem_cons.2 ⟨.word ?_ (List.all_eq_true.1 plain), all⟩)
  simpa using solid

end Outline

/-! ## The outlines of programs -/

mutual

/-- The outline of an expression as a tree. -/
def Expr.toOutline : Expr → Outline
  | .number x => .word (Number.text x).toList
  | .variable name => .word name.toList
  | .binary symbol left right => .node symbol [left.toOutline, right.toOutline]
  | .unfinished symbol left => .node symbol [left.toOutline]
  | .group inner => .node "group" [inner.toOutline]
  | .invoke callee none => .node "call" [callee.toOutline]
  | .invoke callee (some arguments) =>
    .node "call" (callee.toOutline :: Expr.toOutlines arguments)
  | .negate inner => .node "-" [inner.toOutline]

/-- The outlines of expressions as trees. -/
def Expr.toOutlines : List Expr → List Outline
  | [] => []
  | e :: more => e.toOutline :: Expr.toOutlines more

end

mutual

/-- The outline of a statement as a tree. -/
def Stmt.toOutline : Stmt → Outline
  | .ifThen condition body =>
    .node "if" [condition.toOutline, .row .curly (Stmt.toOutlines body)]
  | .whileDo condition body =>
    .node "while" [condition.toOutline, .row .curly (Stmt.toOutlines body)]
  | .assign target (some value) => .node "set" [target.toOutline, value.toOutline]
  | .assign target none => .node "set" [target.toOutline]
  | .expr e => .node "expr" [e.toOutline]

/-- The outlines of statements as trees. -/
def Stmt.toOutlines : List Stmt → List Outline
  | [] => []
  | stmt :: more => stmt.toOutline :: Stmt.toOutlines more

end

section Texts
open Outline

mutual

/-- The outline of an expression is the text of its tree. -/
lemma Expr.toList_outline : ∀ e : Expr, e.outline.toList = e.toOutline.text
  | .number x => by rw [Expr.outline, Expr.toOutline, text]
  | .variable name => by rw [Expr.outline, Expr.toOutline, text]
  | .binary symbol left right => by
    simp [Expr.outline, Expr.toOutline, left.toList_outline, right.toList_outline]
  | .unfinished symbol left => by
    simp [Expr.outline, Expr.toOutline, left.toList_outline]
  | .group inner => by
    simp [Expr.outline, Expr.toOutline, inner.toList_outline]
  | .invoke callee none => by
    simp [Expr.outline, Expr.toOutline, callee.toList_outline]
  | .invoke callee (some arguments) => by
    simp [Expr.outline, Expr.toOutline, callee.toList_outline,
      Expr.toList_argumentsOutline arguments]
  | .negate inner => by
    simp [Expr.outline, Expr.toOutline, inner.toList_outline]

/-- The outlines of arguments are the texts of their trees. -/
lemma Expr.toList_argumentsOutline : ∀ arguments : List Expr,
    (Expr.argumentsOutline arguments).toList = textBehind ' ' (Expr.toOutlines arguments)
  | [] => by simp [Expr.argumentsOutline, Expr.toOutlines]
  | e :: more => by
    simp [Expr.argumentsOutline, Expr.toOutlines, e.toList_outline,
      Expr.toList_argumentsOutline more]

end

mutual

/-- The outline of a statement is the text of its tree. -/
lemma Stmt.toList_outline : ∀ stmt : Stmt, stmt.outline.toList = stmt.toOutline.text
  | .ifThen condition body => by
    simp [Stmt.outline, Stmt.toOutline, condition.toList_outline, Stmt.toList_bodyOutline body]
  | .whileDo condition body => by
    simp [Stmt.outline, Stmt.toOutline, condition.toList_outline, Stmt.toList_bodyOutline body]
  | .assign target (some value) => by
    simp [Stmt.outline, Stmt.toOutline, target.toList_outline, value.toList_outline]
  | .assign target none => by
    simp [Stmt.outline, Stmt.toOutline, target.toList_outline]
  | .expr e => by
    simp [Stmt.outline, Stmt.toOutline, e.toList_outline]

/-- The outlines of the statements of a block are the texts of their trees. -/
lemma Stmt.toList_bodyOutline : ∀ body : List Stmt,
    (Stmt.bodyOutline body).toList = joined ' ' (Stmt.toOutlines body)
  | [] => by simp [Stmt.bodyOutline, Stmt.toOutlines, joined]
  | [stmt] => by
    simp [Stmt.bodyOutline, Stmt.toOutlines, joined, stmt.toList_outline]
  | stmt :: other :: more => by
    simp [Stmt.bodyOutline, Stmt.toOutlines, joined, stmt.toList_outline,
      Stmt.toList_bodyOutline (other :: more)]

end

/-- The outline of a program has the texts of the trees of its statements on lines of their own. -/
lemma Program.toList_outline (program : Program) :
    program.outline.toList = joined '\n' (program.map Stmt.toOutline) := by
  rw [Program.outline, String.toList_intercalate]
  induction program with
  | nil => rfl
  | cons stmt program ih =>
    cases program with
    | nil => simp [joined, stmt.toList_outline]
    | cons other more =>
      simp only [List.map_cons, List.intercalate_cons_cons] at ih ⊢
      rw [ih]
      simp [joined, stmt.toList_outline]

end Texts

end Scriptlet
