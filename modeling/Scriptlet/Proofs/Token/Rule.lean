import Mathlib.Data.List.Induction
import Mathlib.Data.List.TakeWhile
import Mathlib.Tactic.Common
import Scriptlet.Token.Rule

/-!
# What the lexical rules take

A reader that moves on leaves some characters behind and counts their bytes (`Reader.Passes`). Every
rule is described by the characters that it passes: which lexemes they can be, and what must not
follow them (`Rule.comment_iff` and its companions). Nothing of the byte positions is left in these
descriptions, so that everything above them is about lists of characters alone.
-/

namespace Scriptlet

/-- The bytes of the characters of a text are the bytes of the text. -/
lemma Text.byteLength_toList (text : String) : byteLength text.toList = text.utf8ByteSize := by
  obtain ⟨characters, rfl⟩ : ∃ characters, text = String.ofList characters := ⟨text.toList, by simp⟩
  rw [String.toList_ofList]
  induction characters with
  | nil => rfl
  | cons c rest ih =>
    rw [← List.singleton_append, String.ofList_append, String.utf8ByteSize_append, ← ih]
    simp [byteLength]

namespace Reader

/-- The second reader stands behind the given characters of the first. -/
def Passes (r : Reader) (taken : List Char) (next : Reader) : Prop :=
  r.rest = taken ++ next.rest ∧ next.offset = r.offset + Text.byteLength taken

variable {r next : Reader} {taken : List Char}

/-- There is only one place behind given characters. -/
lemma Passes.unique {next' : Reader} (first : r.Passes taken next) (second : r.Passes taken next') :
    next = next' := by
  obtain ⟨rest, offset⟩ := first
  obtain ⟨rest', offset'⟩ := second
  have same := List.append_cancel_left (rest.symm.trans rest')
  cases next
  cases next'
  simp_all

/-- There is a reader behind everything that lies ahead. -/
lemma exists_passes {behind : List Char} (ahead : r.rest = taken ++ behind) :
    ∃ next, r.Passes taken next ∧ next.rest = behind :=
  ⟨⟨r.offset + Text.byteLength taken, behind⟩, ⟨ahead, rfl⟩, rfl⟩

/-- What is passed in two steps is passed together. -/
lemma Passes.trans {middle : Reader} {more : List Char} (first : r.Passes taken middle)
    (second : middle.Passes more next) : r.Passes (taken ++ more) next := by
  obtain ⟨rest, offset⟩ := first
  obtain ⟨rest', offset'⟩ := second
  refine ⟨by rw [rest, rest', List.append_assoc], ?_⟩
  rw [offset', offset, Text.byteLength_append, Nat.add_assoc]

/-- What is passed in two parts can be passed in two steps. -/
lemma Passes.of_append {more : List Char} (passes : r.Passes (taken ++ more) next) :
    ∃ middle, r.Passes taken middle ∧ middle.Passes more next := by
  obtain ⟨rest, offset⟩ := passes
  refine ⟨⟨r.offset + Text.byteLength taken, more ++ next.rest⟩, ⟨?_, rfl⟩, rfl, ?_⟩
  · rw [rest, List.append_assoc]
  · rw [offset, Text.byteLength_append, Nat.add_assoc]

/-- The characters between two places are those that were passed. -/
lemma Passes.textUntil (passes : r.Passes taken next) : r.textUntil next = taken := by
  obtain ⟨offset, rest⟩ := r
  obtain ⟨stop, behind⟩ := next
  obtain ⟨ahead, bytes⟩ := passes
  dsimp only at ahead bytes
  rw [ahead, textUntil_byteLength offset stop taken behind behind bytes]

/-- Skipping as many characters passes them. -/
lemma passes_skip (behind : List Char) (ahead : r.rest = taken ++ behind) :
    r.Passes taken (r.skip taken.length) := by
  constructor
  · rw [rest_skip, ahead, List.drop_left]
  · rw [offset_skip, ahead, List.take_left]

/-- A text is taken exactly if it is ahead, and then it is passed. -/
lemma takeText?_eq_some_iff {text : String} :
    r.takeText? text = some next ↔ r.Passes text.toList next := by
  constructor
  · intro taken
    rw [takeText?, Option.ite_none_right_eq_some] at taken
    obtain ⟨ahead, reached⟩ := taken
    obtain rfl := Option.some.inj reached
    obtain ⟨behind, ahead⟩ := List.isPrefixOf_iff_prefix.1 ahead
    exact passes_skip behind ahead.symm
  · intro passes
    have ahead : text.toList <+: r.rest := ⟨next.rest, passes.1.symm⟩
    rw [takeText?, if_pos (List.isPrefixOf_iff_prefix.2 ahead)]
    exact congrArg some ((passes_skip next.rest passes.1).unique passes)

/-- A text is not taken exactly if it is not ahead. -/
lemma takeText?_eq_none_iff {text : String} :
    r.takeText? text = none ↔ ¬ text.toList <+: r.rest := by
  simp [takeText?]

/-- A character is taken exactly if it is next, and then it is passed. -/
lemma takeChar?_eq_some_iff {c : Char} : r.takeChar? c = some next ↔ r.Passes [c] next := by
  constructor
  · intro taken
    rw [takeChar?, Option.ite_none_right_eq_some] at taken
    obtain ⟨ahead, reached⟩ := taken
    obtain rfl := Option.some.inj reached
    obtain ⟨behind, ahead⟩ := List.head?_eq_some_iff.1 ahead
    exact passes_skip behind ahead
  · intro passes
    have ahead : r.peek? = some c := by simp [peek?, passes.1]
    rw [takeChar?, if_pos ahead]
    exact congrArg some ((passes_skip next.rest passes.1).unique passes)

/-- A character is not taken exactly if it is not next. -/
lemma takeChar?_eq_none_iff {c : Char} : r.takeChar? c = none ↔ r.rest.head? ≠ some c := by
  rw [takeChar?, ite_eq_right_iff]
  simp [peek?]

/-- The characters of the class that come first are passed. -/
lemma passes_skipWhile (condition : Char → Bool) :
    r.Passes (r.rest.takeWhile condition) (r.skipWhile condition) :=
  passes_skip (r.rest.dropWhile condition) (List.takeWhile_append_dropWhile ..).symm

/-- What is ahead afterwards starts with the first character outside the class. -/
lemma rest_skipWhile (condition : Char → Bool) :
    (r.skipWhile condition).rest = r.rest.dropWhile condition := by
  have ahead := (passes_skipWhile (r := r) condition).1
  nth_rewrite 1 [← List.takeWhile_append_dropWhile (p := condition) (l := r.rest)] at ahead
  exact (List.append_cancel_left ahead).symm

end Reader

namespace Text

/-- A character of the class does not come first in the text. -/
def Free (condition : Char → Bool) (text : List Char) : Prop :=
  ∀ c ∈ text.head?, condition c = false

variable {condition : Char → Bool} {text behind : List Char}

/-- An empty text starts with no character. -/
lemma free_nil : Free condition [] := by
  simp [Free]

/-- A text starts outside the class exactly if its first character is outside. -/
lemma free_cons {c : Char} : Free condition (c :: behind) ↔ condition c = false := by
  simp [Free]

/-- Characters of the class are taken up to a text that starts outside. -/
lemma takeWhile_of_free (all : ∀ c ∈ text, condition c = true) (free : Free condition behind) :
    (text ++ behind).takeWhile condition = text := by
  rw [List.takeWhile_append_of_pos all]
  cases behind with
  | nil => simp
  | cons c behind => simp [free_cons.1 free]

/-- What is left of a text behind the characters of the class starts outside. -/
lemma free_dropWhile : Free condition (text.dropWhile condition) := by
  intro c first
  have failing := List.head?_dropWhile_not condition text
  rw [Option.mem_def.1 first] at failing
  simpa using failing

/-- At the end of a text, the last mark is the last character or comes before it. -/
lemma beforeLast?_concat (mark c : Char) (admits : List Char → Bool) (text : List Char) :
    beforeLast? mark admits (text ++ [c]) =
      if c = mark ∧ admits text then some text else beforeLast? mark admits text := by
  simp [beforeLast?, beforeLast?.go]

/-- The search for the last mark stops before a mark that is admitted, and no mark behind it is. -/
lemma beforeLast?_eq_some_iff {mark : Char} {admits : List Char → Bool} {text inner : List Char} :
    beforeLast? mark admits text = some inner ↔
      admits inner = true ∧ ∃ behind, text = inner ++ mark :: behind ∧
        ∀ between after, behind = between ++ mark :: after →
          admits (inner ++ mark :: between) = false := by
  -- the search runs from the end of the text, and so does the induction
  induction text using List.reverseRecOn generalizing inner with
  | nil => simp [beforeLast?, beforeLast?.go]
  | append_singleton text c ih =>
    rw [beforeLast?_concat]
    by_cases stops : c = mark ∧ admits text
    · rw [if_pos stops]
      obtain ⟨rfl, admitted⟩ := stops
      constructor
      · intro found
        obtain rfl := Option.some.inj found
        exact ⟨admitted, [], rfl, by simp⟩
      · rintro ⟨_, behind, split, none_later⟩
        rcases List.eq_nil_or_concat behind with rfl | ⟨between, last, rfl⟩
        · exact congrArg some (List.append_inj_left' split rfl)
        · have parts : text ++ [c] = (inner ++ c :: between) ++ [last] := by simpa using split
          obtain ⟨rfl, same⟩ := List.append_inj' parts rfl
          obtain rfl := List.singleton_inj.1 same
          have refused := none_later between [] (List.concat_eq_append ..)
          simp [admitted] at refused
    · rw [if_neg stops, ih]
      refine and_congr_right fun admitted => ?_
      constructor
      · rintro ⟨behind, rfl, none_later⟩
        refine ⟨behind ++ [c], by simp, ?_⟩
        intro between after split
        rcases List.eq_nil_or_concat after with rfl | ⟨after, last, rfl⟩
        · obtain ⟨rfl, same⟩ := List.append_inj' split rfl
          obtain rfl := List.singleton_inj.1 same
          simpa using stops
        · have parts : behind ++ [c] = (between ++ mark :: after) ++ [last] := by simpa using split
          exact none_later between after (List.append_inj' parts rfl).1
      · rintro ⟨behind, split, none_later⟩
        rcases List.eq_nil_or_concat behind with rfl | ⟨behind, last, rfl⟩
        · obtain ⟨rfl, same⟩ := List.append_inj' split rfl
          exact absurd ⟨List.singleton_inj.1 same, admitted⟩ stops
        · have parts : text ++ [c] = (inner ++ mark :: behind) ++ [last] := by simpa using split
          refine ⟨behind, (List.append_inj' parts rfl).1, ?_⟩
          rintro between after rfl
          exact none_later between (after ++ [last]) (by simp)

/-- The last mark of a line is the one behind which the line has no other. -/
lemma beforeLast?_line_iff {mark : Char} (inside : mark ≠ '\n') {text inner : List Char} :
    beforeLast? mark (fun _ => true) (text.takeWhile (· ≠ '\n')) = some inner ↔
      ∃ behind, text = inner ++ mark :: behind ∧ '\n' ∉ inner ∧
        mark ∉ behind.takeWhile (· ≠ '\n') := by
  rw [beforeLast?_eq_some_iff]
  constructor
  · rintro ⟨-, later, line, none_later⟩
    have whole := List.takeWhile_append_dropWhile (p := (· ≠ '\n')) (l := text)
    have clean : ∀ c ∈ inner ++ mark :: later, decide (c ≠ '\n') = true := by
      intro c member
      rw [← line] at member
      simpa using List.mem_takeWhile_imp member
    rw [line, List.append_assoc] at whole
    refine ⟨later ++ text.dropWhile (· ≠ '\n'), whole.symm, ?_, ?_⟩
    · intro member
      simpa using clean '\n' (by simp [member])
    · -- what lies behind the line is empty or starts with a line break
      have free : Free (· ≠ '\n') (text.dropWhile (· ≠ '\n')) := free_dropWhile
      rw [takeWhile_of_free (fun c member => clean c (by simp [member])) free]
      intro member
      obtain ⟨between, after, split⟩ := List.append_of_mem member
      simpa using none_later between after split
  · rintro ⟨behind, rfl, clean, last⟩
    refine ⟨rfl, behind.takeWhile (· ≠ '\n'), ?_, ?_⟩
    · rw [List.takeWhile_append_of_pos]
      · simp [inside]
      · intro c member
        simpa using fun same : c = '\n' => clean (same ▸ member)
    · intro between after split
      rw [split] at last
      simp at last

end Text

namespace Token.Rule

variable {r next : Reader}

/-- A rule for runs of a class passes a run that is not empty and that no character of the class
follows. -/
lemma takeSome?_iff {condition : Char → Bool} :
    r.takeSome? condition = some next ↔
      ∃ run, r.Passes run next ∧ run ≠ [] ∧ (∀ c ∈ run, condition c = true) ∧
        Text.Free condition next.rest := by
  rw [Reader.takeSome?, Option.ite_none_right_eq_some]
  constructor
  · rintro ⟨some_run, reached⟩
    obtain rfl := Option.some.inj reached
    refine ⟨_, Reader.passes_skipWhile condition, ?_, ?_, ?_⟩
    · exact List.ne_nil_of_length_pos some_run
    · exact fun c member => List.mem_takeWhile_imp member
    · rw [Reader.rest_skipWhile]
      exact Text.free_dropWhile
  · rintro ⟨run, passes, solid, all, free⟩
    have longest : r.rest.takeWhile condition = run := by
      rw [passes.1]
      exact Text.takeWhile_of_free all free
    refine ⟨?_, congrArg some ?_⟩
    · rw [Reader.runLength, longest]
      exact List.length_pos_iff.2 solid
    · have reached := Reader.passes_skipWhile (r := r) condition
      rw [longest] at reached
      exact reached.unique passes

/-- No character of the class is taken exactly if none comes first. -/
lemma takeSome?_eq_none_iff {condition : Char → Bool} :
    r.takeSome? condition = none ↔ Text.Free condition r.rest := by
  rw [Reader.takeSome?, ite_eq_right_iff, Reader.runLength]
  cases r.rest with
  | nil => simp [Text.free_nil]
  | cons c rest =>
    rw [Text.free_cons]
    cases first : condition c <;> simp [first]

/-- A comment is two slashes and a line with its line break. -/
lemma comment_iff :
    comment r = some next ↔
      ∃ line, '\n' ∉ line ∧ r.Passes ('/' :: '/' :: line ++ ['\n']) next := by
  rw [comment, Option.bind_eq_bind, Option.bind_eq_some_iff]
  constructor
  · rintro ⟨body, opens, closes⟩
    have first := Reader.takeText?_eq_some_iff.1 opens
    have last := Reader.takeChar?_eq_some_iff.1 closes
    refine ⟨body.rest.takeWhile (· ≠ '\n'), ?_, ?_⟩
    · intro member
      simpa using List.mem_takeWhile_imp member
    · exact (first.trans (Reader.passes_skipWhile _)).trans last
  · rintro ⟨line, clean, passes⟩
    obtain ⟨middle, whole, last⟩ := passes.of_append
    have parts : r.Passes (['/', '/'] ++ line) middle := whole
    obtain ⟨body, first, inner⟩ := parts.of_append
    have line_eq : body.rest.takeWhile (· ≠ '\n') = line := by
      rw [inner.1, last.1]
      refine Text.takeWhile_of_free ?_ ?_
      · intro c member
        simpa using fun same : c = '\n' => clean (same ▸ member)
      · simp [Text.Free]
    have reached := Reader.passes_skipWhile (r := body) (· ≠ '\n')
    rw [line_eq] at reached
    refine ⟨body, Reader.takeText?_eq_some_iff.2 first, ?_⟩
    rw [reached.unique inner]
    exact Reader.takeChar?_eq_some_iff.2 last

/-- Of several texts of one length at most one lies ahead, so that the order in which they are tried
does not matter. -/
lemma findSome?_iff {α : Type} {choices : List α} {attempt : α → Option Reader}
    {text : α → List Char} (size : Nat) (sizes : ∀ a ∈ choices, (text a).length = size)
    (describes : ∀ a reached, attempt a = some reached ↔ r.Passes (text a) reached) :
    choices.findSome? attempt = some next ↔ ∃ a ∈ choices, r.Passes (text a) next := by
  constructor
  · intro found
    obtain ⟨a, member, taken⟩ := List.exists_of_findSome?_eq_some found
    exact ⟨a, member, (describes a next).1 taken⟩
  · rintro ⟨a, member, passes⟩
    have accepts : attempt a = some next := (describes a next).2 passes
    have some_found : (choices.findSome? attempt).isSome :=
      List.findSome?_isSome_iff.2 ⟨a, member, by simp [accepts]⟩
    obtain ⟨reached, found⟩ := Option.isSome_iff_exists.1 some_found
    obtain ⟨a', member', taken'⟩ := List.exists_of_findSome?_eq_some found
    have passes' := (describes a' reached).1 taken'
    have same : text a = text a' := by
      refine (List.append_inj (passes.1.symm.trans passes'.1) ?_).1
      rw [sizes a member, sizes a' member']
    rw [found, Reader.Passes.unique passes' (same ▸ passes)]

/-- A symbol of two characters is found exactly if one is ahead. -/
lemma findSome?_pairs_iff :
    pairs.findSome? r.takeText? = some next ↔ ∃ pair ∈ pairs, r.Passes pair.toList next :=
  findSome?_iff 2 (by decide) fun _ _ => Reader.takeText?_eq_some_iff

/-- A symbol of one character is found exactly if one is next. -/
lemma findSome?_singles_iff :
    singles.findSome? r.takeChar? = some next ↔ ∃ c ∈ singles, r.Passes [c] next :=
  findSome?_iff 1 (fun _ _ => rfl) fun _ _ => Reader.takeChar?_eq_some_iff

/-- A symbol of two characters is preferred over one of one character. -/
lemma punctuation_iff :
    punctuation r = some next ↔
      (∃ pair ∈ pairs, r.Passes pair.toList next) ∨
        (∀ pair ∈ pairs, ¬ pair.toList <+: r.rest) ∧ ∃ c ∈ singles, r.Passes [c] next := by
  have none_iff :
      pairs.findSome? r.takeText? = none ↔ ∀ pair ∈ pairs, ¬ pair.toList <+: r.rest := by
    simp only [List.findSome?_eq_none_iff, Reader.takeText?_eq_none_iff]
  rw [punctuation, Option.orElse_eq_orElse, Option.orElse_eq_or, Option.or_eq_some_iff,
    findSome?_pairs_iff, findSome?_singles_iff, none_iff]

/-- At the mark behind some characters ahead, the goal one byte further is behind the mark. -/
lemma passes_advanceTo {mark : Char} {inner behind : List Char} (ascii : mark.utf8Size = 1)
    (ahead : r.rest = inner ++ mark :: behind) :
    r.Passes (inner ++ [mark]) (r.advanceTo (r.offset + Text.byteLength inner + 1)) := by
  obtain ⟨offset, rest⟩ := r
  have goal : offset + Text.byteLength inner + 1 = offset + Text.byteLength (inner ++ [mark]) := by
    simp [Text.byteLength_append, Text.byteLength, ascii, Nat.add_assoc]
  have split : rest = (inner ++ [mark]) ++ behind := by simpa using ahead
  rw [goal, split, Reader.advanceTo_byteLength]
  exact ⟨rfl, rfl⟩

/-- The signs that may stand before the quotes of a string. -/
def signs : List (List Char) :=
  [[], ['@']]

/-- Before the quotes stands nothing or an at-sign. -/
lemma mem_signs_iff {sign : List Char} : sign ∈ signs ↔ sign = [] ∨ sign = ['@'] := by
  simp [signs]

/-- An at-sign may be passed before a quote. -/
lemma optional_sign_iff {body : Reader} :
    ((r.takeChar? '@').getD r).takeChar? '"' = some body ↔
      ∃ sign ∈ signs, r.Passes (sign ++ ['"']) body := by
  rw [Reader.takeChar?_eq_some_iff]
  cases signed : r.takeChar? '@' with
  | none =>
    have other := Reader.takeChar?_eq_none_iff.1 signed
    constructor
    · intro passes
      exact ⟨[], mem_signs_iff.2 (.inl rfl), passes⟩
    · rintro ⟨sign, member, passes⟩
      obtain rfl | rfl := mem_signs_iff.1 member
      · exact passes
      · exact absurd (by simp [passes.1]) other
  | some start =>
    have first := Reader.takeChar?_eq_some_iff.1 signed
    constructor
    · intro passes
      exact ⟨['@'], mem_signs_iff.2 (.inr rfl), first.trans passes⟩
    · rintro ⟨sign, member, passes⟩
      obtain rfl | rfl := mem_signs_iff.1 member
      · have clash := first.1.symm.trans passes.1
        simp at clash
      · obtain ⟨start', first', last⟩ := passes.of_append
        obtain rfl := first.unique first'
        exact last

/-- A string goes from its opening quote to the last quote of the line. -/
lemma string_iff :
    string r = some next ↔
      ∃ sign ∈ signs, ∃ inner, '\n' ∉ inner ∧ '"' ∉ next.rest.takeWhile (· ≠ '\n') ∧
        r.Passes (sign ++ '"' :: inner ++ ['"']) next := by
  rw [string, Option.bind_eq_bind, Option.bind_eq_some_iff]
  constructor
  · rintro ⟨body, opens, closes⟩
    obtain ⟨sign, member, first⟩ := optional_sign_iff.1 opens
    obtain ⟨inner, found, reached⟩ := Option.bind_eq_some_iff.1 closes
    obtain rfl := Option.some.inj reached
    obtain ⟨behind, ahead, clean, last_quote⟩ := (Text.beforeLast?_line_iff (by decide)).1 found
    have last := passes_advanceTo (by decide : '"'.utf8Size = 1) ahead
    have behind_eq := List.append_cancel_left ((last.1.symm.trans ahead).trans
      (List.append_cons ..))
    refine ⟨sign, member, inner, clean, ?_, ?_⟩
    · rwa [behind_eq]
    · simpa using first.trans last
  · rintro ⟨sign, member, inner, clean, last_quote, passes⟩
    have parts : r.Passes ((sign ++ ['"']) ++ (inner ++ ['"'])) next := by simpa using passes
    obtain ⟨body, first, last⟩ := parts.of_append
    have ahead : body.rest = inner ++ '"' :: next.rest := by simpa using last.1
    have found := (Text.beforeLast?_line_iff (by decide)).2 ⟨next.rest, ahead, clean, last_quote⟩
    have reached := passes_advanceTo (by decide : '"'.utf8Size = 1) ahead
    refine ⟨body, optional_sign_iff.2 ⟨sign, member, first⟩, ?_⟩
    rw [found]
    exact congrArg some (reached.unique last)

/-- A counting loop starts with the letter of its keyword. -/
lemma head?_of_forClause (taken : forClause r = some next) : r.rest.head? = some 'f' := by
  rw [forClause, Option.bind_eq_bind, Option.bind_eq_some_iff] at taken
  obtain ⟨keyword, opens, _⟩ := taken
  have first := Reader.takeText?_eq_some_iff.1 opens
  simp [first.1]

end Token.Rule

end Scriptlet
