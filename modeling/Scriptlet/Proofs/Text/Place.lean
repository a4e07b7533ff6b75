import Mathlib.Order.Bounds.Basic
import Scriptlet.Proofs.Token.Longest

/-!
# Where a reader stands

A reader that was made for a text may be moved on, and it may be set back to a copy that was kept of
it. Every move passes some characters (`Move.exists_passes_apply`), and so the reader always stands
behind a beginning of the text (`StandsIn`): what lies ahead of it is the rest of the text from its
byte on, which is a boundary between two characters. Going to a byte ends at the first boundary that
is not before it (`StandsIn.isLeast_advanceTo`).
-/

namespace Scriptlet

/-! ## Boundaries of texts -/

namespace Text

variable {first second whole : List Char}

/-- Every character has a byte, so a text without bytes is empty. -/
lemma eq_nil_of_byteLength_eq_zero {text : List Char} (empty : byteLength text = 0) :
    text = [] := by
  cases text with
  | nil => rfl
  | cons c rest =>
    have positive := c.utf8Size_pos
    rw [byteLength] at empty
    omega

/-- Of two beginnings of a text, one is a beginning of the other if it has no more bytes. -/
lemma isPrefix_of_byteLength_le (ahead : first <+: whole) (ahead' : second <+: whole)
    (short : byteLength first ≤ byteLength second) : first <+: second := by
  rcases List.prefix_or_prefix_of_prefix ahead ahead' with inside | ⟨more, rfl⟩
  · exact inside
  · rw [byteLength_append] at short
    have none : more = [] := eq_nil_of_byteLength_eq_zero (by omega)
    rw [none, List.append_nil]

/-- The boundaries between the characters of a text are the ends of its beginnings. -/
lemma isValid_iff {source : String} {boundary : Nat} :
    String.Pos.Raw.IsValid source ⟨boundary⟩ ↔
      ∃ before, before <+: source.toList ∧ byteLength before = boundary := by
  rw [String.Pos.Raw.isValid_iff_exists_append]
  constructor
  · rintro ⟨before, behind, rfl, ends⟩
    refine ⟨before.toList, ?_, ?_⟩
    · rw [String.toList_append]
      exact List.prefix_append ..
    · rw [byteLength_toList]
      exact (congrArg String.Pos.Raw.byteIdx ends).symm
  · rintro ⟨before, ⟨behind, whole⟩, rfl⟩
    refine ⟨String.ofList before, String.ofList behind, ?_, ?_⟩
    · rw [← String.ofList_append, whole, String.ofList_toList]
    · rw [String.Pos.Raw.ext_iff, String.byteIdx_rawEndPos, ← byteLength_toList,
        String.toList_ofList]

/-- The character at a place is the first one behind it. -/
lemma get?_of_splits {source before : String} {place : source.Pos} {rest : List Char}
    (splits : place.Splits before (String.ofList rest)) : place.get? = rest.head? := by
  by_cases ended : place = source.endPos
  · have none : rest = [] := by simpa using splits.eq_endPos_iff.1 ended
    rw [String.Pos.get?_eq_none ended, none, List.head?_nil]
  · obtain ⟨more, split⟩ := splits.exists_eq_singleton_append ended
    have first : rest = place.get ended :: more.toList := by
      simpa using congrArg String.toList split
    rw [String.Pos.get?_eq_some_get ended, first, List.head?_cons]

end Text

namespace Reader

/-! ## Moves -/

/-- What can be asked of a reader. -/
inductive Move where
  | peek
  | take
  | takeChar (c : Char)
  | takeText (text : String)
  | takeWhile (condition : Char → Bool)
  | advanceTo (goal : Nat)

/-- Where the reader stands afterwards. If it does not find what it shall take, it stays. -/
def Move.apply (move : Move) (r : Reader) : Reader :=
  match move with
  | .peek => r
  | .take => (r.take?.map Prod.snd).getD r
  | .takeChar c => (r.takeChar? c).getD r
  | .takeText text => (r.takeText? text).getD r
  | .takeWhile condition => r.skipWhile condition
  | .advanceTo goal => r.advanceTo goal

variable {r next : Reader} {taken : List Char} {source : String}

/-- A reader that stays passes nothing. -/
lemma passes_nil (r : Reader) : r.Passes [] r :=
  ⟨rfl, rfl⟩

/-- Taking the next character passes it. -/
lemma passes_take? {c : Char} (took : r.take? = some (c, next)) : r.Passes [c] next := by
  obtain ⟨offset, _ | ⟨first, rest⟩⟩ := r
  · cases took
  · cases took
    exact ⟨rfl, rfl⟩

/-- Going to a byte passes characters as long as the byte is not reached. -/
lemma exists_passes_advanceTo (r : Reader) (goal : Nat) :
    ∃ taken, r.Passes taken (r.advanceTo goal) ∧
      ((r.advanceTo goal).rest = [] ∨ goal ≤ (r.advanceTo goal).offset) ∧
      ∀ part, part <+: taken → part ≠ taken → r.offset + Text.byteLength part < goal := by
  obtain ⟨offset, rest⟩ := r
  change ∃ taken, Passes ⟨offset, rest⟩ taken (advanceTo.go goal offset rest) ∧
    ((advanceTo.go goal offset rest).rest = [] ∨ goal ≤ (advanceTo.go goal offset rest).offset) ∧
    ∀ part, part <+: taken → part ≠ taken → offset + Text.byteLength part < goal
  have stays : ∀ {p : List Char → Prop} part, part <+: [] → part ≠ [] → p part :=
    fun part inside other => absurd (List.prefix_nil.1 inside) other
  induction rest generalizing offset with
  | nil => exact ⟨[], passes_nil _, .inl rfl, stays⟩
  | cons c rest ih =>
    rw [advanceTo.go]
    split
    · next before =>
      obtain ⟨taken, passes, ends, least⟩ := ih (offset + c.utf8Size)
      have first : Passes ⟨offset, c :: rest⟩ [c] ⟨offset + c.utf8Size, rest⟩ := ⟨rfl, rfl⟩
      refine ⟨c :: taken, first.trans passes, ends, fun part inside other => ?_⟩
      cases part with
      | nil => exact before
      | cons c' part =>
        obtain ⟨rfl, within⟩ := List.cons_prefix_cons.1 inside
        have short := least part within (by simpa using other)
        rwa [Text.byteLength, ← Nat.add_assoc]
    · next reached => exact ⟨[], passes_nil _, .inr (Nat.le_of_not_lt reached), stays⟩

/-- Whatever is asked of a reader, it passes some of the characters ahead. -/
lemma Move.exists_passes_apply (move : Move) (r : Reader) :
    ∃ taken, r.Passes taken (move.apply r) := by
  have optional : ∀ {moved : Option Reader},
      (∀ next, moved = some next → ∃ taken, r.Passes taken next) →
      ∃ taken, r.Passes taken (moved.getD r) := by
    intro moved passes
    cases moved with
    | none => exact ⟨[], passes_nil r⟩
    | some next => exact passes next rfl
  cases move with
  | peek => exact ⟨[], passes_nil r⟩
  | take =>
    refine optional fun next took => ?_
    obtain ⟨⟨c, behind⟩, found, rfl⟩ := Option.map_eq_some_iff.1 took
    exact ⟨[c], passes_take? found⟩
  | takeChar c => exact optional fun next took => ⟨_, takeChar?_eq_some_iff.1 took⟩
  | takeText text => exact optional fun next took => ⟨_, takeText?_eq_some_iff.1 took⟩
  | takeWhile condition => exact ⟨_, passes_skipWhile condition⟩
  | advanceTo goal =>
    obtain ⟨taken, passes, -⟩ := exists_passes_advanceTo r goal
    exact ⟨taken, passes⟩

/-! ## Places -/

/-- The reader stands somewhere in the source, behind a beginning of it. -/
def StandsIn (r : Reader) (source : String) : Prop :=
  ∃ before, (ofText source).Passes before r

/-- A new reader stands at the start of its text. -/
lemma standsIn_ofText (source : String) : (ofText source).StandsIn source :=
  ⟨[], passes_nil _⟩

/-- A reader that moves on stands in the same source. -/
lemma StandsIn.passes (stands : r.StandsIn source) (passes : r.Passes taken next) :
    next.StandsIn source := by
  obtain ⟨before, behind⟩ := stands
  exact ⟨before ++ taken, behind.trans passes⟩

/-- A reader stands in the source exactly if its characters ahead complete a beginning whose bytes
it has read. -/
lemma standsIn_iff :
    r.StandsIn source ↔
      ∃ before, source.toList = before ++ r.rest ∧ r.offset = Text.byteLength before := by
  simp only [StandsIn, Passes, ofText, Nat.zero_add]

/-- The offset of a reader is a boundary between two characters. -/
lemma StandsIn.isValid (stands : r.StandsIn source) :
    String.Pos.Raw.IsValid source ⟨r.offset⟩ := by
  obtain ⟨before, whole, bytes⟩ := standsIn_iff.1 stands
  exact Text.isValid_iff.2 ⟨before, ⟨r.rest, whole.symm⟩, bytes.symm⟩

/-- The bytes that were read and those of the characters ahead are all bytes of the source. -/
lemma StandsIn.offset_add (stands : r.StandsIn source) :
    r.offset + Text.byteLength r.rest = source.utf8ByteSize := by
  obtain ⟨before, whole, bytes⟩ := standsIn_iff.1 stands
  rw [← Text.byteLength_toList, whole, Text.byteLength_append, bytes]

/-- The offset of the reader is a place that splits the source, and it reads on from there. -/
lemma StandsIn.exists_splits (stands : r.StandsIn source) :
    ∃ (place : source.Pos) (before : String), place.offset.byteIdx = r.offset ∧
      place.Splits before (String.ofList r.rest) := by
  obtain ⟨before, whole, bytes⟩ := standsIn_iff.1 stands
  refine ⟨source.pos ⟨r.offset⟩ stands.isValid, String.ofList before, rfl, ?_, ?_⟩
  · rw [← String.ofList_append, ← whole, String.ofList_toList]
  · rw [String.offset_pos, String.Pos.Raw.ext_iff, String.byteIdx_rawEndPos,
      ← Text.byteLength_toList, String.toList_ofList, bytes]

/-- A boundary that is not before the reader lies behind some of the characters ahead. -/
lemma StandsIn.exists_isPrefix (stands : r.StandsIn source) {boundary : Nat}
    (valid : String.Pos.Raw.IsValid source ⟨boundary⟩) (short : r.offset ≤ boundary) :
    ∃ part, part <+: r.rest ∧ boundary = r.offset + Text.byteLength part := by
  obtain ⟨before, whole, bytes⟩ := standsIn_iff.1 stands
  obtain ⟨upTo, ahead, rfl⟩ := Text.isValid_iff.1 valid
  rw [whole] at ahead
  rw [bytes] at short ⊢
  obtain ⟨part, rfl⟩ :=
    Text.isPrefix_of_byteLength_le (List.prefix_append before r.rest) ahead short
  refine ⟨part, (List.prefix_append_right_inj before).1 ahead, ?_⟩
  rw [Text.byteLength_append]

/-- Going to a byte of the source ends at the first boundary that is neither before it nor before
the reader. -/
lemma StandsIn.isLeast_advanceTo (stands : r.StandsIn source) {goal : Nat}
    (inside : goal ≤ source.utf8ByteSize) :
    IsLeast {boundary | String.Pos.Raw.IsValid source ⟨boundary⟩ ∧ max goal r.offset ≤ boundary}
      (r.advanceTo goal).offset := by
  obtain ⟨taken, passes, ends, least⟩ := exists_passes_advanceTo r goal
  have after := stands.passes passes
  refine ⟨⟨after.isValid, max_le ?_ ?_⟩, ?_⟩
  · rcases ends with ended | reached
    · have all := after.offset_add
      rw [ended, Text.byteLength, Nat.add_zero] at all
      rwa [all]
    · exact reached
  · rw [passes.2]
    exact Nat.le_add_right ..
  · rintro boundary ⟨valid, behind⟩
    obtain ⟨part, ahead, rfl⟩ := stands.exists_isPrefix valid (le_of_max_le_right behind)
    rw [passes.2]
    by_contra before
    -- otherwise the boundary is one that was passed because it is before the goal
    have part_taken : part <+: taken :=
      Text.isPrefix_of_byteLength_le ahead ⟨_, passes.1.symm⟩ (by omega)
    have early := least part part_taken (by rintro rfl; exact before (Nat.le_refl _))
    exact absurd (le_of_max_le_left behind) (Nat.not_le.2 early)

/-- Going to a byte that the source does not have ends at the end. -/
lemma StandsIn.advanceTo_offset (stands : r.StandsIn source) {goal : Nat}
    (beyond : source.utf8ByteSize < goal) : (r.advanceTo goal).offset = source.utf8ByteSize := by
  obtain ⟨taken, passes, ends, -⟩ := exists_passes_advanceTo r goal
  have all := (stands.passes passes).offset_add
  have ended := ends.resolve_right fun reached => by omega
  rwa [ended, Text.byteLength, Nat.add_zero] at all

/-! ## Readers and their copies -/

/-- A reader together with the copies that were kept of it. -/
structure Desk where
  reader : Reader
  kept : List Reader

/-- Something is asked of the reader, a copy of it is kept, or it goes back to a copy. -/
inductive Operation where
  | move (move : Move)
  | keep
  | goBack (index : Nat)

namespace Desk

/-- A reader at the start of a text. -/
def ofText (source : String) : Desk :=
  ⟨.ofText source, []⟩

/-- What one operation makes of the reader and the copies. If there is no copy to go back to, the
reader stays. -/
def perform (desk : Desk) : Operation → Desk
  | .move move => { desk with reader := move.apply desk.reader }
  | .keep => { desk with kept := desk.reader :: desk.kept }
  | .goBack index => { desk with reader := desk.kept[index]?.getD desk.reader }

/-- One operation after the other. -/
def run (desk : Desk) (operations : List Operation) : Desk :=
  operations.foldl perform desk

/-- The reader and all copies stand in the source. -/
structure StandsIn (desk : Desk) (source : String) : Prop where
  reader : desk.reader.StandsIn source
  kept : ∀ copy ∈ desk.kept, copy.StandsIn source

variable {desk : Desk}

/-- One operation keeps the reader and all copies in the source. -/
lemma StandsIn.perform (stands : desk.StandsIn source) (operation : Operation) :
    (desk.perform operation).StandsIn source := by
  cases operation with
  | move move =>
    obtain ⟨taken, passes⟩ := move.exists_passes_apply desk.reader
    exact ⟨stands.reader.passes passes, stands.kept⟩
  | keep => exact ⟨stands.reader, List.forall_mem_cons.2 ⟨stands.reader, stands.kept⟩⟩
  | goBack index =>
    refine ⟨?_, stands.kept⟩
    rw [Desk.perform]
    cases found : desk.kept[index]? with
    | none => exact stands.reader
    | some copy => exact stands.kept copy (List.mem_of_getElem? found)

/-- Any operations keep the reader and all copies in the source. -/
lemma StandsIn.run (stands : desk.StandsIn source) (operations : List Operation) :
    (desk.run operations).StandsIn source := by
  induction operations generalizing desk with
  | nil => exact stands
  | cons operation operations ih => exact ih (stands.perform operation)

/-- A new reader without copies stands in its source. -/
lemma standsIn_ofText (source : String) : (ofText source).StandsIn source :=
  ⟨Reader.standsIn_ofText source, nofun⟩

end Desk

/-! ## After any operations -/

/-- The reader passes the longest run of characters of the class. -/
lemma isPrefix_takeWhile {condition : Char → Bool} {other : List Char} (ahead : other <+: r.rest)
    (all : ∀ c ∈ other, condition c = true) : other <+: r.rest.takeWhile condition := by
  have free : Text.Free condition (r.rest.dropWhile condition) := Text.free_dropWhile
  have longest : other.length ≤ (r.rest.takeWhile condition).length :=
    Text.length_le_of_free free all (by rwa [List.takeWhile_append_dropWhile])
  exact List.prefix_of_prefix_length_le ahead (List.takeWhile_prefix _) longest

/-- Whatever was done with a reader and its copies, its offset is a place of the source. The source
is what lies before the place followed by what lies ahead of the reader, the offset is the number of
bytes before it, and the next character is the one at the place. From there, a text is passed if it
is ahead and nothing otherwise, a run of characters is passed as far as it goes, and going to a byte
ends at the first boundary that is not before it. -/
theorem stands_after_operations (source : String) (operations : List Operation) (r : Reader)
    (reached : ((Desk.ofText source).run operations).reader = r) :
    (∃ (place : source.Pos) (before : String),
      place.offset.byteIdx = r.offset ∧ r.offset = before.utf8ByteSize ∧
      source = before ++ String.ofList r.rest ∧
      (source.sliceFrom place).copy = String.ofList r.rest ∧
      place.get? = r.peek? ∧ r.peek? = r.rest.head?) ∧
    (∀ text : String,
      (text.toList <+: r.rest → ∃ next, r.takeText? text = some next ∧
        r.rest = text.toList ++ next.rest ∧ next.offset = r.offset + text.utf8ByteSize) ∧
      (¬ text.toList <+: r.rest →
        r.takeText? text = none ∧ (Move.takeText text).apply r = r)) ∧
    (∀ condition : Char → Bool, ∃ taken,
      r.rest = taken ++ (r.skipWhile condition).rest ∧
      (r.skipWhile condition).offset = r.offset + Text.byteLength taken ∧
      r.runLength condition = taken.length ∧ (∀ c ∈ taken, condition c = true) ∧
      ∀ other, other <+: r.rest → (∀ c ∈ other, condition c = true) → other <+: taken) ∧
    ∀ goal : Nat,
      (goal ≤ source.utf8ByteSize → IsLeast
        {boundary | String.Pos.Raw.IsValid source ⟨boundary⟩ ∧ max goal r.offset ≤ boundary}
        (r.advanceTo goal).offset) ∧
      (source.utf8ByteSize < goal → (r.advanceTo goal).offset = source.utf8ByteSize) := by
  -- what was done before only matters for the place where the reader stands
  have stands : r.StandsIn source := by
    rw [← reached]
    exact ((Desk.standsIn_ofText source).run operations).reader
  refine ⟨?_, ?_, ?_, fun goal => ⟨stands.isLeast_advanceTo, stands.advanceTo_offset⟩⟩
  · obtain ⟨place, before, offset, splits⟩ := stands.exists_splits
    refine ⟨place, before, offset, ?_, splits.eq_append, splits.copy_sliceFrom_eq,
      Text.get?_of_splits splits, rfl⟩
    rw [← offset, splits.offset_eq_rawEndPos, String.byteIdx_rawEndPos]
  · intro text
    constructor
    · rintro ⟨behind, ahead⟩
      obtain ⟨next, passes, -⟩ := exists_passes ahead.symm
      refine ⟨next, takeText?_eq_some_iff.2 passes, passes.1, ?_⟩
      rw [passes.2, Text.byteLength_toList]
    · intro other
      have refused := takeText?_eq_none_iff.2 other
      exact ⟨refused, by rw [Move.apply, refused, Option.getD_none]⟩
  · intro condition
    have passes := passes_skipWhile (r := r) condition
    refine ⟨r.rest.takeWhile condition, passes.1, passes.2, rfl, ?_, ?_⟩
    · intro c member
      exact List.mem_takeWhile_imp member
    · intro other ahead all
      exact isPrefix_takeWhile ahead all

/-- Back at the second character, the byte inside the arrow leads behind the arrow. -/
theorem stands_after_operations_arrow :
    ((Desk.ofText "ab→c").run
        [.move .take, .keep, .move (.takeWhile (· ≠ 'c')), .goBack 0]).reader =
      ⟨1, ['b', '→', 'c']⟩ ∧
    IsLeast {boundary | String.Pos.Raw.IsValid "ab→c" ⟨boundary⟩ ∧ max 3 1 ≤ boundary} 5 := by
  have reached : ((Desk.ofText "ab→c").run
      [.move .take, .keep, .move (.takeWhile (· ≠ 'c')), .goBack 0]).reader =
      ⟨1, ['b', '→', 'c']⟩ := by decide
  exact ⟨reached, ((stands_after_operations _ _ _ reached).2.2.2 3).1 (by decide)⟩

end Reader

end Scriptlet
