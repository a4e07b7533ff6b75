import Mathlib.Data.List.Basic
import Scriptlet.Shell.Run

/-!
# Lines

The input is cut behind every byte of a line break before its bytes are read as text. For a text in
UTF-8 that is the same as cutting the text behind every line break, since the byte stands for
nothing else (`Text.eq_newline_of_mem`). A list of lines stays one when some of them are left out.
-/

namespace Scriptlet.Text

/-! ## Bytes of texts -/

/-- The bytes of a text in UTF-8. -/
def encode (text : String) : List UInt8 :=
  text.toUTF8.data.toList

/-- The bytes of a text are read as the text. -/
lemma decode?_encode (text : String) : decode? (encode text) = some text := by
  have bytes : (⟨(encode text).toArray⟩ : ByteArray) = text.toByteArray := by
    rw [encode, Array.toArray_toList]
    rfl
  rw [decode?, bytes, String.fromUTF8?, dif_pos text.isValidUTF8]
  rfl

/-- Bytes that are read as a text are the bytes of the text. -/
lemma eq_encode_of_decode? {bytes : List UInt8} {text : String}
    (decoded : decode? bytes = some text) : bytes = encode text := by
  rw [decode?, String.fromUTF8?] at decoded
  split at decoded
  · rw [← Option.some.inj decoded]
    rfl
  · cases decoded

/-- The bytes of a text are the bytes of its characters one after the other. -/
lemma encode_eq_flatMap (text : String) :
    encode text = text.toList.flatMap String.utf8EncodeChar := by
  have bytes : text.toUTF8 = (text.toList.flatMap String.utf8EncodeChar).toByteArray := by
    rw [String.toUTF8_eq_toByteArray, ← text.ofList_toList, String.toByteArray_ofList,
      String.toList_ofList]
    rfl
  rw [encode, bytes, List.toList_data_toByteArray]

/-- The bytes of texts one after the other are their bytes one after the other. -/
lemma encode_join (texts : List String) :
    encode (String.join texts) = (texts.map encode).flatten := by
  induction texts with
  | nil => rfl
  | cons text texts ih =>
    rw [String.join_cons, List.map_cons, List.flatten_cons, ← ih]
    simp only [encode_eq_flatMap, String.toList_append, List.flatMap_append]

/-- The byte of a line break belongs to no other character. -/
lemma eq_newline_of_mem {c : Char} (member : 10 ∈ String.utf8EncodeChar c) : c = '\n' := by
  -- only the first byte of a character can be this low, and only if it is the only one
  have high : ∀ {n : Nat}, 128 ≤ n → n < 256 → (10 : UInt8) ≠ UInt8.ofNat n := by
    intro n above below same
    have value := congrArg UInt8.toNat same
    rw [UInt8.toNat_ofNat', Nat.mod_eq_of_lt below] at value
    have ten : (10 : UInt8).toNat = 10 := rfl
    omega
  simp only [String.utf8EncodeChar] at member
  split at member
  · rename_i ascii
    have value := congrArg UInt8.toNat (List.mem_singleton.1 member)
    rw [UInt8.toNat_ofNat', Nat.mod_eq_of_lt (by omega)] at value
    exact Char.toNat_inj.1 value.symm
  · exfalso
    split at member
    · simp only [List.mem_cons, List.not_mem_nil, or_false] at member
      rcases member with same | same <;> exact high (by omega) (by omega) same
    · split at member
      · simp only [List.mem_cons, List.not_mem_nil, or_false] at member
        rcases member with same | same | same <;> exact high (by omega) (by omega) same
      · simp only [List.mem_cons, List.not_mem_nil, or_false] at member
        rcases member with same | same | same | same <;> exact high (by omega) (by omega) same

/-! ## Cutting behind marks -/

section Pieces

variable {α : Type} [DecidableEq α] {mark : α}

/-- The list cut behind every mark. -/
def cutBehind (mark : α) : List α → List (List α)
  | [] => []
  | a :: rest =>
    if a = mark then [a] :: cutBehind mark rest
    else match cutBehind mark rest with
      | [] => [[a]]
      | piece :: more => (a :: piece) :: more

omit [DecidableEq α] in
/-- Pieces that end in the mark and have none before their end. The last of them may do without the
mark, if it is not empty. -/
inductive Pieces (mark : α) : List (List α) → Prop where
  | none : Pieces mark []
  | last {piece : List α} (solid : piece ≠ []) (clean : mark ∉ piece) : Pieces mark [piece]
  | next {piece : List α} {more : List (List α)} (clean : mark ∉ piece)
      (others : Pieces mark more) : Pieces mark ((piece ++ [mark]) :: more)

/-- Cutting loses nothing. -/
lemma flatten_cutBehind (list : List α) : (cutBehind mark list).flatten = list := by
  induction list with
  | nil => rfl
  | cons a rest ih =>
    rw [cutBehind]
    split
    · rw [List.flatten_cons, ih]
      rfl
    · cases cut : cutBehind mark rest with
      | nil =>
        rw [cut] at ih
        rw [← ih]
        rfl
      | cons piece more =>
        rw [cut] at ih
        rw [← ih]
        rfl

/-- What is cut behind every mark is a list of pieces. -/
lemma pieces_cutBehind (list : List α) : Pieces mark (cutBehind mark list) := by
  induction list with
  | nil => exact .none
  | cons a rest ih =>
    rw [cutBehind]
    split
    · rename_i same
      subst same
      have alone : Pieces a (([] ++ [a]) :: cutBehind a rest) := .next List.not_mem_nil ih
      exact alone
    · rename_i other
      have clean : ∀ {piece : List α}, mark ∉ piece → mark ∉ a :: piece := by
        intro piece clean member
        rcases List.mem_cons.1 member with rfl | member
        · exact other rfl
        · exact clean member
      cases cut : cutBehind mark rest with
      | nil => exact .last (List.cons_ne_nil _ _) (clean List.not_mem_nil)
      | cons piece more =>
        rw [cut] at ih
        cases ih with
        | last solid clean' => exact .last (List.cons_ne_nil _ _) (clean clean')
        | next clean' others => exact .next (clean clean') others

/-- The first piece goes up to the first mark. -/
lemma cutBehind_append {piece : List α} (clean : mark ∉ piece) (rest : List α) :
    cutBehind mark (piece ++ mark :: rest) = (piece ++ [mark]) :: cutBehind mark rest := by
  induction piece with
  | nil => simp [cutBehind]
  | cons a piece ih =>
    have other : a ≠ mark := fun same => clean (same ▸ List.mem_cons_self)
    have clean' : mark ∉ piece := fun member => clean (List.mem_cons_of_mem a member)
    rw [List.cons_append, cutBehind, if_neg other, ih clean']
    rfl

/-- Without a mark there is one piece. -/
lemma cutBehind_of_not_mem {piece : List α} (solid : piece ≠ []) (clean : mark ∉ piece) :
    cutBehind mark piece = [piece] := by
  induction piece with
  | nil => exact absurd rfl solid
  | cons a piece ih =>
    have other : a ≠ mark := fun same => clean (same ▸ List.mem_cons_self)
    have clean' : mark ∉ piece := fun member => clean (List.mem_cons_of_mem a member)
    rw [cutBehind, if_neg other]
    cases piece with
    | nil => rfl
    | cons b piece => rw [ih (List.cons_ne_nil _ _) clean']

/-- Pieces that are put together are cut apart again. -/
lemma Pieces.cutBehind_flatten {list : List (List α)} (pieces : Pieces mark list) :
    cutBehind mark list.flatten = list := by
  induction pieces with
  | none => rfl
  | @last piece solid clean => simpa using cutBehind_of_not_mem solid clean
  | @next piece more clean others ih =>
    rw [List.flatten_cons, List.append_assoc, List.singleton_append, cutBehind_append clean, ih]

omit [DecidableEq α] in
/-- Pieces stay pieces if some are left out. -/
lemma Pieces.sublist {list others : List (List α)} (pieces : Pieces mark list)
    (sub : others.Sublist list) : Pieces mark others := by
  induction sub with
  | slnil => exact .none
  | cons piece sub ih =>
    cases pieces with
    | last solid clean => exact ih .none
    | next clean more => exact ih more
  | cons_cons piece sub ih =>
    cases pieces with
    | last solid clean =>
      cases sub
      exact .last solid clean
    | next clean more => exact .next clean (ih more)

end Pieces

/-! ## Lines of texts -/

/-- The lines of the input are its bytes cut behind every line break. -/
lemma lines_eq_cutBehind (bytes : List UInt8) : lines bytes = cutBehind 10 bytes := by
  induction bytes with
  | nil => rfl
  | cons byte rest ih =>
    rw [lines, cutBehind, ih]
    cases cutBehind 10 rest <;> rfl

/-- The text cut behind every line break. -/
def sourceLines (text : String) : List String :=
  (cutBehind '\n' text.toList).map String.ofList

/-- The lines of a text are pieces. -/
lemma pieces_sourceLines (text : String) :
    Pieces '\n' ((sourceLines text).map String.toList) := by
  have same : (sourceLines text).map String.toList = cutBehind '\n' text.toList := by
    simp [sourceLines, Function.comp_def]
  rw [same]
  exact pieces_cutBehind _

/-- The lines of a text together are the text. -/
lemma join_sourceLines (text : String) : String.join (sourceLines text) = text := by
  have joined : ∀ pieces : List (List Char),
      String.join (pieces.map String.ofList) = String.ofList pieces.flatten := by
    intro pieces
    induction pieces with
    | nil => rfl
    | cons piece pieces ih => simp [String.join_cons, ih]
  rw [sourceLines, joined, flatten_cutBehind, String.ofList_toList]

/-- The bytes of lines are pieces, since no other character has the byte of a line break. -/
lemma Pieces.encode {texts : List String} (pieces : Pieces '\n' (texts.map String.toList)) :
    Pieces 10 (texts.map Text.encode) := by
  have clean : ∀ {characters : List Char}, '\n' ∉ characters →
      10 ∉ characters.flatMap String.utf8EncodeChar := by
    intro characters clean member
    obtain ⟨c, among, member⟩ := List.mem_flatMap.1 member
    exact clean (eq_newline_of_mem member ▸ among)
  generalize spelled : texts.map String.toList = list at pieces
  induction pieces generalizing texts with
  | none =>
    rw [List.map_eq_nil_iff.1 spelled]
    exact .none
  | @last piece solid clean' =>
    obtain ⟨text, rfl, rfl⟩ := List.map_eq_singleton_iff.1 spelled
    apply Pieces.last
    · obtain ⟨c, rest, split⟩ := List.exists_cons_of_ne_nil solid
      have some_byte : String.utf8EncodeChar c ≠ [] := by
        rw [← List.length_pos_iff, String.length_utf8EncodeChar]
        exact c.utf8Size_pos
      rw [encode_eq_flatMap, split, List.flatMap_cons]
      exact List.append_ne_nil_of_left_ne_nil some_byte _
    · rw [encode_eq_flatMap]
      exact clean clean'
  | @next piece more clean' others ih =>
    obtain ⟨text, texts, rfl, spelled, rest⟩ := List.map_eq_cons_iff.1 spelled
    have ends : Text.encode text = piece.flatMap String.utf8EncodeChar ++ [10] := by
      rw [encode_eq_flatMap, spelled, List.flatMap_append]
      rfl
    rw [List.map_cons, ends]
    exact .next (clean clean') (ih rest)

/-- Lines that are put together are read one by one. -/
lemma lines_encode_join {texts : List String} (pieces : Pieces '\n' (texts.map String.toList)) :
    lines (encode (String.join texts)) = texts.map encode := by
  rw [lines_eq_cutBehind, encode_join, pieces.encode.cutBehind_flatten]

end Scriptlet.Text
