/-!
# Reading a text from left to right

A `Reader` stands somewhere in a text: it knows how many bytes lie behind it and which characters
lie ahead. Positions count bytes of the text's UTF-8 form, and a reader only ever moves by whole
characters.
-/

namespace Scriptlet

/-- The number of bytes that the characters take up in UTF-8. -/
def Text.byteLength : List Char → Nat
  | [] => 0
  | c :: rest => c.utf8Size + byteLength rest

/-- The bytes of two texts together are those of both. -/
theorem Text.byteLength_append (first second : List Char) :
    byteLength (first ++ second) = byteLength first + byteLength second := by
  induction first with
  | nil => simp [byteLength]
  | cons c rest ih => simp [byteLength, ih, Nat.add_assoc]

/-- A place in a text. -/
structure Reader where
  /-- The number of bytes already read. -/
  offset : Nat
  /-- The characters still ahead. -/
  rest : List Char
  deriving DecidableEq, Repr

namespace Reader

/-- The reader at the start of a text. -/
def ofText (text : String) : Reader :=
  ⟨0, text.toList⟩

/-- The next character, which stays unread. -/
def peek? (r : Reader) : Option Char :=
  r.rest.head?

/-- Whether nothing is ahead. -/
def atEnd (r : Reader) : Bool :=
  r.rest.isEmpty

/-- The next character together with the reader behind it. -/
def take? (r : Reader) : Option (Char × Reader) :=
  match r.rest with
  | [] => none
  | c :: rest => some (c, ⟨r.offset + c.utf8Size, rest⟩)

/-- Moves past the given number of characters, or to the end if there are fewer. -/
def skip : Nat → Reader → Reader
  | 0, r => r
  | n + 1, r =>
    match r.take? with
    | none => r
    | some (_, next) => skip n next

/-- Behind `n` characters lies what is left after them. -/
@[simp]
theorem rest_skip (n : Nat) (r : Reader) : (r.skip n).rest = r.rest.drop n := by
  induction n generalizing r with
  | zero => simp [skip]
  | succ n ih =>
    obtain ⟨offset, _ | ⟨c, rest⟩⟩ := r
    · simp [skip, take?]
    · simp [skip, take?, ih]

/-- Moving past `n` characters reads their bytes. -/
@[simp]
theorem offset_skip (n : Nat) (r : Reader) :
    (r.skip n).offset = r.offset + Text.byteLength (r.rest.take n) := by
  induction n generalizing r with
  | zero => simp [skip, Text.byteLength]
  | succ n ih =>
    obtain ⟨offset, _ | ⟨c, rest⟩⟩ := r
    · simp [skip, take?, Text.byteLength]
    · simp [skip, take?, ih, Text.byteLength, Nat.add_assoc]

/-- Moves past the given character, if it is the next one. -/
def takeChar? (c : Char) (r : Reader) : Option Reader :=
  if r.peek? = some c then some (r.skip 1) else none

/-- Moves past the given text, if the characters ahead spell it out. -/
def takeText? (text : String) (r : Reader) : Option Reader :=
  if text.toList.isPrefixOf r.rest then some (r.skip text.toList.length) else none

/-- How many characters ahead satisfy the condition before the first that does not. -/
def runLength (condition : Char → Bool) (r : Reader) : Nat :=
  (r.rest.takeWhile condition).length

/-- Moves past the longest run of characters that satisfy the condition. -/
def skipWhile (condition : Char → Bool) (r : Reader) : Reader :=
  r.skip (r.runLength condition)

/-- Moves past the longest run of characters that satisfy the condition, if there is at least
one. -/
def takeSome? (condition : Char → Bool) (r : Reader) : Option Reader :=
  if 0 < r.runLength condition then some (r.skipWhile condition) else none

/-- Moves by whole characters until at least `goal` bytes are read, or to the end. -/
def advanceTo (goal : Nat) (r : Reader) : Reader :=
  go r.offset r.rest
where
  /-- Reads on from the given offset. -/
  go (offset : Nat) : List Char → Reader
    | [] => ⟨offset, []⟩
    | c :: rest => if offset < goal then go (offset + c.utf8Size) rest else ⟨offset, c :: rest⟩

/-- The characters read between two places of one text. -/
def textUntil (start stop : Reader) : List Char :=
  go (stop.offset - start.offset) start.rest
where
  /-- Collects characters until their bytes make up the given number. -/
  go : Nat → List Char → List Char
    | 0, _ => []
    | _, [] => []
    | n, c :: rest => c :: go (n - c.utf8Size) rest

/-- A goal at the end of some characters ahead is reached exactly behind them. -/
theorem advanceTo_byteLength (offset : Nat) (inner rest : List Char) :
    advanceTo (offset + Text.byteLength inner) ⟨offset, inner ++ rest⟩ =
      ⟨offset + Text.byteLength inner, rest⟩ := by
  suffices reach : ∀ start goal, goal = start + Text.byteLength inner →
      advanceTo.go goal start (inner ++ rest) = ⟨goal, rest⟩ from reach _ _ rfl
  induction inner with
  | nil =>
    rintro start goal rfl
    cases rest <;> simp [advanceTo.go]
  | cons c inner ih =>
    rintro start goal rfl
    have positive := c.utf8Size_pos
    have step := ih (start + c.utf8Size) (start + (c.utf8Size + Text.byteLength inner))
      (by omega)
    simp only [List.cons_append, advanceTo.go, Text.byteLength]
    rw [if_pos (by omega), step]

/-- What was read between two places is what the bytes between them spell. -/
theorem textUntil_byteLength (offset stop : Nat) (inner rest behind : List Char)
    (bytes : stop = offset + Text.byteLength inner) :
    textUntil ⟨offset, inner ++ rest⟩ ⟨stop, behind⟩ = inner := by
  subst bytes
  simp only [textUntil, Nat.add_sub_cancel_left]
  induction inner with
  | nil => simp [Text.byteLength, textUntil.go]
  | cons c inner ih =>
    have positive := c.utf8Size_pos
    obtain ⟨n, size⟩ : ∃ n, c.utf8Size + Text.byteLength inner = n + 1 :=
      ⟨c.utf8Size + Text.byteLength inner - 1, by omega⟩
    have left : n + 1 - c.utf8Size = Text.byteLength inner := by omega
    simp only [List.cons_append, Text.byteLength, size, textUntil.go, left, ih]

end Reader

end Scriptlet
