import Scriptlet.Value.Fault

/-!
# Sinks

Where output goes. A sink takes bytes in the order in which they are written. A sink may have room
for so many bytes only: it then takes the bytes that fit and refuses the first one beyond.
-/

namespace Scriptlet

/-- What has been written, and what may still be. -/
structure Sink where
  /-- The bytes taken so far. -/
  written : Array UInt8
  /-- How many bytes more fit; `none` if there is no limit. -/
  room : Option Nat
  /-- The reason given when a byte is refused. -/
  refusal : String
  deriving DecidableEq, Repr

namespace Sink

/-- An empty sink that takes everything. -/
def unlimited : Sink :=
  ⟨#[], none, ""⟩

/-- An empty sink that takes the given number of bytes. -/
def limited (room : Nat) (refusal : String) : Sink :=
  ⟨#[], some room, refusal⟩

/-- Writes bytes: all of them, or those that fit. -/
def writeBytes (sink : Sink) (bytes : Array UInt8) : Except String Unit × Sink :=
  match sink.room with
  | none => (.ok (), { sink with written := sink.written ++ bytes })
  | some room =>
    if bytes.size ≤ room then
      (.ok (), { sink with written := sink.written ++ bytes, room := some (room - bytes.size) })
    else
      (.error sink.refusal,
        { sink with written := sink.written ++ bytes.take room, room := some 0 })

/-- Writes a text in UTF-8. -/
def write (sink : Sink) (text : String) : Except String Unit × Sink :=
  sink.writeBytes text.toUTF8.data

end Sink

/-- A computation that can write to a sink and can fail. What it wrote before it fails stays
written. -/
def Writing (α : Type) := Sink → Except Fault α × Sink

namespace Writing

variable {α β : Type}

/-- Writes nothing. -/
protected def pure (value : α) : Writing α := fun sink =>
  (.ok value, sink)

/-- One computation after the other; the first fault ends them. -/
protected def bind (first : Writing α) (next : α → Writing β) : Writing β := fun sink =>
  match first sink with
  | (.ok value, sink) => next value sink
  | (.error fault, sink) => (.error fault, sink)

instance : Monad Writing where
  pure := Writing.pure
  bind := Writing.bind

/-- A constant result writes nothing. -/
@[simp]
theorem pure_apply (value : α) (sink : Sink) : (pure value : Writing α) sink = (.ok value, sink) :=
  rfl

/-- The second part goes on with the value and the sink of the first, unless that one failed. -/
@[simp]
theorem bind_apply (first : Writing α) (next : α → Writing β) (sink : Sink) :
    (first >>= next) sink =
      match first sink with
      | (.ok value, sink) => next value sink
      | (.error fault, sink) => (.error fault, sink) :=
  rfl

/-- A result that is known without writing. -/
def ofResult (result : Except Fault α) : Writing α := fun sink =>
  (result, sink)

/-- Writes a text and a line break. -/
def line (text : String) : Writing Unit := fun sink =>
  match sink.write (text ++ "\n") with
  | (.ok (), sink) => (.ok (), sink)
  | (.error reason, sink) => (.error (.output reason), sink)

/-- Writes every text on a line of its own. -/
def lines : List String → Writing Unit
  | [] => return ()
  | text :: rest => do
    line text
    lines rest

end Writing

/-- Calls a function with the values of its arguments. -/
def Builtin.run : Builtin → List Value → Writing Value
  | .print _, arguments => do
    Writing.lines (arguments.map Value.text)
    return .null

end Scriptlet
