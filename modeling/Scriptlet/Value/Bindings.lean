import Scriptlet.Value.Fault

/-!
# Bindings

The variables of a session and their values. There is one flat table; binding a name again
replaces its value.
-/

namespace Scriptlet

/-- A table of names and values in which every name occurs at most once. -/
structure Bindings where
  /-- The names in the order in which they were first bound. -/
  entries : List (String × Value)
  deriving DecidableEq, Repr

namespace Bindings

/-- The table without names. -/
def empty : Bindings :=
  ⟨[]⟩

/-- The value of a name, if it is bound. -/
def find? (vars : Bindings) (name : String) : Option Value :=
  vars.entries.lookup name

/-- The value of a name, which has to be bound. -/
def get (vars : Bindings) (name : String) : Except Fault Value :=
  match vars.find? name with
  | some value => .ok value
  | none => .error (.undefinedVariable name)

/-- Binds a name to a value, in the place of an earlier value if there is one. -/
def define (vars : Bindings) (name : String) (value : Value) : Bindings :=
  ⟨go vars.entries⟩
where
  /-- Replaces the entry of the name or adds one at the end. -/
  go : List (String × Value) → List (String × Value)
    | [] => [(name, value)]
    | entry :: rest => if entry.1 = name then (name, value) :: rest else entry :: go rest

/-- A name that has just been bound has its new value. -/
@[simp]
theorem find?_define_self (vars : Bindings) (name : String) (value : Value) :
    (vars.define name value).find? name = some value := by
  obtain ⟨entries⟩ := vars
  simp only [find?, define]
  induction entries with
  | nil => simp [define.go]
  | cons entry rest ih =>
    obtain ⟨bound, old⟩ := entry
    by_cases same : bound = name
    · simp [define.go, same]
    · have other : (name == bound) = false := by simpa using Ne.symm same
      simp [define.go, same, List.lookup_cons, other, ih]

/-- Binding a name leaves every other name alone. -/
theorem find?_define_of_ne (vars : Bindings) {name other : String} (value : Value)
    (distinct : other ≠ name) : (vars.define name value).find? other = vars.find? other := by
  obtain ⟨entries⟩ := vars
  have new : (other == name) = false := by simpa using distinct
  simp only [find?, define]
  induction entries with
  | nil => simp [define.go, List.lookup_cons, new]
  | cons entry rest ih =>
    obtain ⟨bound, old⟩ := entry
    by_cases same : bound = name
    · simp [define.go, same, List.lookup_cons, new]
    · simp [define.go, same, List.lookup_cons, ih]

/-- The function that a call to a name reaches. -/
def function (vars : Bindings) (name : String) : Except Fault Builtin :=
  match vars.find? name with
  | some (.function f) => .ok f
  | some _ => .error (.notCallable name)
  | none => .error (.unknownFunction name)

/-- Whether two tables bind the same names to equal values, in whatever order. -/
def agrees (vars others : Bindings) : Bool :=
  vars.entries.length = others.entries.length &&
    vars.entries.all fun (name, value) => (others.find? name).any value.agrees

end Bindings

end Scriptlet
