import Scriptlet.Program.Source
import Scriptlet.Session.Basic

/-!
# Running statements

Statements change a session one after the other until they are through or one of them fails. Loops
need not end, so a run gets fuel: the number of times that each loop may test its condition. A run
that uses up its fuel has no result, and one that has a result has the same one with more fuel.
-/

namespace Scriptlet

/-- What a run leads to. -/
inductive Outcome (ε : Type) where
  /-- The run is through. -/
  | done (session : Session)
  /-- The run stops early; what it did before stays done. -/
  | failed (cause : ε) (session : Session)
  /-- A loop takes more rounds than the fuel allows. -/
  | outOfFuel

namespace Outcome

variable {ε ε' : Type}

/-- The same outcome with another account of the failure. -/
def mapCause (f : ε → ε') : Outcome ε → Outcome ε'
  | .done s => .done s
  | .failed cause s => .failed (f cause) s
  | .outOfFuel => .outOfFuel

/-- The outcome that a result leads to, if a success is followed by the given step. -/
def ofResult {α : Type} (step : α → Session → Outcome ε) : Except ε α × Session → Outcome ε
  | (.ok value, s) => step value s
  | (.error cause, s) => .failed cause s

end Outcome

/-- Runs an assignment. A call as the target is evaluated for its effect, and nothing is
assigned. -/
def Session.assign (s : Session) (target : Expr) (value : Option Expr) : Outcome Fault :=
  match target with
  | .invoke _ _ => .ofResult (fun _ s => .done s) (s.evaluate target)
  | .variable name =>
    match value with
    | some e => .ofResult (fun result s => .done (s.define name result)) (s.evaluate e)
    | none => .done (s.define name .null)
  | _ => .failed (.invalidTarget target) s

/-- Repeats a body as long as the condition holds, with one unit of fuel for each test. -/
def Session.repeatWhile (condition : Expr) (body : Session → Outcome Fault) :
    Nat → Session → Outcome Fault
  | 0, _ => .outOfFuel
  | fuel + 1, s =>
    match s.test condition with
    | (.error fault, s) => .failed fault s
    | (.ok false, s) => .done s
    | (.ok true, s) =>
      match body s with
      | .done s => Session.repeatWhile condition body fuel s
      | .failed fault s => .failed fault s
      | .outOfFuel => .outOfFuel

mutual

/-- Runs a statement. On entry to every statement, also inside blocks, `enter` may touch the
session. A loop tests its condition once before it starts to repeat. -/
def Stmt.exec (enter : Stmt → Session → Session) (fuel : Nat) : Stmt → Session → Outcome Fault
  | .expr e, s =>
    .ofResult (fun _ s => .done s) ((enter (.expr e) s).evaluate e)
  | .assign target value, s =>
    (enter (.assign target value) s).assign target value
  | .ifThen condition body, s =>
    match (enter (.ifThen condition body) s).test condition with
    | (.error fault, s) => .failed fault s
    | (.ok false, s) => .done s
    | (.ok true, s) => Stmt.execAll enter fuel body s
  | .whileDo condition body, s =>
    match (enter (.whileDo condition body) s).test condition with
    | (.error fault, s) => .failed fault s
    | (.ok _, s) =>
      Session.repeatWhile condition (fun s => Stmt.execAll enter fuel body s) fuel s

/-- Runs statements one after the other up to the first that fails. -/
def Stmt.execAll (enter : Stmt → Session → Session) (fuel : Nat) :
    List Stmt → Session → Outcome Fault
  | [], s => .done s
  | stmt :: more, s =>
    match stmt.exec enter fuel s with
    | .done s => Stmt.execAll enter fuel more s
    | .failed fault s => .failed fault s
    | .outOfFuel => .outOfFuel

end

/-- Runs a statement without a journal. -/
def Stmt.run (fuel : Nat) (stmt : Stmt) (s : Session) : Outcome Fault :=
  stmt.exec (fun _ s => s) fuel s

/-- Runs a program without a journal. -/
def Program.run (fuel : Nat) (program : Program) (s : Session) : Outcome Fault :=
  Stmt.execAll (fun _ s => s) fuel program s

/-- Runs a program and notes every statement that is entered. -/
def Program.trace (fuel : Nat) (program : Program) (s : Session) : Outcome Fault :=
  Stmt.execAll Session.note fuel program s

namespace Session

/-- Runs the program that a source text spells. A text that is no program changes nothing. -/
def runBy (execute : Program → Session → Outcome Fault) (source : String) (s : Session) :
    Outcome Error :=
  match Program.ofSource source with
  | .ok program => (execute program s).mapCause .fault
  | .error e => .failed e s

/-- Runs a source text without a journal. -/
def run (fuel : Nat) (source : String) (s : Session) : Outcome Error :=
  s.runBy (Program.run fuel) source

/-- Runs a source text and notes every statement that is entered. -/
def trace (fuel : Nat) (source : String) (s : Session) : Outcome Error :=
  s.runBy (Program.trace fuel) source

end Session

end Scriptlet
