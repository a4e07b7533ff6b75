import Scriptlet.Program.Eval

/-!
# Sessions

A session is what lasts from one source text to the next: the bindings and the output. It also
keeps a journal for those who want to follow which statements are entered.
-/

namespace Scriptlet

/-- The state of a session. -/
structure Session where
  /-- The variables. -/
  vars : Bindings
  /-- The output. -/
  sink : Sink
  /-- Statements noted in the journal, the latest first. -/
  journal : List Stmt

namespace Session

/-- The names that every session starts with. -/
def builtins (origin : Nat) : Bindings :=
  ((Bindings.empty.define "true" (.boolean true)).define "false" (.boolean false)).define
    (Builtin.print origin).name (.function (.print origin))

/-- A new session that writes to the sink. The origin tells its functions from those of others. -/
def fresh (origin : Nat) (sink : Sink) : Session :=
  ⟨builtins origin, sink, []⟩

/-- Performs a computation over the session's bindings and output. -/
def perform {α : Type} (s : Session) (action : Bindings → Writing α) : Except Fault α × Session :=
  let (result, sink) := action s.vars s.sink
  (result, { s with sink })

/-- Evaluates an expression. -/
def evaluate (s : Session) (e : Expr) : Except Fault Value × Session :=
  s.perform fun vars => e.eval vars

/-- Evaluates a condition. -/
def test (s : Session) (condition : Expr) : Except Fault Bool × Session :=
  s.perform fun vars => condition.holds vars

/-- Binds a name. -/
def define (s : Session) (name : String) (value : Value) : Session :=
  { s with vars := s.vars.define name value }

/-- Notes a statement in the journal. -/
def note (stmt : Stmt) (s : Session) : Session :=
  { s with journal := stmt :: s.journal }

end Session

end Scriptlet
