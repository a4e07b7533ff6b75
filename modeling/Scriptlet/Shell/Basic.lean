import Scriptlet.Session.Run

/-!
# The shell

The shell runs source texts in one session, reports their errors and, if it is asked to, tells on
the way what it makes of them.
-/

namespace Scriptlet

/-- How the program ends. -/
inductive ExitStatus where
  /-- All went well. -/
  | success
  /-- The arguments make no sense. -/
  | usage
  /-- The source text is no program. -/
  | badSource
  /-- The program stops. -/
  | stopped
  /-- Input or output fails. -/
  | inputOutput
  deriving DecidableEq, Repr

namespace ExitStatus

/-- The number that the program ends with. -/
def code : ExitStatus → Nat
  | .success => 0
  | .usage => 64
  | .badSource => 65
  | .stopped => 70
  | .inputOutput => 74

/-- How the program ends after an error of the kind. -/
def ofKind : Error.Kind → ExitStatus
  | .lex | .parse => .badSource
  | .name | .type | .internal => .stopped
  | .output => .inputOutput

end ExitStatus

/-- A session together with what has been reported beside its output. -/
structure Shell where
  /-- The session. -/
  session : Session
  /-- The reports so far. -/
  report : String

namespace Shell

/-- How the shell runs source texts. -/
structure Settings where
  /-- Whether the shell tells about tokens, programs and the statements that are entered. -/
  verbose : Bool
  /-- How often each loop may test its condition. -/
  fuel : Nat

/-- A new shell that writes to the sink. -/
def fresh (sink : Sink) : Shell :=
  ⟨Session.fresh 0 sink, ""⟩

/-- The report of something that went wrong. -/
def complaint (text : String) : String :=
  "error: " ++ text ++ "\n"

/-- What the shell makes of a source text: its tokens, one on a line, and its outline. -/
def commentary (source : String) : String :=
  match sourceTokens source with
  | .error _ => ""
  | .ok tokens =>
    String.join (tokens.map fun token => token.shown ++ "\n") ++
      match Program.ofTokens tokens with
      | .error _ => ""
      | .ok program => program.outline ++ "\n"

/-- The statements in the journal in the order in which they were entered. -/
def chronicle (journal : List Stmt) : String :=
  String.join (journal.reverse.map fun stmt => "[trace] " ++ stmt.outline ++ "\n")

/-- What an outcome adds to the report: the remarks on the run, and behind them the error if there
is one. -/
def conclude (report : String) (remarks : Session → String) :
    Outcome Error → Option (Option Error × Shell)
  | .done s => some (none, ⟨s, report ++ remarks s⟩)
  | .failed e s => some (some e, ⟨s, report ++ remarks s ++ complaint e.message⟩)
  | .outOfFuel => none

/-- Runs a source text and reports its error; `none` if the fuel does not suffice. -/
def feed (settings : Settings) (source : String) (shell : Shell) : Option (Option Error × Shell) :=
  if settings.verbose then
    conclude shell.report (fun s => commentary source ++ chronicle s.journal)
      ({ shell.session with journal := [] }.trace settings.fuel source)
  else
    conclude shell.report (fun _ => "") (shell.session.run settings.fuel source)

/-- Writes a text to the output. -/
def write (shell : Shell) (text : String) : Except String Unit × Shell :=
  let (result, sink) := shell.session.sink.write text
  (result, { shell with session := { shell.session with sink } })

/-- Adds a complaint to the report. -/
def complain (shell : Shell) (text : String) : Shell :=
  { shell with report := shell.report ++ complaint text }

end Shell

end Scriptlet
