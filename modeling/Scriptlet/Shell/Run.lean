import Scriptlet.Shell.Basic
import Scriptlet.Shell.Command

/-!
# Running commands

What the program does from its start to its end, given its surroundings: the files it can read,
its input, and the sink for its output. The result is all that it leaves behind.
-/

namespace Scriptlet

/-- Why a text cannot be read. -/
inductive ReadFailure where
  /-- There is no such file. -/
  | notFound
  /-- The path leads to a directory. -/
  | isDirectory
  /-- The bytes are no text. -/
  | notText
  /-- Any other reason. -/
  | other (reason : String)
  deriving DecidableEq, Repr

/-- The wording of why a text cannot be read. -/
def ReadFailure.message : ReadFailure → String
  | .notFound => "No such file or directory (os error 2)"
  | .isDirectory => "Is a directory (os error 21)"
  | .notText => "stream did not contain valid UTF-8"
  | .other reason => reason

/-- What surrounds a run of the program. -/
structure Surroundings where
  /-- The bytes of the file at a path. -/
  file : String → Except ReadFailure (List UInt8)
  /-- The bytes of the input. -/
  input : List UInt8
  /-- Where output goes. -/
  output : Sink

/-- What a run of the program leaves behind. -/
structure Reply where
  /-- How it ended. -/
  status : ExitStatus
  /-- The bytes of its output. -/
  output : Array UInt8
  /-- What it reported beside its output. -/
  report : String

namespace Text

/-- The text that the bytes spell in UTF-8. -/
def decode? (bytes : List UInt8) : Option String :=
  String.fromUTF8? ⟨bytes.toArray⟩

/-- The bytes cut behind every line break. -/
def lines : List UInt8 → List (List UInt8)
  | [] => []
  | byte :: rest =>
    if byte = 10 then [byte] :: lines rest
    else match lines rest with
      | [] => [[byte]]
      | line :: more => (byte :: line) :: more

end Text

namespace Shell

/-- The name and the version of the program. -/
def version : String :=
  "easyscript 0.1.0"

/-- How the program is called. -/
def usage : String :=
  "USAGE:\n    easyscript [OPTIONS] [SCRIPT]\n"

/-- The help page: what the program is for, how it is called, its argument and its options. -/
def helpPage : String :=
  version ++ "\nRuns EasyScript programs from a file, an inline snippet or a prompt\n\n" ++ usage ++
    "\nARGS:\n    <SCRIPT>    Script to run. Starts an interactive prompt when omitted\n" ++
    "\nOPTIONS:\n    -e, --eval <EVAL>    Run the given source text instead of a script file\n" ++
    "    -h, --help           Print help information\n" ++
    "    -V, --version        Print version information\n"

/-- What the shell leaves behind. -/
def reply (shell : Shell) (status : ExitStatus) : Reply :=
  ⟨status, shell.session.sink.written, shell.report⟩

/-- Ends with a complaint about input or output. -/
def abort (shell : Shell) (text : String) : Reply :=
  (shell.complain text).reply .inputOutput

/-- Writes a page about the program itself; whether it is taken makes no difference. -/
def showPage (shell : Shell) (page : String) : Reply :=
  (shell.write page).2.reply .success

/-- Runs one source text to its end. -/
def evaluate (settings : Settings) (source : String) (shell : Shell) : Option Reply :=
  match shell.feed settings source with
  | some (none, shell) => some (shell.reply .success)
  | some (some e, shell) => some (shell.reply (.ofKind e.kind))
  | none => none

/-- Runs the script at a path. -/
def script (settings : Settings) (file : String → Except ReadFailure (List UInt8)) (path : String)
    (shell : Shell) : Option Reply :=
  match file path with
  | .error failure => some (shell.abort ("Reading " ++ path ++ ": " ++ failure.message))
  | .ok bytes =>
    match Text.decode? bytes with
    | none => some (shell.abort ("Reading " ++ path ++ ": " ++ ReadFailure.notText.message))
    | some source => shell.evaluate settings source

/-- Asks for a line. -/
def ask (shell : Shell) : Except String Unit × Shell :=
  shell.write "> "

/-- Asks for one line after the other and runs it. An error in a line is reported, and the
conversation goes on. -/
def converse (settings : Settings) : List (List UInt8) → Shell → Option Reply
  | [], shell =>
    match shell.ask with
    | (.error reason, shell) => some (shell.abort ("Writing prompt: " ++ reason))
    | (.ok (), shell) => some (shell.reply .success)
  | line :: more, shell =>
    match shell.ask with
    | (.error reason, shell) => some (shell.abort ("Writing prompt: " ++ reason))
    | (.ok (), shell) =>
      match Text.decode? line with
      | none => some (shell.abort ("Reading stdin: " ++ ReadFailure.notText.message))
      | some source =>
        match shell.feed settings source with
        | some (_, shell) => converse settings more shell
        | none => none

end Shell

/-- Runs a command; `none` if the fuel does not suffice. -/
def Command.run (settings : Shell.Settings) (around : Surroundings) (command : Command) :
    Option Reply :=
  let shell := Shell.fresh around.output
  match command with
  | .help => some (shell.showPage Shell.helpPage)
  | .version => some (shell.showPage (Shell.version ++ "\n"))
  | .misuse => some ⟨.usage, #[], Shell.usage⟩
  | .evaluate source => shell.evaluate settings source
  | .script path => shell.script settings around.file path
  | .prompt => shell.converse settings (Text.lines around.input)

end Scriptlet
