import Scriptlet.Shell.Run

/-!
# The program

Connects the shell to the arguments, files and streams of a process.
-/

namespace Scriptlet.Main

/-- Practically unlimited: loops of a program may run as long as they like. -/
def settings : Shell.Settings :=
  ⟨false, 1000000000000000000⟩

/-- Why reading a file failed. -/
def readFailure : IO.Error → ReadFailure
  | .noFileOrDirectory .. => .notFound
  | .inappropriateType .. => .isDirectory
  | e => .other (toString e)

/-- Why writing failed. -/
def writeFailure : IO.Error → String
  | .resourceExhausted _ 28 _ => "No space left on device (os error 28)"
  | e => toString e

/-- Reads the file at a path. -/
def readFile (path : String) : IO (Except ReadFailure (List UInt8)) := do
  try
    return .ok (← IO.FS.readBinFile path).toList
  catch e =>
    return .error (readFailure e)

/-- Reads the input up to and including the next line break. -/
partial def readLine (input : IO.FS.Stream) (line : Array UInt8) : IO (Array UInt8) := do
  let byte ← input.read 1
  if byte.isEmpty then return line
  let line := line ++ byte.data
  if line.back? = some 10 then return line else readLine input line

/-- Writes to standard output; gives the reason if that fails. -/
def emit (bytes : Array UInt8) : IO (Option String) := do
  try
    let output ← IO.getStdout
    output.write ⟨bytes⟩
    output.flush
    return none
  catch e =>
    return some (writeFailure e)

/-- Writes to standard error. -/
def tell (report : String) : IO Unit := do
  (← IO.getStderr).putStr report

/-- Complains about input or output and ends. -/
def abort (text : String) : IO UInt32 := do
  tell (Shell.complaint text)
  return ExitStatus.inputOutput.code.toUInt32

/-- Holds the conversation with whoever types the lines, each answered before the next is read. -/
partial def converse (shell : Shell) : IO UInt32 := do
  let (_, shell) := shell.ask
  tell shell.report
  if let some reason ← emit shell.session.sink.written then
    return ← abort ("Writing prompt: " ++ reason)
  let line ← readLine (← IO.getStdin) #[]
  if line.isEmpty then
    return ExitStatus.success.code.toUInt32
  let shell : Shell := { shell with session.sink := .unlimited, report := "" }
  match Text.decode? line.toList with
  | none => abort ("Reading stdin: " ++ ReadFailure.notText.message)
  | some source =>
    match shell.feed settings source with
    | some (_, shell) => converse shell
    | none => return ExitStatus.stopped.code.toUInt32

/-- Runs any other command. Where standard output takes nothing, the run is that with a full
sink. -/
def perform (command : Command) : IO UInt32 := do
  let contents ← match command with
    | .script path => readFile path
    | _ => pure (.error .notFound)
  let around : Surroundings := ⟨fun _ => contents, [], .unlimited⟩
  let some reply := command.run settings around | return ExitStatus.stopped.code.toUInt32
  match ← emit reply.output with
  | none =>
    tell reply.report
    return reply.status.code.toUInt32
  | some reason =>
    let some reply := command.run settings { around with output := .limited 0 reason }
      | return ExitStatus.stopped.code.toUInt32
    tell reply.report
    return reply.status.code.toUInt32

/-- Runs the command that the arguments make up. -/
def run (arguments : List String) : IO UInt32 :=
  match Command.ofArguments arguments with
  | .prompt => converse (Shell.fresh .unlimited)
  | command => perform command

end Scriptlet.Main

/-- Runs the program with its arguments. -/
def main (arguments : List String) : IO UInt32 :=
  Scriptlet.Main.run arguments
