/-!
# The command line

The arguments of the program decide what it does: run a script, run a text given in place, hold a
conversation, or tell about itself. Arguments are read from left to right. A wish for help or for
the version is granted as soon as it is read, and an unknown option or a second script is refused
as soon as it is read; whether the rest makes sense together is decided at the end.
-/

namespace Scriptlet

/-- What the program is asked to do. -/
inductive Command where
  /-- Show how the program is used. -/
  | help
  /-- Show which version it is. -/
  | version
  /-- The arguments make no sense. -/
  | misuse
  /-- Run this source text. -/
  | evaluate (source : String)
  /-- Run the script at this path. -/
  | script (path : String)
  /-- Run one line of input after the other. -/
  | prompt
  deriving DecidableEq, Repr

namespace Command

/-- The form of an argument. -/
inductive Form where
  /-- Two hyphens alone: everything behind them is plain. -/
  | separator
  /-- Two hyphens and a name, with a value behind an equals sign. -/
  | long (name : String) (value : Option String)
  /-- One hyphen, a letter, and what is attached to it. -/
  | short (flag : Char) (attached : List Char)
  /-- Anything else: a value or a path. -/
  | plain
  deriving DecidableEq, Repr

/-- The form of an argument. A single hyphen is plain, and so is the empty text. -/
def Form.ofArgument (argument : String) : Form :=
  match argument.toList with
  | ['-', '-'] => .separator
  | '-' :: '-' :: rest =>
    let name := String.ofList (rest.takeWhile (· ≠ '='))
    match rest.dropWhile (· ≠ '=') with
    | [] => .long name none
    | _ :: value => .long name (some (String.ofList value))
  | '-' :: flag :: attached => .short flag attached
  | _ => .plain

/-- What the arguments read so far say. -/
structure Reading where
  /-- The source texts given in place, the latest first. -/
  sources : List String
  /-- The path of the script. -/
  script : Option String
  /-- The last argument is an option that waits for its value. -/
  pending : Bool
  /-- An option was left without its value. -/
  dangling : Bool
  /-- The separator was read. -/
  separated : Bool
  deriving DecidableEq, Repr

namespace Reading

/-- Before the first argument. -/
def start : Reading :=
  ⟨[], none, false, false, false⟩

/-- Takes the value of the option for source texts. -/
def addSource (r : Reading) (source : String) : Reading :=
  { r with sources := source :: r.sources, pending := false }

/-- Takes a path; there can be one script only. -/
def addScript (r : Reading) (path : String) : Except Command Reading :=
  match r.script with
  | none => .ok { r with script := some path }
  | some _ => .error .misuse

/-- An option follows, so one that still waits for its value is left without. -/
def interrupt (r : Reading) : Reading :=
  { r with pending := false, dangling := r.dangling || r.pending }

/-- Takes an option by its name. -/
def long (r : Reading) (name : String) (value : Option String) : Except Command Reading :=
  match name, value with
  | "eval", some source => .ok (r.addSource source)
  | "eval", none => .ok { r with pending := true }
  | "help", none => .error .help
  | "version", none => .error .version
  | _, _ => .error .misuse

/-- Takes an option by its letter; a value can be attached with or without an equals sign. -/
def short (r : Reading) (flag : Char) (attached : List Char) : Except Command Reading :=
  match flag, attached with
  | 'e', [] => .ok { r with pending := true }
  | 'e', '=' :: source => .ok (r.addSource (String.ofList source))
  | 'e', source => .ok (r.addSource (String.ofList source))
  | 'h', _ => .error .help
  | 'V', _ => .error .version
  | _, _ => .error .misuse

/-- Takes one argument, or settles the command. -/
def next (r : Reading) (argument : String) : Except Command Reading :=
  if r.separated then r.addScript argument
  else match Form.ofArgument argument with
    | .separator => .ok { r with separated := true }
    | .long name value => r.interrupt.long name value
    | .short flag attached => r.interrupt.short flag attached
    | .plain => if r.pending then .ok (r.addSource argument) else r.addScript argument

/-- The command that the arguments make up: a script or a source text, not both, and no option
without its value. -/
def command (r : Reading) : Command :=
  if r.pending || r.dangling then .misuse
  else match r.sources, r.script with
    | [], none => .prompt
    | [], some path => .script path
    | [source], none => .evaluate source
    | _, _ => .misuse

end Reading

/-- The command that the arguments make up. -/
def ofArguments (arguments : List String) : Command :=
  match arguments.foldlM Reading.next Reading.start with
  | .ok r => r.command
  | .error command => command

end Command

end Scriptlet
