import Reclaim.CommandLine.Grammar
import Reclaim.Settings
import Reclaim.Text.Digits

/-!
# Invocations of the program

What one can ask the program for on its command line: to sweep by label, to
give up named resources, or to tell a watchdog about some labels.  For each of
these there is a command with options of its own; the client program of the
engine can be named before and after the command.
-/

set_option autoImplicit false

namespace Reclaim.CommandLine

/-! ## Values -/

abbrev Label := String × String

/-- The name and the value of a label argument; it is cut at its first equals sign, and its name
is not empty. -/
def readLabel (argument : String) : Except String Label :=
  match cutEquals argument.toList with
  | (_, none) => .error ("invalid label `" ++ argument ++ "`: expected KEY=VALUE")
  | ([], some _) => .error ("invalid label `" ++ argument ++ "`: key must not be empty")
  | (name, some value) => .ok (String.ofList name, String.ofList value)

def secondsBound : Nat := 0x10000000000000000

def checkLabel (argument : String) : Except Refusal Unit :=
  match readLabel argument with
  | .ok _ => .ok ()
  | .error reason => .error (.because reason)

def checkSeconds (argument : String) : Except Refusal Unit :=
  match Text.readNumeral secondsBound argument.toList with
  | .ok _ => .ok ()
  | .error fault => .error (.because fault.message)

def checkPath (argument : String) : Except Refusal Unit :=
  if argument = "" then .error .blank else .ok ()

def checkNothing (_ : String) : Except Refusal Unit := .ok ()

/-! ## Options and commands -/

def programVariable : String := "REAPER_DOCKER_BIN"

def addressVariable : String := "REAPER_WATCHDOG_ADDR"

def thresholdVariable : String := "RUST_LOG"

def logPathVariable : String := "REAPER_LOG_PATH"

def programFlag : Flag :=
  ⟨"docker-bin", "DOCKER_BIN", false, false, some programVariable, checkPath⟩

def labelFlag (required : Bool) : Flag := ⟨"label", "KEY=VALUE", true, required, none, checkLabel⟩

def resourceFlag (name valueName : String) : Flag :=
  ⟨name, valueName, true, false, none, checkNothing⟩

def addressFlag : Flag := ⟨"addr", "ADDR", false, true, some addressVariable, checkNothing⟩

def secondsFlag (name valueName : String) : Flag :=
  ⟨name, valueName, false, false, none, checkSeconds⟩

inductive Command where
  | prune
  | cleanup
  | handshake
  deriving DecidableEq, Repr

def Command.name : Command → String
  | .prune => "prune"
  | .cleanup => "cleanup"
  | .handshake => "handshake"

def Command.all : List Command := [.prune, .cleanup, .handshake]

def helpCommand : String := "help"

def programLevel : Level := ⟨[programFlag], true, Command.all.map Command.name ++ [helpCommand]⟩

def Command.level : Command → Level
  | .prune => ⟨[labelFlag true, programFlag], false, []⟩
  | .cleanup =>
    ⟨[resourceFlag "container" "ID", resourceFlag "network" "ID", resourceFlag "image" "NAME",
      programFlag], false, []⟩
  | .handshake =>
    ⟨[addressFlag, labelFlag false, secondsFlag "connect-timeout-secs" "CONNECT_TIMEOUT_SECS",
      secondsFlag "ack-timeout-secs" "ACK_TIMEOUT_SECS", programFlag], false, []⟩

/-! ## Invocations -/

inductive Task where
  | prune (labels : List Label)
  | cleanup (containers networks images : List String)
  | handshake (address : String) (labels : List Label) (connectSeconds ackSeconds : Nat)
  deriving DecidableEq, Repr

structure Invocation where
  program : String
  task : Task
  deriving DecidableEq, Repr

def Reading.values (reading : Reading) (name : String) : List String :=
  ((reading.find? name).map Given.values).getD []

def Reading.labels (reading : Reading) : List Label :=
  (reading.values "label").filterMap fun argument => (readLabel argument).toOption

def Reading.seconds (reading : Reading) (name : String) (otherwise : Nat) : Nat :=
  match reading.values name with
  | [] => otherwise
  | argument :: _ => (Text.readNumeral secondsBound argument.toList).toOption.getD otherwise

def Command.task (reading : Reading) : Command → Task
  | .prune => .prune reading.labels
  | .cleanup =>
    .cleanup (reading.values "container") (reading.values "network") (reading.values "image")
  | .handshake =>
    .handshake ((reading.values "addr").head?.getD "") reading.labels
      (reading.seconds "connect-timeout-secs" 10) (reading.seconds "ack-timeout-secs" 5)

/-- The client program that counts when it can be given on two levels: that of the command,
unless only the other one is written on the command line. -/
def chooseProgram (outer inner : Option Given) : String :=
  let chosen :=
    match outer, inner with
    | some outer, some inner =>
      if outer.source = Source.arguments ∧ inner.source = Source.environment then some outer
      else some inner
    | some outer, none => some outer
    | none, inner => inner
  (chosen.bind fun given => given.values.head?).getD defaultProgram

/-- The answer to a question about commands: only commands can be explained. -/
def explain : List String → UsageFault
  | [] => .help
  | name :: rest =>
    if !programLevel.commands.contains name then .unknownCommand
    else if rest.isEmpty then .help
    else .unknownCommand

def commandless (reading : Reading) : UsageFault :=
  if reading.given.isEmpty then .helpInstead else .missingCommand

def parse (environment : Environment) (arguments : List String) : Except UsageFault Invocation := do
  let (outer, found) ← programLevel.read .opening arguments
  match found with
  | none =>
    let outer ← programLevel.finish environment outer
    .error (commandless outer)
  | some (name, rest) =>
    match Command.all.find? fun command => command.name == name with
    | none => .error (explain rest)
    | some command =>
      let (inner, _) ← command.level.read .opening rest
      let inner ← command.level.finishCommand environment inner
      let outer ← programLevel.finish environment outer
      return ⟨chooseProgram (outer.find? programFlag.name) (inner.find? programFlag.name),
        command.task inner⟩

def Invocation.settings (session : String) (invocation : Invocation) : Settings :=
  let settings := (Settings.initial session).choose (.program invocation.program)
  match invocation.task with
  | .handshake _ labels connectSeconds ackSeconds =>
    let settings := settings.choose (.patience ⟨connectSeconds * 1000, ackSeconds * 1000⟩)
    if labels.isEmpty then settings else settings.choose (.labels labels)
  | .prune _ | .cleanup _ _ _ => settings

end Reclaim.CommandLine
