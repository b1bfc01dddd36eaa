import Reclaim.CommandLine.Invocation
import Reclaim.Engine.Client
import Reclaim.Journal.Threshold
import Reclaim.LogPath
import Reclaim.Scene

/-!
# Running the program

What an invocation does and how it ends: the exit code, what is written to
standard output, and what is written to standard error, which is the log and
after it the chain of causes of a failure.  The log also goes to a file if the
environment names a path for it and the file can be made.  A run whose threshold
for the log cannot be read ends before it does anything.
-/

set_option autoImplicit false

namespace Reclaim.CommandLine

structure Failure where
  message : String
  causes : List String
  deriving DecidableEq, Repr

def breakLines : List Char → List (List Char)
  | [] => [[]]
  | '\n' :: rest => [] :: breakLines rest
  | c :: rest =>
    match breakLines rest with
    | [] => [[c]]
    | first :: others => (c :: first) :: others

def indented (margin : String) (text : String) : String :=
  let further := String.ofList (List.replicate margin.length ' ')
  margin ++ String.intercalate ("\n" ++ further) ((breakLines text.toList).map String.ofList)

def numberedCause (number : Nat) (cause : String) : String :=
  let digits := toString number
  indented (String.ofList (List.replicate (5 - digits.length) ' ') ++ digits ++ ": ") cause

/-- The text by which a failure is reported; several causes are numbered. -/
def Failure.text (failure : Failure) : String :=
  "Error: " ++ failure.message ++
    match failure.causes with
    | [] => "\n"
    | [cause] => "\n\nCaused by:\n" ++ indented "    " cause ++ "\n"
    | causes =>
      "\n\nCaused by:\n" ++ String.intercalate "\n"
        (causes.zipIdx.map fun entry => numberedCause entry.2 entry.1) ++ "\n"

def Failure.ofClause (context : String) (fault : Clause.Fault) : Failure :=
  ⟨context, [fault.message]⟩

def Failure.ofWire (address : String) (fault : Wire.Fault) : Failure :=
  ⟨"failed to reach watchdog at " ++ address, fault.message :: fault.cause?.toList⟩

abbrev Ending (ω : Type) := Except Failure String × Scene ω

variable {ω : Type}

def sweepLabels (engine : Engine ω) (labels : List Label) (scene : Scene ω) : Ending ω :=
  match Selector.ofLabels (Keyed.ofList labels).entries with
  | .error fault => (.error (.ofClause "invalid label filter" fault), scene)
  | .ok selector =>
    let scene := scene.report [.pruneRequested selector.labelFilters]
    (.ok "", (scene.carryOut engine (Sweep.selector selector)).2)

/-- What is held when resources are to be given up: containers go by their ids in the journal. -/
def requested (containers networks images : List String) : List HolderAct :=
  (containers.map fun id => .hold ⟨.container, id, id⟩) ++
    (networks.map fun id => .hold (.unlabelled .network id)) ++
    images.map fun name => .hold (.unlabelled .image name)

def giveUpNamed (engine : Engine ω) (containers networks images : List String) (scene : Scene ω) :
    Ending ω :=
  let scene := scene.actAll (requested containers networks images)
  let scene := scene.report [.cleanupRequested scene.custody.inventory.size]
  (.ok "", (scene.carryOut engine Custody.cleanup).2)

def shakeHands (network : Wire.Network) (address : String) (scene : Scene ω) : Ending ω :=
  match scene.dial network address with
  | (.error fault, scene) => (.error (.ofWire address fault), scene)
  | (.ok false, scene) =>
    (.error ⟨"watchdog at " ++ address ++ " closed the connection without acknowledging", []⟩,
      scene)
  | (.ok true, scene) =>
    (.ok (Wire.acknowledgment ++ "\n"), scene.report [.handshakeAcknowledged address])

def Task.perform (engine : Engine ω) (network : Wire.Network) (scene : Scene ω) : Task → Ending ω
  | .prune labels => sweepLabels engine labels scene
  | .cleanup containers networks images =>
    giveUpNamed engine containers networks images scene
  | .handshake address _ _ _ => shakeHands network address scene

structure Conclusion where
  exit : Nat
  stdout : String
  stderr : String
  logFile : Option (LogPath.Path × String)
  commands : List (List String)
  deriving DecidableEq, Repr

def logText (threshold : Journal.Threshold) (journal : List Entry) : String :=
  let lines := threshold.complaints ++
    ((eventsOf journal).filter threshold.admits).map Journal.Event.line
  String.join (lines.map fun line => line ++ "\n")

/-- Everything that a run of the program depends on besides its command line. -/
structure Host (ω : Type) where
  shell : Engine.Shell ω
  network : Wire.Network
  session : String
  environment : Environment
  isDirectory : LogPath.Path → Bool
  refusal? : LogPath.Path → String → Option String

def Host.openLog (host : Host ω) : Option (LogPath.Path × String) × List Journal.Event :=
  match List.lookup logPathVariable host.environment with
  | none => (none, [])
  | some path =>
    let (directory, name) := LogPath.place host.isDirectory (Text.Utf8.encode path)
    match host.refusal? directory name with
    | none => (some (directory, name), [])
    | some reason => (none, [.logFileRefused (Text.Utf8.lenient directory) reason])

/-- The end of a run that breaks down while it reads its threshold. -/
def Conclusion.ofBreakdown (breakdown : Journal.Breakdown) : Conclusion :=
  let lines := breakdown.complaints ++ [breakdown.reason]
  ⟨101, "", String.join (lines.map fun line => line ++ "\n"), none, []⟩

def Invocation.runUnder (threshold : Journal.Threshold) (host : Host ω) (world : ω)
    (invocation : Invocation) : Conclusion × ω :=
  let (logFile, opening) := host.openLog
  match Custody.ofSettings (invocation.settings host.session) with
  | .error fault =>
    let failure := Failure.ofClause "invalid default labels" fault
    (⟨1, "", logText threshold (opening.map .event) ++ failure.text, logFile, []⟩, world)
  | .ok custody =>
    let engine := Engine.Client.engine host.shell invocation.program
    let (outcome, scene) :=
      invocation.task.perform engine host.network ((Scene.opening custody world).report opening)
    let log := logText threshold scene.journal
    match outcome with
    | .ok stdout => (⟨0, stdout, log, logFile, commandsOf scene.journal⟩, scene.world)
    | .error failure =>
      (⟨1, "", log ++ failure.text, logFile, commandsOf scene.journal⟩, scene.world)

def Invocation.run (host : Host ω) (world : ω) (invocation : Invocation) : Conclusion × ω :=
  match Journal.Threshold.read ((List.lookup thresholdVariable host.environment).getD "") with
  | .error breakdown => (.ofBreakdown breakdown, world)
  | .ok threshold => invocation.runUnder threshold host world

def usageLine : String :=
  "Usage: reaper [--docker-bin DOCKER_BIN] <prune|cleanup|handshake> [OPTIONS]\n"

def UsageFault.text : UsageFault → String
  | .help | .helpInstead | .version => usageLine
  | .missingCommand => "error: a command is missing\n" ++ usageLine
  | .unknownCommand => "error: unknown command\n" ++ usageLine
  | .unknownArgument => "error: unexpected argument\n" ++ usageLine
  | .missingValue => "error: an option lacks its value\n" ++ usageLine
  | .surplusValue => "error: an option takes no value\n" ++ usageLine
  | .repeatedFlag => "error: an option is given more than once\n" ++ usageLine
  | .missingFlag => "error: a required option is missing\n" ++ usageLine
  | .refusedValue flag value reason => refusalText flag value reason

def UsageFault.exit : UsageFault → Nat
  | .help | .version => 0
  | .helpInstead | .missingCommand | .unknownCommand | .unknownArgument | .missingValue
  | .surplusValue | .repeatedFlag | .missingFlag | .refusedValue _ _ _ => 2

end Reclaim.CommandLine
