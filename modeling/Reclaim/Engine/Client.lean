import Reclaim.Engine.Turn
import Reclaim.Text.Basic
import Reclaim.Text.Utf8

/-!
# Engines behind a command-line client

An engine that is spoken to through a client program such as `docker`: each
call is one command, its success is the client's exit code zero, and listings
come as lines with one JSON record each.  A failure is taken for the absence of
the resource when the client complains in certain words; every other failure is
a failure of the call.
-/

set_option autoImplicit false

namespace Reclaim.Engine

/-! ## Commands -/

inductive Ending where
  | exited (code : Nat)
  | killed (signal : Nat)
  deriving DecidableEq, Repr

structure CommandResult where
  stdout : List UInt8
  stderr : List UInt8
  ending : Ending
  deriving DecidableEq, Repr

/-- A place where commands can be run.  A program that cannot be started is reported in the words
of the operating system. -/
structure Shell (ω : Type) where
  run : (program : String) → (arguments : List String) → ω → Except String CommandResult × ω

def signalNames : List (Nat × String) :=
  [(1, "SIGHUP"), (2, "SIGINT"), (3, "SIGQUIT"), (4, "SIGILL"), (5, "SIGTRAP"), (6, "SIGABRT"),
    (7, "SIGBUS"), (8, "SIGFPE"), (9, "SIGKILL"), (10, "SIGUSR1"), (11, "SIGSEGV"),
    (12, "SIGUSR2"), (13, "SIGPIPE"), (14, "SIGALRM"), (15, "SIGTERM"), (16, "SIGSTKFLT"),
    (17, "SIGCHLD"), (18, "SIGCONT"), (19, "SIGSTOP"), (20, "SIGTSTP"), (21, "SIGTTIN"),
    (22, "SIGTTOU"), (23, "SIGURG"), (24, "SIGXCPU"), (25, "SIGXFSZ"), (26, "SIGVTALRM"),
    (27, "SIGPROF"), (28, "SIGWINCH"), (29, "SIGIO"), (30, "SIGPWR"), (31, "SIGSYS")]

def Ending.text : Ending → String
  | .exited code => "exit status: " ++ toString code
  | .killed signal =>
    "signal: " ++ toString signal ++
      ((signalNames.lookup signal).map fun name => " (" ++ name ++ ")").getD ""

namespace Client

def wholeRecord : String := "\x7b\x7bjson .\x7d\x7d"

def stateRecord : String := "\x7b\x7bjson .State\x7d\x7d"

def labelArguments (labels : List String) : List String :=
  labels.flatMap fun label => ["--filter", "label=" ++ label]

def objectName : SweepKind → String
  | .containers => "container"
  | .networks => "network"
  | .volumes => "volume"
  | .images => "image"

def optional (given : Bool) (argument : String) : List String := if given then [argument] else []

def arguments : Call → List String
  | .inspect id => ["inspect", "--type", "container", "--format", stateRecord, id]
  | .kill id => ["kill", id]
  | .remove id force volumes =>
    ["rm"] ++ optional force "--force" ++ optional volumes "--volumes" ++ [id]
  | .listContainers labels =>
    ["ps", "--all", "--no-trunc", "--format", wholeRecord] ++ labelArguments labels
  | .listNetworks id =>
    ["network", "ls", "--no-trunc", "--filter", "id=" ++ id, "--format", wholeRecord]
  | .removeNetwork id => ["network", "rm", id]
  | .removeImage name force => ["image", "rm"] ++ optional force "--force" ++ [name]
  | .prune kind labels => [objectName kind, "prune", "--force"] ++ labelArguments labels

def operationName : Call → String
  | .inspect _ => "inspect"
  | .kill _ => "kill"
  | .remove _ _ _ => "rm"
  | .listContainers _ => "ps"
  | .listNetworks _ => "network ls"
  | .removeNetwork _ => "network rm"
  | .removeImage _ _ => "image rm"
  | .prune kind _ => objectName kind ++ " prune"

def target? : Call → Option (ResourceKind × String)
  | .inspect id | .kill id | .remove id _ _ => some (.container, id)
  | .removeNetwork id => some (.network, id)
  | .removeImage name _ => some (.image, name)
  | .listContainers _ | .listNetworks _ | .prune _ _ => none

/-! ## Output -/

def occursIn (part : List Char) : List Char → Bool
  | [] => part.isEmpty
  | c :: rest => part.isPrefixOf (c :: rest) || occursIn part rest

/-- Whether a complaint of the client is taken to mean that the resource does not exist. -/
def saysMissing (complaint : String) : Bool :=
  let lower := Text.lowered complaint.toList
  occursIn "no such".toList lower || occursIn "not found".toList lower

def failureReport (call : Call) (result : CommandResult) : Report :=
  let complaint := Text.trimmed (Text.Utf8.lenient result.stderr)
  let failed : Report :=
    (Report.bare (.transport (operationName call) complaint)).attach
      ("exit status: " ++ result.ending.text)
  match target? call with
  | some (kind, id) =>
    if saysMissing complaint then (Report.bare (.notFound kind id)).attach complaint else failed
  | none => failed

def recordLines (output : List Char) : List (List Char) :=
  ((Text.lines output).map Text.trim).filter fun line => !line.isEmpty

/-- The records of an output, one for each line; the first line that writes none is reported. -/
def decodeLines (operation : String) (layout : Json.Layout) (output : List Char) :
    Except Report (List Json.Row) :=
  (recordLines output).mapM fun line =>
    (layout.decode line).mapError fun refusal =>
      (Report.bare (.undecodable operation refusal.message)).attach (String.ofList line)

def stateLayout : Json.Layout :=
  ⟨"StateJson", [⟨"Running", .flag, false⟩, ⟨"Status", .text, false⟩]⟩

def containerLayout : Json.Layout :=
  ⟨"ContainerJson", [⟨"ID", .text, true⟩, ⟨"Image", .text, false⟩]⟩

def networkLayout : Json.Layout :=
  ⟨"NetworkJson", [⟨"ID", .text, true⟩, ⟨"Name", .text, false⟩]⟩

def stateOfRow (row : Json.Row) : ContainerState :=
  ⟨(row.flag? "Running").getD false, (row.text? "Status").getD ""⟩

def containerOfRow (row : Json.Row) : ListedContainer :=
  ⟨(row.text? "ID").getD "", (row.text? "Image").getD ""⟩

def networkOfRow (row : Json.Row) : ListedNetwork :=
  ⟨(row.text? "ID").getD "", (row.text? "Name").getD ""⟩

def readOutput (output : List Char) : (call : Call) → Answer call
  | .inspect _ =>
    match decodeLines "inspect" stateLayout output with
    | .error report => .error report
    | .ok [] => .error (.bare (.undecodable "inspect" emptyOutput))
    | .ok (row :: _) => .ok (stateOfRow row)
  | .listContainers _ => (decodeLines "ps" containerLayout output).map (·.map containerOfRow)
  | .listNetworks _ => (decodeLines "network ls" networkLayout output).map (·.map networkOfRow)
  | .kill _ | .remove _ _ _ | .removeNetwork _ | .removeImage _ _ | .prune _ _ => .ok ()

def readResult (call : Call) (result : CommandResult) : Answer call :=
  if result.ending = .exited 0 then
    readOutput (Text.Utf8.lenientChars result.stdout) call
  else .error (failureReport call result)

def unstarted (program : String) (call : Call) (reason : String) : Report :=
  (Report.bare (.transport (operationName call) reason)).attach ("failed to spawn " ++ program)

/-- The engine behind a client program.  Neither the program nor an argument of a command can hold a
zero byte. -/
def engine {ω : Type} (shell : Shell ω) (program : String) : Engine ω := fun call world =>
  let arguments := arguments call
  let events : List Journal.Event := [.runningCommand program arguments]
  if (program :: arguments).any fun argument => argument.toList.contains '\x00' then
    ⟨.error (unstarted program call "nul byte found in provided data"), world, [], events, []⟩
  else
    match shell.run program arguments world with
    | (.error reason, world) => ⟨.error (unstarted program call reason), world, [], events, []⟩
    | (.ok result, world) => ⟨readResult call result, world, [], events, [arguments]⟩

end Client

end Reclaim.Engine
