import Reclaim.Engine
import Reclaim.Text.Printable

/-!
# The journal

Everything this library reports while it works, as values.  An event has a
level, the part of the program that it comes from, a message and named fields,
and is written in a log as one line.
-/

set_option autoImplicit false

namespace Reclaim

inductive Outcome where
  | removed
  | alreadyGone
  /-- The state of the resource could not be found out, and nothing was done. -/
  | gaveUp
  | removeFailed
  deriving DecidableEq, Repr

def Outcome.name : Outcome → String
  | .removed => "Removed"
  | .alreadyGone => "AlreadyGone"
  | .gaveUp => "GaveUp"
  | .removeFailed => "RemoveFailed"

namespace Journal

inductive Level where
  | trace
  | debug
  | info
  | warn
  | error
  deriving DecidableEq, Repr

def Level.rank : Level → Nat
  | .trace => 0
  | .debug => 1
  | .info => 2
  | .warn => 3
  | .error => 4

/-- The levels at which a failure is reported when the work goes on without the resource. -/
inductive Severity where
  | trace
  | warn
  deriving DecidableEq, Repr

inductive FieldValue where
  | text (value : String)
  /-- A text that a line shows as it is. -/
  | plain (value : String)
  | number (value : Nat)
  | report (value : Engine.Report)
  deriving DecidableEq, Repr

inductive Event where
  | failure (severity : Severity) (what : String) (id : String) (report : Engine.Report)
  | containerGone (id : String)
  | stoppingContainer (id : String)
  | stoppedContainer (id : String) (label : String)
  | containerVanished (id : String)
  | removingContainer (id : String)
  | removedContainer (id : String) (label : String)
  | removedNetwork (id : String)
  | networkGone (id : String)
  | removingImage (name : String)
  | imageGone (name : String)
  | nothingHeld
  | draining (count : Nat)
  | stepFinished (kind : ResourceKind) (id : String) (outcome : Outcome)
  | exitHookInstalled
  | exitCleanup
  | watchdogTakesOver
  | sweepRefused (kind : Engine.SweepKind)
  | sweeping (kind : Engine.SweepKind) (labels : List String)
  | sendingQuery (query : String)
  | lineIgnored (line : String)
  | streamEnded
  | connected (address : String)
  | acknowledged
  | notAcknowledged
  | runningCommand (binary : String) (arguments : List String)
  | pruneRequested (labels : List String)
  | cleanupRequested (count : Nat)
  | handshakeAcknowledged (address : String)
  | callbackPanicked
  | logFileRefused (directory : String) (reason : String)
  deriving DecidableEq, Repr

namespace Event

def level : Event → Level
  | .failure .trace _ _ _ => .trace
  | .failure .warn _ _ _ => .warn
  | .containerGone _ | .stoppingContainer _ | .stoppedContainer _ _ | .containerVanished _
  | .removingContainer _ | .networkGone _ | .removingImage _ | .imageGone _ | .nothingHeld
  | .stepFinished _ _ _ | .sweeping _ _ | .lineIgnored _ | .runningCommand _ _ => .trace
  | .removedContainer _ _ | .removedNetwork _ | .draining _ | .exitHookInstalled | .exitCleanup
  | .watchdogTakesOver | .sendingQuery _ | .streamEnded | .connected _ => .debug
  | .acknowledged | .pruneRequested _ | .cleanupRequested _ | .handshakeAcknowledged _ => .info
  | .sweepRefused _ | .notAcknowledged => .warn
  | .callbackPanicked | .logFileRefused _ _ => .error

def target : Event → String
  | .failure _ _ _ _ | .containerGone _ | .stoppingContainer _ | .stoppedContainer _ _
  | .containerVanished _ | .removingContainer _ | .removedContainer _ _ | .removedNetwork _
  | .networkGone _ | .removingImage _ | .imageGone _ => "reaper::removal"
  | .nothingHeld | .draining _ | .stepFinished _ _ _ | .exitHookInstalled | .acknowledged
  | .notAcknowledged => "reaper::resource_reaper"
  | .exitCleanup | .watchdogTakesOver | .sweepRefused _ | .sweeping _ _ => "reaper::shutdown"
  | .sendingQuery _ | .lineIgnored _ | .streamEnded | .connected _ => "watchdog::stream"
  | .runningCommand _ _ => "reaper::runtime::docker_cli"
  | .pruneRequested _ | .cleanupRequested _ | .handshakeAcknowledged _ => "reaper"
  | .callbackPanicked => "reaper::hook"
  | .logFileRefused _ _ => "utils::logging"

def message : Event → String
  | .failure _ what _ _ => what
  | .containerGone _ => "was going to stop container but it no longer exists"
  | .stoppingContainer _ => "stopping container"
  | .stoppedContainer _ _ => "stopped container"
  | .containerVanished _ => "was going to remove container but it no longer exists"
  | .removingContainer _ => "removing container"
  | .removedContainer _ _ => "removed container and associated volume(s)"
  | .removedNetwork _ => "removed network"
  | .networkGone _ => "network disappeared before removal"
  | .removingImage _ => "removing image"
  | .imageGone _ => "image already removed"
  | .nothingHeld => "nothing registered for cleanup"
  | .draining _ => "cleaning up registered resources"
  | .stepFinished _ _ _ => "cleanup step finished"
  | .exitHookInstalled => "installed exit cleanup hook"
  | .exitCleanup => "running exit cleanup"
  | .watchdogTakesOver => "watchdog is running; skipping label prune"
  | .sweepRefused _ => "refusing to prune without label filters"
  | .sweeping _ _ => "pruning"
  | .sendingQuery query => "Sending '" ++ query ++ "' to watchdog"
  | .lineIgnored _ => "ignoring watchdog line"
  | .streamEnded => "watchdog closed the stream before acknowledging"
  | .connected _ => "connected to watchdog"
  | .acknowledged => "watchdog acknowledged default labels; exit-time prune disabled"
  | .notAcknowledged =>
    "watchdog closed the connection without acknowledging; keeping local cleanup"
  | .runningCommand _ _ => "running runtime command"
  | .pruneRequested _ => "pruning labelled resources"
  | .cleanupRequested _ => "removing resources"
  | .handshakeAcknowledged _ => "watchdog acknowledged"
  | .callbackPanicked => "exit callback panicked"
  | .logFileRefused directory reason =>
    "failed to create rolling file appender at " ++ directory ++ ": " ++ reason ++
      "; logging to stderr only"

def fields : Event → List (String × FieldValue)
  | .failure .trace _ id report => [("id", .text id), ("cause", .plain report.fault.message)]
  | .failure .warn _ id report => [("id", .text id), ("error", .report report)]
  | .containerGone id | .stoppingContainer id | .containerVanished id | .removingContainer id =>
    [("container_id", .text id)]
  | .stoppedContainer id label | .removedContainer id label =>
    [("container_id", .text id), ("image", .text label)]
  | .removedNetwork id | .networkGone id => [("network_id", .text id)]
  | .removingImage name | .imageGone name => [("image", .text name)]
  | .draining count | .cleanupRequested count => [("count", .number count)]
  | .stepFinished kind id outcome =>
    [("kind", .plain kind.name), ("id", .plain id), ("outcome", .plain outcome.name)]
  | .sweepRefused kind => [("kind", .plain kind.name)]
  | .sweeping kind labels =>
    [("kind", .plain kind.name), ("labels", .plain (Text.quotedList labels))]
  | .lineIgnored line => [("line", .plain line)]
  | .connected address => [("socket_addr", .plain address)]
  | .runningCommand binary arguments =>
    [("binary", .plain binary), ("args", .plain (Text.quotedList arguments))]
  | .pruneRequested labels => [("labels", .plain (Text.quotedList labels))]
  | .handshakeAcknowledged address => [("addr", .plain address)]
  | .nothingHeld | .exitHookInstalled | .exitCleanup | .watchdogTakesOver | .sendingQuery _
  | .streamEnded | .acknowledged | .notAcknowledged | .callbackPanicked
  | .logFileRefused _ _ => []

end Event

/-! ## Lines of a log -/

def Level.capitals : Level → String
  | .trace => "TRACE"
  | .debug => "DEBUG"
  | .info => "INFO"
  | .warn => "WARN"
  | .error => "ERROR"

def FieldValue.inLine : FieldValue → String
  | .text value => Text.quoted value
  | .plain value => value
  | .number value => toString value
  | .report value => value.fault.message

def Event.line (event : Event) : String :=
  event.level.capitals ++ " " ++ event.target ++ ": " ++ event.message ++
    String.join (event.fields.map fun field => " " ++ field.1 ++ "=" ++ field.2.inLine)

end Journal

end Reclaim
