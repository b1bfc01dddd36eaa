import Reclaim.Engine.Turn
import Reclaim.Inventory
import Reclaim.Settings
import Reclaim.Sweep

/-!
# Custody

The resources that a process answers for, and the work of giving them up.  A
custody holds an inventory and a testament, the list of selectors to sweep for
at the end unless a watchdog has taken over; whether one has is recorded once
and for all.

The work itself is in the procedures below.  `cleanup` gives up what is held
when it begins; what is registered while it runs waits for the next time.
`exitCleanup` adds the sweeps.
-/

set_option autoImplicit false

namespace Reclaim

structure Custody where
  inventory : Inventory
  /-- The selectors to sweep for at exit; the first one is that of the identifying labels. -/
  testament : List Selector
  labels : Keyed String
  selector : Selector
  patience : Wire.Patience
  armed : Bool
  watched : Bool
  /-- The stream to the watchdog that took over; it is kept open. -/
  connection : Option Wire.Stream
  deriving DecidableEq

namespace Custody

def ofSettings (settings : Settings) : Except Clause.Fault Custody :=
  (Selector.ofLabels settings.labels.entries).map fun selector =>
    { inventory := .empty
      testament := [selector]
      labels := settings.labels
      selector := selector
      patience := settings.patience
      armed := false
      watched := false
      connection := none }

def hold (custody : Custody) (holding : Holding) : Custody :=
  { custody with inventory := custody.inventory.insert holding }

def forget (custody : Custody) (kind : ResourceKind) (id : String) : Custody :=
  { custody with inventory := custody.inventory.erase kind id }

def bequeath (custody : Custody) (selector : Selector) : Custody :=
  { custody with testament := custody.testament ++ [selector] }

def markWatched (custody : Custody) : Custody := { custody with watched := true }

/-! ## The work of giving up -/

def stopContainer (id : String) (label : Option String) : Procedure Outcome := do
  let held ← Procedure.request (.label id)
  let outcome ← Removal.container id (label <|> held)
  Procedure.request (.forget .container id)
  return outcome

/-- Gives up the networks that the engine lists for an id.  Those that were deleted, and the id
itself, are held no longer. -/
def removeNetwork (id : String) : Procedure Outcome := do
  let outcome ← Removal.network id fun removed => Procedure.request (.forget .network removed)
  Procedure.request (.forget .network id)
  return outcome

def removeImage (name : String) : Procedure Outcome := do
  let outcome ← Removal.image name
  Procedure.request (.forget .image name)
  return outcome

def giveUp (holding : Holding) : Procedure Outcome :=
  match holding.kind with
  | .container => stopContainer holding.id (some holding.label)
  | .network => removeNetwork holding.id
  | .image => removeImage holding.id

def drain (holdings : List Holding) : Procedure Unit :=
  Procedure.each (fun holding => do
    let outcome ← giveUp holding
    Procedure.log (.stepFinished holding.kind holding.id outcome)) holdings

def cleanup : Procedure Unit := do
  let held : List Holding ← Procedure.request .holdings
  if held.isEmpty then
    Procedure.log .nothingHeld
  else
    Procedure.log (.draining held.length)
    drain held

/-- The work at exit: gives up all that is held, and sweeps for the testament unless a watchdog
has taken over by then. -/
def exitCleanup : Procedure Unit := do
  Procedure.log .exitCleanup
  cleanup
  let watched : Bool ← Procedure.request .watched
  if watched then
    Procedure.log .watchdogTakesOver
  else
    let selectors : List Selector ← Procedure.request .testament
    Sweep.testament selectors

end Custody

end Reclaim
