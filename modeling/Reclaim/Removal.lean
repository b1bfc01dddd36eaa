import Reclaim.Procedure

/-!
# Removing one resource

A container is given up in steps: look at it, stop it if it runs, look again,
delete it with its volumes.  The walk ends early when the container turns out
to be gone, and also when the first look fails for another reason, because
nothing is done to a container whose state is unknown.  Networks are looked up
first and then deleted one by one; images are deleted at once.  No removal
fails: what goes wrong is reported and shows in the outcome.
-/

set_option autoImplicit false

namespace Reclaim.Removal

open Engine (Call Report ListedNetwork)

def unknownLabel : String := "<unknown>"

/-- Reports a failure and goes on without the value. -/
def swallow {α : Type} (answer : Except Report α) (severity : Journal.Severity) (what id : String) :
    Procedure (Option α) :=
  match answer with
  | .ok value => pure (some value)
  | .error report => do
    Procedure.log (.failure severity what id report)
    return none

def stop (id label : String) : Procedure Unit := do
  Procedure.log (.stoppingContainer id)
  let answer ← Procedure.call (.kill id)
  match ← swallow answer .trace "error shutting down container; it may already be stopped" id with
  | some _ => Procedure.log (.stoppedContainer id label)
  | none => pure ()

/-- Looks at a container once more and deletes it. -/
def delete (id label : String) : Procedure Outcome := do
  match ← Procedure.call (.inspect id) with
  | .error _ =>
    Procedure.log (.containerVanished id)
    return .alreadyGone
  | .ok _ =>
    Procedure.log (.removingContainer id)
    let answer ← Procedure.call (.forceRemove id)
    match ← swallow answer .trace "error removing container; it may not have been removed" id with
    | some _ =>
      Procedure.log (.removedContainer id label)
      return .removed
    | none => return .removeFailed

def container (id : String) (label : Option String) : Procedure Outcome := do
  let label := label.getD unknownLabel
  match ← Procedure.call (.inspect id) with
  | .error report =>
    if report.isNotFound then
      Procedure.log (.containerGone id)
      return .alreadyGone
    else
      Procedure.log (.failure .trace
        "error checking container for shutdown; it may not have been stopped" id report)
      return .gaveUp
  | .ok state =>
    if state.running then
      stop id label
    delete id label

/-- Deletes the networks of a listing for `id` one by one; `onRemoved` is told of each one that
was deleted.  The last success or failure decides the outcome. -/
def networks (id : String) (onRemoved : String → Procedure Unit) :
    Outcome → List ListedNetwork → Procedure Outcome
  | outcome, [] => pure outcome
  | outcome, network :: rest => do
    match ← Procedure.call (.removeNetwork network.id) with
    | .ok _ =>
      onRemoved network.id
      Procedure.log (.removedNetwork id)
      networks id onRemoved .removed rest
    | .error report =>
      if report.isNotFound then
        Procedure.log (.networkGone id)
        networks id onRemoved outcome rest
      else
        Procedure.log (.failure .trace "error removing network; it may not have been removed"
          network.name report)
        networks id onRemoved .removeFailed rest

def network (id : String) (onRemoved : String → Procedure Unit) : Procedure Outcome := do
  let answer ← Procedure.call (.listNetworks id)
  match ← swallow answer .trace
      "error looking up network for removal; it may not have been removed" id with
  | none => return .gaveUp
  | some listed => networks id onRemoved .alreadyGone listed

def image (name : String) : Procedure Outcome := do
  Procedure.log (.removingImage name)
  match ← Procedure.call (.removeImage name true) with
  | .ok _ => return .removed
  | .error report =>
    if report.isNotFound then
      Procedure.log (.imageGone name)
      return .alreadyGone
    else
      Procedure.log (.failure .warn "unable to delete image" name report)
      return .removeFailed

end Reclaim.Removal
