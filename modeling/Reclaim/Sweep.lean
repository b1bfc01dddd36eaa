import Reclaim.Removal

/-!
# Sweeping by label

A sweep removes the resources that carry all labels of a selector, whether they
are held or not.  Containers are listed and then removed one by one, the other
kinds by one call.  A selector without labels is refused, because a sweep
without labels would hit resources of others.
-/

set_option autoImplicit false

namespace Reclaim.Sweep

open Engine (SweepKind ListedContainer)

def containers (listed : List ListedContainer) : Procedure Unit :=
  Procedure.each (fun container => do
    let _ ← Removal.container container.id (some container.image)) listed

def kind (kind : SweepKind) (selector : Selector) : Procedure Unit := do
  let labels := selector.labelFilters
  if labels.isEmpty then
    Procedure.log (.sweepRefused kind)
  else
    Procedure.log (.sweeping kind labels)
    match kind with
    | .containers =>
      let answer ← Procedure.call (.listContainers labels)
      match ← Removal.swallow answer .warn "failed to list containers for pruning"
          (String.intercalate "," labels) with
      | some listed => containers listed
      | none => pure ()
    | .networks | .volumes | .images =>
      let answer ← Procedure.call (.prune kind labels)
      let _ ← Removal.swallow answer .warn "failed to prune resources" kind.name

def selector (selector : Selector) : Procedure Unit :=
  Procedure.each (fun kind => Sweep.kind kind selector) SweepKind.all

/-- Sweeps for several selectors, one kind at a time across all of them: containers have to go
before the networks and volumes that they use. -/
def testament (selectors : List Selector) : Procedure Unit :=
  Procedure.each (fun kind => Procedure.each (Sweep.kind kind) selectors) SweepKind.all

end Reclaim.Sweep
