import Reclaim.Keyed
import Reclaim.Resource

/-!
# The inventory

What a process holds: containers with a label each, networks and images, each
kind a map of its own.  Its view is `find?`, the holding of a kind with an id;
`holdings` lists the view, containers before networks before images.
-/

set_option autoImplicit false

namespace Reclaim

structure Inventory where
  containers : Keyed String
  networks : Keyed Unit
  images : Keyed Unit
  deriving DecidableEq

namespace Inventory

def empty : Inventory := ⟨.empty, .empty, .empty⟩

/-- Holds a resource.  A container held already gets the new label. -/
def insert (inventory : Inventory) (holding : Holding) : Inventory :=
  match holding.kind with
  | .container =>
    { inventory with containers := inventory.containers.insert holding.id holding.label }
  | .network => { inventory with networks := inventory.networks.insert holding.id () }
  | .image => { inventory with images := inventory.images.insert holding.id () }

def erase (inventory : Inventory) (kind : ResourceKind) (id : String) : Inventory :=
  match kind with
  | .container => { inventory with containers := inventory.containers.erase id }
  | .network => { inventory with networks := inventory.networks.erase id }
  | .image => { inventory with images := inventory.images.erase id }

def remove (inventory : Inventory) (kind : ResourceKind) (id : String) : Bool × Inventory :=
  match kind with
  | .container =>
    let (found, containers) := inventory.containers.remove id
    (found.isSome, { inventory with containers })
  | .network =>
    let (found, networks) := inventory.networks.remove id
    (found.isSome, { inventory with networks })
  | .image =>
    let (found, images) := inventory.images.remove id
    (found.isSome, { inventory with images })

def label? (inventory : Inventory) (id : String) : Option String := inventory.containers.get? id

def find? (inventory : Inventory) (kind : ResourceKind) (id : String) : Option Holding :=
  match kind with
  | .container => (inventory.containers.get? id).map fun label => ⟨.container, id, label⟩
  | .network => (inventory.networks.get? id).map fun _ => .unlabelled .network id
  | .image => (inventory.images.get? id).map fun _ => .unlabelled .image id

def contains (inventory : Inventory) (kind : ResourceKind) (id : String) : Bool :=
  match kind with
  | .container => inventory.containers.contains id
  | .network => inventory.networks.contains id
  | .image => inventory.images.contains id

def size (inventory : Inventory) : Nat :=
  inventory.containers.size + inventory.networks.size + inventory.images.size

def isEmpty (inventory : Inventory) : Bool := inventory.size == 0

/-- All that is held: containers, then networks, then images, each kind by ascending id. -/
def holdings (inventory : Inventory) : List Holding :=
  (inventory.containers.entries.map fun entry => ⟨.container, entry.1, entry.2⟩) ++
    inventory.networks.keys.map (Holding.unlabelled .network) ++
    inventory.images.keys.map (Holding.unlabelled .image)

theorem remove_eq (inventory : Inventory) (kind : ResourceKind) (id : String) :
    inventory.remove kind id = (inventory.contains kind id, inventory.erase kind id) := by
  cases kind <;> rfl

/-- The ids of a container, a network and an image never stand in each other's way. -/
theorem find?_erase (inventory : Inventory) (kind other : ResourceKind) (id target : String) :
    (inventory.erase kind id).find? other target =
      if kind = other ∧ id = target then none else inventory.find? other target := by
  cases kind <;> cases other <;> simp [erase, find?, Keyed.get?_erase] <;> split <;> simp_all

theorem find?_insert (inventory : Inventory) (holding : Holding) (kind : ResourceKind)
    (id : String) :
    (inventory.insert holding).find? kind id =
      if holding.kind = kind ∧ holding.id = id then
        some (if kind = .container then holding else .unlabelled kind id)
      else inventory.find? kind id := by
  obtain ⟨held, name, label⟩ := holding
  cases held <;> cases kind <;>
    simp [insert, find?, Keyed.get?_insert] <;> split <;> simp_all

theorem length_holdings (inventory : Inventory) : inventory.holdings.length = inventory.size := by
  simp [holdings, size, Keyed.size, Keyed.keys, Nat.add_assoc]

end Inventory

end Reclaim
