import Reclaim.Inventory

/-!
# What an inventory lists

Membership in an inventory, as its insertions and erasures change it and as its
listing shows it: the listing names each resource that is held once and nothing
else, containers before networks before images.
-/

set_option autoImplicit false

namespace Reclaim

namespace Keyed

variable {β : Type}

theorem eq_of_mem_of_mem {map : Keyed β} {key : String} {first second : β}
    (firstMember : (key, first) ∈ map.entries) (secondMember : (key, second) ∈ map.entries) :
    first = second := by
  obtain ⟨entries, ascending⟩ := map
  induction entries with
  | nil => simp at firstMember
  | cons head rest ih =>
    obtain ⟨headLess, restAscending⟩ := List.pairwise_cons.mp ascending
    rcases List.mem_cons.mp firstMember with atHead | inRest
    · subst atHead
      rcases List.mem_cons.mp secondMember with same | later
      · exact (Prod.mk.inj same).2.symm
      · exact absurd (headLess _ later) (String.lt_irrefl key)
    · rcases List.mem_cons.mp secondMember with same | later
      · subst same
        exact absurd (headLess _ inRest) (String.lt_irrefl key)
      · exact ih restAscending inRest later

theorem get?_eq_some_iff {map : Keyed β} {key : String} {value : β} :
    map.get? key = some value ↔ (key, value) ∈ map.entries := by
  constructor
  · intro found
    obtain ⟨entry, foundEntry, rfl⟩ := Option.map_eq_some_iff.mp found
    have sameKey : entry.1 = key := by simpa using List.find?_some foundEntry
    subst sameKey
    exact List.mem_of_find?_eq_some foundEntry
  · intro member
    cases found : map.get? key with
    | none =>
      have absent := List.find?_eq_none.mp (Option.map_eq_none_iff.mp found)
      simpa using absent (key, value) member
    | some other =>
      obtain ⟨entry, foundEntry, rfl⟩ := Option.map_eq_some_iff.mp found
      have sameKey : entry.1 = key := by simpa using List.find?_some foundEntry
      subst sameKey
      exact congrArg some (eq_of_mem_of_mem (List.mem_of_find?_eq_some foundEntry) member)

theorem contains_insert (map : Keyed β) (key other : String) (value : β) :
    (map.insert key value).contains other = (decide (key = other) || map.contains other) := by
  by_cases same : key = other <;> simp [contains, get?_insert, same]

theorem contains_erase (map : Keyed β) (key other : String) :
    (map.erase key).contains other = (!decide (key = other) && map.contains other) := by
  by_cases same : key = other <;> simp [contains, get?_erase, same]

theorem contains_iff_mem_keys {map : Keyed β} {key : String} :
    map.contains key = true ↔ key ∈ map.keys := by
  constructor
  · intro held
    obtain ⟨value, found⟩ := Option.isSome_iff_exists.mp held
    exact List.mem_map_of_mem (get?_eq_some_iff.mp found)
  · intro member
    obtain ⟨entry, listed, rfl⟩ := List.mem_map.mp member
    exact Option.isSome_iff_exists.mpr ⟨entry.2, get?_eq_some_iff.mpr listed⟩

theorem pairwise_ne_keys (map : Keyed β) :
    map.keys.Pairwise fun first second => first ≠ second := by
  refine List.pairwise_map.mpr (map.ascending.imp ?_)
  intro first second less same
  rw [same] at less
  exact String.lt_irrefl _ less

theorem eq_empty_of_contains {map : Keyed β} (nothing : ∀ key, map.contains key = false) :
    map = .empty := by
  apply eq_of_entries_eq
  cases listed : map.entries with
  | nil => rfl
  | cons entry rest =>
    have member : (entry.1, entry.2) ∈ map.entries := by simp [listed]
    have held : map.contains entry.1 = true := by simp [contains, get?_eq_some_iff.mpr member]
    rw [nothing] at held
    cases held

end Keyed

def ResourceKind.rank : ResourceKind → Nat
  | .container => 0
  | .network => 1
  | .image => 2

/-- One holding may be given up before another one: it is a different resource, and not of a later
kind. -/
def Holding.Precedes (first second : Holding) : Prop :=
  first.kind.rank ≤ second.kind.rank ∧ ¬ (first.kind = second.kind ∧ first.id = second.id)

namespace Inventory

theorem contains_insert (inventory : Inventory) (holding : Holding) (kind : ResourceKind)
    (id : String) :
    (inventory.insert holding).contains kind id =
      (decide (holding.kind = kind ∧ holding.id = id) || inventory.contains kind id) := by
  obtain ⟨held, name, label⟩ := holding
  cases held <;> cases kind <;> simp [insert, contains, Keyed.contains_insert]

theorem contains_erase (inventory : Inventory) (kind other : ResourceKind) (id target : String) :
    (inventory.erase kind id).contains other target =
      (!decide (kind = other ∧ id = target) && inventory.contains other target) := by
  cases kind <;> cases other <;> simp [erase, contains, Keyed.contains_erase]

theorem isSome_find? (inventory : Inventory) (kind : ResourceKind) (id : String) :
    (inventory.find? kind id).isSome = inventory.contains kind id := by
  cases kind <;> simp [find?, contains, Keyed.contains]

theorem mem_holdings {inventory : Inventory} {holding : Holding} :
    holding ∈ inventory.holdings ↔
      (∃ entry ∈ inventory.containers.entries, ⟨.container, entry.1, entry.2⟩ = holding) ∨
        (∃ id ∈ inventory.networks.keys, Holding.unlabelled .network id = holding) ∨
          ∃ id ∈ inventory.images.keys, Holding.unlabelled .image id = holding := by
  simp only [holdings, List.mem_append, List.mem_map, or_assoc]

/-- The listing of an inventory names exactly what is held. -/
theorem contains_iff_listed {inventory : Inventory} {kind : ResourceKind} {id : String} :
    inventory.contains kind id = true ↔
      ∃ holding ∈ inventory.holdings, holding.kind = kind ∧ holding.id = id := by
  constructor
  · intro held
    cases kind with
    | container =>
      obtain ⟨label, found⟩ := Option.isSome_iff_exists.mp held
      exact ⟨_, mem_holdings.mpr (.inl ⟨_, Keyed.get?_eq_some_iff.mp found, rfl⟩), rfl, rfl⟩
    | network =>
      exact ⟨_, mem_holdings.mpr (.inr (.inl ⟨id, Keyed.contains_iff_mem_keys.mp held, rfl⟩)),
        rfl, rfl⟩
    | image =>
      exact ⟨_, mem_holdings.mpr (.inr (.inr ⟨id, Keyed.contains_iff_mem_keys.mp held, rfl⟩)),
        rfl, rfl⟩
  · rintro ⟨holding, member, rfl, rfl⟩
    rcases mem_holdings.mp member with ⟨entry, listed, rfl⟩ | ⟨id, listed, rfl⟩ | ⟨id, listed, rfl⟩
    · exact Keyed.contains_iff_mem_keys.mpr (List.mem_map_of_mem listed)
    · exact Keyed.contains_iff_mem_keys.mpr listed
    · exact Keyed.contains_iff_mem_keys.mpr listed

/-- The listing of an inventory names nothing twice, and no kind before an earlier one. -/
theorem holdings_ordered (inventory : Inventory) :
    inventory.holdings.Pairwise Holding.Precedes := by
  have containers : (inventory.containers.entries.map fun entry =>
      (⟨.container, entry.1, entry.2⟩ : Holding)).Pairwise Holding.Precedes := by
    have distinct := List.pairwise_map.mp inventory.containers.pairwise_ne_keys
    refine List.pairwise_map.mpr (distinct.imp ?_)
    intro first second different
    exact ⟨Nat.le_refl _, fun same => different same.2⟩
  have unlabelled : ∀ (kind : ResourceKind) (map : Keyed Unit),
      (map.keys.map (Holding.unlabelled kind)).Pairwise Holding.Precedes := by
    intro kind map
    refine List.pairwise_map.mpr (map.pairwise_ne_keys.imp ?_)
    intro first second different
    exact ⟨Nat.le_refl _, fun same => different same.2⟩
  refine List.pairwise_append.mpr ⟨List.pairwise_append.mpr ⟨containers, unlabelled _ _, ?_⟩,
    unlabelled _ _, ?_⟩
  · intro first firstMember second secondMember
    obtain ⟨entry, -, rfl⟩ := List.mem_map.mp firstMember
    obtain ⟨id, -, rfl⟩ := List.mem_map.mp secondMember
    exact ⟨Nat.zero_le _, fun same => nomatch same.1⟩
  · intro first firstMember second secondMember
    obtain ⟨name, -, rfl⟩ := List.mem_map.mp secondMember
    rcases List.mem_append.mp firstMember with member | member
    · obtain ⟨entry, -, rfl⟩ := List.mem_map.mp member
      exact ⟨Nat.zero_le _, fun same => nomatch same.1⟩
    · obtain ⟨id, -, rfl⟩ := List.mem_map.mp member
      exact ⟨Nat.le_succ 1, fun same => nomatch same.1⟩

theorem eq_empty_of_contains {inventory : Inventory}
    (nothing : ∀ kind id, inventory.contains kind id = false) : inventory = .empty := by
  have containers := Keyed.eq_empty_of_contains (nothing .container)
  have networks := Keyed.eq_empty_of_contains (nothing .network)
  have images := Keyed.eq_empty_of_contains (nothing .image)
  cases inventory
  simp_all [empty]

end Inventory

end Reclaim
