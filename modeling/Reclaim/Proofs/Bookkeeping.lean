import Mathlib.Data.List.Induction
import Reclaim.Proofs.Holdings

/-!
# The books of an inventory

An inventory against the history of what was put in and taken out.  Of the
operations on one resource only the last one counts: `Stands` says of a holding
that its insertion is that operation.  From what one more operation changes
(`find?_apply`) it follows by induction over the history that the inventory
holds what stands and nothing else (`find?_eq_some_iff`), and that the kinds
keep out of each other's way (`find?_of_kind`).
-/

set_option autoImplicit false

namespace Reclaim

/-- A holding as it is listed: only a container has a label that is not its id. -/
def Holding.listed (holding : Holding) : Holding :=
  match holding.kind with
  | .container => holding
  | .network | .image => .unlabelled holding.kind holding.id

namespace Holding

@[simp] theorem kind_listed (holding : Holding) : holding.listed.kind = holding.kind := by
  obtain ⟨kind, id, label⟩ := holding
  cases kind <;> rfl

@[simp] theorem id_listed (holding : Holding) : holding.listed.id = holding.id := by
  obtain ⟨kind, id, label⟩ := holding
  cases kind <;> rfl

end Holding

namespace Inventory

inductive Operation where
  | insert (holding : Holding)
  | remove (kind : ResourceKind) (id : String)

namespace Operation

def kind : Operation → ResourceKind
  | .insert holding => holding.kind
  | .remove kind _ => kind

def id : Operation → String
  | .insert holding => holding.id
  | .remove _ id => id

def apply (inventory : Inventory) : Operation → Inventory
  | .insert holding => inventory.insert holding
  | .remove kind id => (inventory.remove kind id).2

def Concerns (operation : Operation) (kind : ResourceKind) (id : String) : Prop :=
  operation.kind = kind ∧ operation.id = id

instance (operation : Operation) (kind : ResourceKind) (id : String) :
    Decidable (operation.Concerns kind id) :=
  inferInstanceAs (Decidable (operation.kind = kind ∧ operation.id = id))

/-- What an operation leaves of the resource that it is about. -/
def result : Operation → Option Holding
  | .insert holding => some holding.listed
  | .remove _ _ => none

end Operation

def ofHistory (history : List Operation) : Inventory := history.foldl Operation.apply .empty

/-- A holding was inserted, and nothing was done about the same resource since. -/
def Stands (history : List Operation) (holding : Holding) : Prop :=
  ∃ before after, history = before ++ .insert holding :: after ∧
    ∀ operation ∈ after, ¬ operation.Concerns holding.kind holding.id

/-! ## One more operation -/

theorem find?_apply (inventory : Inventory) (operation : Operation) (kind : ResourceKind)
    (id : String) :
    (operation.apply inventory).find? kind id =
      if operation.Concerns kind id then operation.result else inventory.find? kind id := by
  cases operation with
  | remove target name =>
    rw [Operation.apply, remove_eq]
    exact inventory.find?_erase target kind name id
  | insert holding =>
    rw [Operation.apply, find?_insert]
    by_cases same : holding.kind = kind ∧ holding.id = id
    · obtain ⟨rfl, rfl⟩ := same
      have concerns : (Operation.insert holding).Concerns holding.kind holding.id := ⟨rfl, rfl⟩
      rw [if_pos ⟨rfl, rfl⟩, if_pos concerns, Operation.result, Holding.listed]
      cases holding.kind <;> rfl
    · have other : ¬ (Operation.insert holding).Concerns kind id := same
      rw [if_neg same, if_neg other]

@[simp] theorem ofHistory_concat (history : List Operation) (operation : Operation) :
    ofHistory (history ++ [operation]) = operation.apply (ofHistory history) := by
  simp [ofHistory]

theorem not_stands_nil (holding : Holding) : ¬ Stands [] holding := by
  rintro ⟨before, after, split, -⟩
  simp at split

theorem stands_concat_iff {history : List Operation} {operation : Operation}
    {holding : Holding} :
    Stands (history ++ [operation]) holding ↔
      operation = .insert holding ∨
        ¬ operation.Concerns holding.kind holding.id ∧ Stands history holding := by
  constructor
  · rintro ⟨before, after, split, untouched⟩
    -- The last operation is the insertion, or it comes after the insertion.
    cases after using List.reverseRecOn with
    | nil =>
      have ends := List.append_inj_right' split rfl
      exact .inl (List.head_eq_of_cons_eq ends)
    | append_singleton after last =>
      rw [← List.cons_append, ← List.append_assoc] at split
      obtain ⟨rfl, ends⟩ := List.append_inj' split rfl
      obtain rfl := List.head_eq_of_cons_eq ends
      refine .inr ⟨untouched operation (by simp), before, after, rfl, ?_⟩
      intro other member
      exact untouched other (List.mem_append_left _ member)
  · rintro (rfl | ⟨other, before, after, rfl, untouched⟩)
    · exact ⟨history, [], rfl, nofun⟩
    · refine ⟨before, after ++ [operation], by simp, ?_⟩
      intro later member
      rcases List.mem_append.mp member with early | last
      · exact untouched later early
      · rwa [List.mem_singleton.mp last]

/-! ## Whole histories -/

theorem find?_eq_some_iff {history : List Operation} {kind : ResourceKind} {id : String}
    {listed : Holding} :
    (ofHistory history).find? kind id = some listed ↔
      ∃ holding, Stands history holding ∧ holding.kind = kind ∧ holding.id = id ∧
        holding.listed = listed := by
  induction history using List.reverseRecOn with
  | nil =>
    constructor
    · cases kind <;> exact nofun
    · rintro ⟨holding, stands, -⟩
      exact absurd stands (not_stands_nil holding)
  | append_singleton history operation ih =>
    rw [ofHistory_concat, find?_apply]
    by_cases concerns : operation.Concerns kind id
    · rw [if_pos concerns]
      constructor
      · intro left
        cases operation with
        | remove target name => cases left
        | insert holding =>
          exact ⟨holding, stands_concat_iff.mpr (.inl rfl), concerns.1, concerns.2,
            Option.some.inj left⟩
      · rintro ⟨holding, stands, rfl, rfl, rfl⟩
        rcases stands_concat_iff.mp stands with rfl | ⟨other, -⟩
        · rfl
        · exact absurd concerns other
    · rw [if_neg concerns, ih]
      constructor
      · rintro ⟨holding, stands, rfl, rfl, rfl⟩
        exact ⟨holding, stands_concat_iff.mpr (.inr ⟨concerns, stands⟩), rfl, rfl, rfl⟩
      · rintro ⟨holding, stands, rfl, rfl, rfl⟩
        rcases stands_concat_iff.mp stands with rfl | ⟨-, before⟩
        · exact absurd ⟨rfl, rfl⟩ concerns
        · exact ⟨holding, before, rfl, rfl, rfl⟩

/-- What is held of one kind depends on the operations on that kind alone. -/
theorem find?_of_kind (history : List Operation) (kind : ResourceKind) (id : String) :
    (ofHistory (history.filter fun operation => operation.kind = kind)).find? kind id =
      (ofHistory history).find? kind id := by
  induction history using List.reverseRecOn with
  | nil => rfl
  | append_singleton history operation ih =>
    rw [List.filter_append, ofHistory_concat, find?_apply]
    by_cases same : operation.kind = kind
    · rw [List.filter_cons_of_pos (by simpa using same), List.filter_nil, ofHistory_concat,
        find?_apply, ih]
    · have other : ¬ operation.Concerns kind id := fun concerns => same concerns.1
      rw [List.filter_cons_of_neg (by simpa using same), List.filter_nil, List.append_nil, ih,
        if_neg other]

/-! ## The listing -/

theorem mem_holdings_iff {inventory : Inventory} {holding : Holding} :
    holding ∈ inventory.holdings ↔
      inventory.find? holding.kind holding.id = some holding := by
  rw [mem_holdings]
  constructor
  · rintro (⟨entry, member, rfl⟩ | ⟨id, member, rfl⟩ | ⟨id, member, rfl⟩)
    · simp [find?, Keyed.get?_eq_some_iff.mpr member]
    · obtain ⟨_, found⟩ := Option.isSome_iff_exists.mp (Keyed.contains_iff_mem_keys.mpr member)
      simp [find?, Holding.unlabelled, found]
    · obtain ⟨_, found⟩ := Option.isSome_iff_exists.mp (Keyed.contains_iff_mem_keys.mpr member)
      simp [find?, Holding.unlabelled, found]
  · obtain ⟨kind, id, label⟩ := holding
    intro found
    cases kind with
    | container =>
      obtain ⟨_, got, same⟩ := Option.map_eq_some_iff.mp found
      cases same
      exact .inl ⟨(id, label), Keyed.get?_eq_some_iff.mp got, rfl⟩
    | network =>
      obtain ⟨_, got, same⟩ := Option.map_eq_some_iff.mp found
      have member := Keyed.contains_iff_mem_keys.mp (Option.isSome_of_eq_some got)
      exact .inr (.inl ⟨id, member, same⟩)
    | image =>
      obtain ⟨_, got, same⟩ := Option.map_eq_some_iff.mp found
      have member := Keyed.contains_iff_mem_keys.mp (Option.isSome_of_eq_some got)
      exact .inr (.inr ⟨id, member, same⟩)

theorem label?_eq_some_iff {inventory : Inventory} {id label : String} :
    inventory.label? id = some label ↔
      inventory.find? .container id = some ⟨.container, id, label⟩ := by
  simp [label?, find?]

theorem isEmpty_iff {inventory : Inventory} :
    inventory.isEmpty = true ↔ inventory.holdings = [] := by
  rw [isEmpty, beq_iff_eq, ← length_holdings, List.length_eq_zero_iff]

/-- After any operations an inventory holds what was inserted and not touched since, a container
with the label that it was inserted with last.  Taking a resource out tells whether it was held,
and operations on other kinds make no difference to a kind.  The listing names all that is held
and nothing else, each resource once, containers before networks before images. -/
theorem books_kept (history : List Operation) :
    let inventory := ofHistory history
    (∀ kind id, inventory.contains kind id = true ↔
      ∃ holding, Stands history holding ∧ holding.kind = kind ∧ holding.id = id) ∧
    (∀ id label, inventory.label? id = some label ↔ Stands history ⟨.container, id, label⟩) ∧
    (∀ kind id, (inventory.remove kind id).1 = inventory.contains kind id) ∧
    (∀ kind id, inventory.find? kind id =
      (ofHistory (history.filter fun operation => operation.kind = kind)).find? kind id) ∧
    (∀ holding, holding ∈ inventory.holdings ↔
      ∃ standing, Stands history standing ∧ standing.listed = holding) ∧
    inventory.holdings.Pairwise Holding.Precedes ∧
    inventory.size = inventory.holdings.length ∧
    (inventory.isEmpty = true ↔ inventory.holdings = []) ∧
    ∀ kind id, inventory.contains kind id = true ↔
      ∃ holding ∈ inventory.holdings, holding.kind = kind ∧ holding.id = id := by
  intro inventory
  refine ⟨?_, ?_, ?_, ?_, ?_, inventory.holdings_ordered, inventory.length_holdings.symm,
    isEmpty_iff, fun kind id => contains_iff_listed⟩
  · intro kind id
    rw [← isSome_find?, Option.isSome_iff_exists]
    constructor
    · rintro ⟨listed, found⟩
      obtain ⟨holding, stands, ofKind, named, -⟩ := find?_eq_some_iff.mp found
      exact ⟨holding, stands, ofKind, named⟩
    · rintro ⟨holding, stands, ofKind, named⟩
      exact ⟨holding.listed, find?_eq_some_iff.mpr ⟨holding, stands, ofKind, named, rfl⟩⟩
  · intro id label
    rw [label?_eq_some_iff, find?_eq_some_iff]
    constructor
    · rintro ⟨⟨kind, name, given⟩, stands, rfl, rfl, same⟩
      obtain rfl : given = label := congrArg Holding.label same
      exact stands
    · intro stands
      exact ⟨_, stands, rfl, rfl, rfl⟩
  · intro kind id
    rw [remove_eq]
  · intro kind id
    exact (find?_of_kind history kind id).symm
  · intro holding
    rw [mem_holdings_iff, find?_eq_some_iff]
    constructor
    · rintro ⟨standing, stands, -, -, same⟩
      exact ⟨standing, stands, same⟩
    · rintro ⟨standing, stands, rfl⟩
      exact ⟨standing, stands, standing.kind_listed.symm, standing.id_listed.symm, rfl⟩

end Inventory

end Reclaim
