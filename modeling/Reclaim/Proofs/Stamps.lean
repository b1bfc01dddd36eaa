import Reclaim.Proofs.Labels
import Reclaim.Proofs.Remains

/-!
# Containers with the labels asked for

A label becomes a filter by putting an equals sign between its name and its
value, and an engine cuts the filter at the first equals sign that it finds.
Where the name has none that gives the label back (`reread_eq_self`); where it
has one the engine looks for another label.
-/

set_option autoImplicit false

namespace Reclaim

open Engine (ListedContainer SweepKind)
open Engine.Simulated (World Container splitFilter)
open Procedure

/-! ## Maps made from lists -/

namespace Keyed

variable {β : Type}

theorem get?_foldl_insert_of_notMem {entries : List (String × β)} {key : String}
    (absent : key ∉ entries.map Prod.fst) (map : Keyed β) :
    (entries.foldl (fun map entry => map.insert entry.1 entry.2) map).get? key = map.get? key := by
  induction entries generalizing map with
  | nil => rfl
  | cons entry rest ih =>
    rw [List.map_cons, List.mem_cons, not_or] at absent
    rw [List.foldl_cons, ih absent.2, get?_insert, if_neg (Ne.symm absent.1)]

theorem get?_ofList {entries : List (String × β)} (distinct : (entries.map Prod.fst).Nodup)
    {entry : String × β} (member : entry ∈ entries) :
    (ofList entries).get? entry.1 = some entry.2 := by
  unfold ofList
  generalize empty = map
  induction entries generalizing map with
  | nil => cases member
  | cons first rest ih =>
    obtain ⟨absent, others⟩ := List.nodup_cons.mp distinct
    rw [List.foldl_cons]
    rcases List.mem_cons.mp member with rfl | inRest
    · rw [get?_foldl_insert_of_notMem absent, get?_insert, if_pos rfl]
    · exact ih others inRest _

end Keyed

/-! ## Reading a filter back -/

theorem splitFilter_of_notMem {key : List Char} (uncut : '=' ∉ key) (value : List Char) :
    splitFilter (key ++ '=' :: value) = (key, value) := by
  induction key with
  | nil => rfl
  | cons letter rest ih =>
    rw [List.mem_cons, not_or] at uncut
    rw [List.cons_append, splitFilter, ih uncut.2]
    exact Ne.symm uncut.1

theorem notMem_splitFilter (letters : List Char) : '=' ∉ (splitFilter letters).1 := by
  induction letters with
  | nil => exact List.not_mem_nil
  | cons letter rest ih =>
    by_cases mark : letter = '='
    · subst mark
      exact List.not_mem_nil
    · rw [splitFilter]
      · exact List.not_mem_cons_of_ne_of_not_mem (Ne.symm mark) ih
      · exact mark

/-- The label that an engine reads in the filter for a label. -/
def reread (label : String × String) : String × String :=
  let parts := splitFilter (Clause.labelText label.1 label.2).toList
  (String.ofList parts.1, String.ofList parts.2)

theorem reread_eq_self {label : String × String} (uncut : '=' ∉ label.1.toList) :
    reread label = label := by
  rw [reread, toList_labelText, splitFilter_of_notMem uncut]
  simp

theorem notMem_reread (label : String × String) : '=' ∉ (reread label).1.toList := by
  have uncut := notMem_splitFilter (Clause.labelText label.1 label.2).toList
  simpa [reread] using uncut

/-! ## Stamped containers -/

def Stamped (labels : List (String × String)) (container : Container) : Prop :=
  ∀ label ∈ labels, container.labels.get? label.1 = some label.2

instance (labels : List (String × String)) (container : Container) :
    Decidable (Stamped labels container) :=
  inferInstanceAs (Decidable (∀ label ∈ labels, container.labels.get? label.1 = some label.2))

/-- The containers that an engine takes for carriers are those with the labels that it reads. -/
theorem carriesAll_iff {labels : List (String × String)} {container : Container} :
    container.carriesAll (labels.map fun label => Clause.labelText label.1 label.2) = true ↔
      Stamped (labels.map reread) container := by
  unfold Stamped Container.carriesAll
  rw [List.forall_mem_map, List.all_map, List.all_eq_true]
  simp only [Function.comp_apply, Container.carries, beq_iff_eq, reread]

theorem map_reread {labels : List (String × String)}
    (uncut : ∀ label ∈ labels, '=' ∉ label.1.toList) : labels.map reread = labels := by
  have same : labels.map reread = labels.map id :=
    List.map_congr_left fun label member => reread_eq_self (uncut label member)
  rw [same, List.map_id]

/-- If an engine takes just the stamped containers for carriers, no label name has an equals sign
in it. -/
theorem uncut_of_carriers {labels : List (String × String)}
    (distinct : (labels.map Prod.fst).Nodup)
    (faithful : ∀ container, Stamped (labels.map reread) container ↔ Stamped labels container) :
    ∀ label ∈ labels, '=' ∉ label.1.toList := by
  intro label member marked
  -- All labels but this one are enough to pass for a carrier.
  have stamped : Stamped labels ⟨"", false, Keyed.ofList labels⟩ :=
    fun other given => Keyed.get?_ofList distinct given
  have others : Stamped (labels.map reread)
      ⟨"", false, (Keyed.ofList labels).erase label.1⟩ := by
    intro other given
    obtain ⟨original, -, rfl⟩ := List.mem_map.mp given
    have different : label.1 ≠ (reread original).1 := by
      intro same
      rw [same] at marked
      exact notMem_reread original marked
    rw [Keyed.get?_erase, if_neg different]
    exact (faithful _).mpr stamped _ given
  have kept := (faithful _).mp others label member
  rw [Keyed.get?_erase, if_pos rfl] at kept
  cases kept

/-! ## Listings and sweeps -/

/-- A listing for some filters succeeds and names exactly the containers that are wanted, each of
them once. -/
def Lists (world : World) (filters : List String) (wanted : Container → Prop) : Prop :=
  ∃ listed : List ListedContainer,
    (Engine.Simulated.engine (.listContainers filters) world).answer = .ok listed ∧
      (listed.map ListedContainer.id).Nodup ∧
      ∀ entry, entry ∈ listed ↔
        ∃ container, world.containers.get? entry.id = some container ∧
          entry.image = container.image ∧ wanted container

/-- A sweep removes exactly the containers that are wanted, and leaves the others as they are. -/
def Removes (scene : Scene World) (selector : Selector) (wanted : Container → Prop) : Prop :=
  ∀ id container,
    (scene.carryOut Engine.Simulated.engine (Sweep.selector selector)).2.world.containers.get? id =
        some container ↔
      scene.world.containers.get? id = some container ∧ ¬ wanted container

theorem nodup_carriers (world : World) (filters : List String) :
    ((world.carriers filters).map ListedContainer.id).Nodup := by
  have ids : (world.carriers filters).map ListedContainer.id =
      (world.containers.entries.filter fun entry => entry.2.carriesAll filters).map Prod.fst := by
    rw [World.carriers, List.map_map]
    rfl
  rw [ids]
  exact List.Pairwise.sublist (List.filter_sublist.map Prod.fst) world.containers.pairwise_ne_keys

theorem mem_carriers {world : World} {filters : List String} {entry : ListedContainer} :
    entry ∈ world.carriers filters ↔
      ∃ container, world.containers.get? entry.id = some container ∧
        entry.image = container.image ∧ container.carriesAll filters = true := by
  rw [World.carriers, List.mem_map]
  constructor
  · rintro ⟨⟨id, container⟩, member, rfl⟩
    obtain ⟨present, carries⟩ := List.mem_filter.mp member
    exact ⟨container, Keyed.get?_eq_some_iff.mpr present, rfl, carries⟩
  · rintro ⟨container, found, image, carries⟩
    have present := Keyed.get?_eq_some_iff.mp found
    refine ⟨(entry.id, container), List.mem_filter.mpr ⟨present, carries⟩, ?_⟩
    rw [← image]

theorem lists_carriers {world : World} (unfailing : world.failures = []) (filters : List String) :
    Lists world filters fun container => container.carriesAll filters = true := by
  refine ⟨world.carriers filters, ?_, nodup_carriers world filters, fun entry => mem_carriers⟩
  have spared : world.failure? .listContainers = none := by
    rw [World.failure?, unfailing]
    rfl
  change (world.answer (.listContainers filters)).1 = _
  unfold World.failure? at spared
  simp only [World.answer, World.failure?, Engine.Call.kindOf, spared]
  rfl

theorem sweep_leads (selector : Selector) {world : World} (calm : world.Calm) :
    (Sweep.selector selector).Leads world fun _ =>
      Left (.all (SweepKind.all.map fun kind => .unswept kind selector)) world :=
  each_leads (fun kind _ => kind_leads kind selector) SweepKind.all calm

theorem removes_carriers {scene : Scene World} (calm : scene.world.Calm) {selector : Selector}
    (labelled : selector.labelFilters ≠ []) :
    Removes scene selector fun container =>
      container.carriesAll selector.labelFilters = true := by
  intro id container
  have left := (sweep_leads selector calm).holds calm
  rw [left.containers, Option.filter_eq_some_iff, Sieve.container_all, List.all_map]
  simp [SweepKind.all, Sieve.unswept, labelled]

theorem Lists.congr {world : World} {filters : List String} {wanted other : Container → Prop}
    (lists : Lists world filters wanted) (same : ∀ container, wanted container ↔ other container) :
    Lists world filters other := by
  obtain ⟨listed, answer, once, members⟩ := lists
  refine ⟨listed, answer, once, fun entry => ?_⟩
  simp only [members entry, same]

/-- What is listed in a simulation of a single container tells what is wanted of it. -/
theorem carriesAll_iff_of_lists {filters : List String} {wanted : Container → Prop}
    (lists : ∀ world : World, world.failures = [] → Lists world filters wanted)
    (container : Container) : container.carriesAll filters = true ↔ wanted container := by
  let world : World := { World.empty with containers := Keyed.empty.insert "" container }
  have unfailing : world.failures = [] := rfl
  obtain ⟨listed, answer, -, members⟩ := lists world unfailing
  obtain ⟨same, sameAnswer, -, carriers⟩ := lists_carriers unfailing filters
  rw [answer] at sameAnswer
  cases sameAnswer
  have alone : world.containers.get? "" = some container := rfl
  have inListing := (members ⟨"", container.image⟩).symm.trans (carriers ⟨"", container.image⟩)
  simp only [alone, Option.some_inj, exists_eq_left', true_and] at inListing
  exact inListing.symm

/-- A listing for labels names, once each, the containers that carry the labels which the engine
reads in the filters for them, and a sweep removes these.  They are the labels that were asked for
if and only if no label name has an equals sign in it; only then are those containers listed, in
every simulation that fails no calls, that carry all the labels asked for. -/
theorem stamped_listed_iff {labels : List (String × String)} {selector : Selector}
    (made : Selector.ofLabels labels = .ok selector) (distinct : (labels.map Prod.fst).Nodup) :
    (∀ world : World, world.failures = [] →
      Lists world selector.labelFilters (Stamped (labels.map reread))) ∧
    (labels ≠ [] → ∀ scene : Scene World, scene.world.Calm →
      Removes scene selector (Stamped (labels.map reread))) ∧
    (labels.map reread = labels ↔ ∀ label ∈ labels, '=' ∉ label.1.toList) ∧
    ((∀ world : World, world.failures = [] →
        Lists world selector.labelFilters (Stamped labels)) ↔
      ∀ label ∈ labels, '=' ∉ label.1.toList) := by
  have filters := Selector.labelFilters_ofLabels made
  have listed : ∀ world : World, world.failures = [] →
      Lists world selector.labelFilters (Stamped (labels.map reread)) := by
    intro world unfailing
    refine (lists_carriers unfailing selector.labelFilters).congr fun container => ?_
    rw [filters, carriesAll_iff]
  refine ⟨listed, ?_, ⟨?_, map_reread⟩, ?_, ?_⟩
  · intro given scene calm id container
    have labelled : selector.labelFilters ≠ [] := by
      rw [filters]
      simpa using given
    rw [removes_carriers calm labelled id container, filters]
    exact and_congr_right fun _ => not_congr carriesAll_iff
  · intro same label member
    rw [← same] at member
    obtain ⟨original, -, rfl⟩ := List.mem_map.mp member
    exact notMem_reread original
  · intro faithful
    refine uncut_of_carriers distinct fun container => ?_
    rw [← carriesAll_iff, ← filters]
    exact carriesAll_iff_of_lists faithful container
  · intro uncut world unfailing
    have asked := listed world unfailing
    rwa [map_reread uncut] at asked

/-- Labels whose values have equals signs in them or are empty are found. -/
theorem stamped_listed_iff_values :
    Selector.ofLabels [("job", "a=b"), ("team", "")] =
        .ok ⟨[Clause.named "job" "a=b", Clause.named "team" ""]⟩ ∧
      ([("job", "a=b"), ("team", "")].map Prod.fst).Nodup ∧
      ∀ world : World, world.failures = [] →
        Lists world ["job=a=b", "team="] (Stamped [("job", "a=b"), ("team", "")]) := by
  have made : Selector.ofLabels [("job", "a=b"), ("team", "")] =
      .ok ⟨[Clause.named "job" "a=b", Clause.named "team" ""]⟩ := rfl
  have distinct : ([("job", "a=b"), ("team", "")].map Prod.fst).Nodup := by decide
  obtain ⟨-, -, -, faithful⟩ := stamped_listed_iff made distinct
  exact ⟨made, distinct, faithful.mpr (by decide)⟩

/-! ### A label name with an equals sign -/

namespace Engine.Simulated.World

def stamped : Container := ⟨"redis:7", true, Keyed.empty.insert "a=b" "c"⟩

def foreign : Container := ⟨"redis:7", true, Keyed.empty.insert "a" "b=c"⟩

/-- A simulation of a container with a label whose name has an equals sign in it, and of one with
another label and the same filter. -/
def ambiguous : World :=
  { World.empty with
    containers := (Keyed.empty.insert "stamped" stamped).insert "foreign" foreign }

end Engine.Simulated.World

/-- A container without the label asked for is listed, and the one that has it is not. -/
theorem foreign_listed :
    Selector.ofLabels [("a=b", "c")] = .ok ⟨[Clause.named "a=b" "c"]⟩ ∧
      ([("a=b", "c")].map Prod.fst).Nodup ∧ World.ambiguous.failures = [] ∧
      World.ambiguous.containers.get? "stamped" = some World.stamped ∧
      Stamped [("a=b", "c")] World.stamped ∧
      World.ambiguous.containers.get? "foreign" = some World.foreign ∧
      ¬ Stamped [("a=b", "c")] World.foreign ∧
      (Engine.Simulated.engine
        (.listContainers (Selector.mk [Clause.named "a=b" "c"]).labelFilters)
          World.ambiguous).answer = .ok [⟨"foreign", "redis:7"⟩] := by
  have listing : World.ambiguous.carriers (Selector.mk [Clause.named "a=b" "c"]).labelFilters =
      [⟨"foreign", "redis:7"⟩] := by
    decide +kernel
  exact ⟨rfl, by decide, rfl, by decide +kernel, by decide +kernel, by decide +kernel,
    by decide +kernel, congrArg Except.ok listing⟩

end Reclaim
