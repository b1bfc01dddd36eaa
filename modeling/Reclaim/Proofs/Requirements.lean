import Reclaim.CommandLine.Run
import Reclaim.Proofs.Clauses
import Reclaim.Proofs.LabelArguments

/-!
# Labels required on a command line

The labels that a sweep is asked for go through a map, and each entry of the map
is joined to a filter.  The map keeps one value for each name, the last one that
is given (`entries_ofList_perm`).  So every label given is required if no name is
given with two values, and otherwise some are not (`labels_required_iff`).
-/

set_option autoImplicit false

namespace Reclaim

open Engine.Simulated (World Container)

/-! ## Entries that last -/

namespace Keyed

variable {β : Type}

/-- The entries whose keys no later entry has. -/
def lasting : List (String × β) → List (String × β)
  | [] => []
  | entry :: later =>
    if entry.1 ∈ later.map Prod.fst then lasting later else entry :: lasting later

/-- Entries with the same key are the same. -/
def Concordant (entries : List (String × β)) : Prop :=
  ∀ first ∈ entries, ∀ second ∈ entries, first.1 = second.1 → first = second

instance [DecidableEq β] (entries : List (String × β)) : Decidable (Concordant entries) :=
  inferInstanceAs
    (Decidable (∀ first ∈ entries, ∀ second ∈ entries, first.1 = second.1 → first = second))

theorem lasting_sublist (entries : List (String × β)) : (lasting entries).Sublist entries := by
  induction entries with
  | nil => exact .slnil
  | cons entry later ih =>
    rw [lasting]
    split
    · exact ih.cons entry
    · exact ih.cons_cons entry

theorem nodup_keys_lasting (entries : List (String × β)) :
    ((lasting entries).map Prod.fst).Nodup := by
  induction entries with
  | nil => exact .nil
  | cons entry later ih =>
    rw [lasting]
    split
    · exact ih
    next unrepeated =>
      rw [List.map_cons, List.nodup_cons]
      refine ⟨fun member => unrepeated ?_, ih⟩
      exact (lasting_sublist later).map Prod.fst |>.subset member

theorem mem_keys_lasting {entries : List (String × β)} {key : String} :
    key ∈ (lasting entries).map Prod.fst ↔ key ∈ entries.map Prod.fst := by
  induction entries with
  | nil => rfl
  | cons entry later ih =>
    rw [lasting, List.map_cons, List.mem_cons]
    split
    next repeated =>
      rw [ih]
      constructor
      · exact Or.inr
      · rintro (rfl | member)
        · exact repeated
        · exact member
    next => rw [List.map_cons, List.mem_cons, ih]

theorem get?_foldl_insert_eq_some_iff {entries : List (String × β)} {entry : String × β}
    (map : Keyed β) :
    (entries.foldl (fun map entry => map.insert entry.1 entry.2) map).get? entry.1 =
        some entry.2 ↔
      entry ∈ lasting entries ∨
        (entry.1 ∉ entries.map Prod.fst ∧ map.get? entry.1 = some entry.2) := by
  -- Of what the map held before, only the keys that are not given again are left.
  induction entries generalizing map with
  | nil => simp [lasting]
  | cons first later ih =>
    rw [List.foldl_cons, ih, get?_insert, lasting, List.map_cons, List.mem_cons, not_or]
    by_cases same : first.1 = entry.1
    · rw [if_pos same, same]
      split
      next repeated => simp [repeated]
      next unrepeated =>
        have alike : entry = first ↔ first.2 = entry.2 := by
          rw [Prod.ext_iff, same, and_iff_right rfl]
          exact eq_comm
        simp [unrepeated, alike, or_comm]
    · have other : entry ≠ first := fun equal => same (congrArg Prod.fst equal).symm
      rw [if_neg same]
      split
      · simp [Ne.symm same]
      · simp [Ne.symm same, other]

/-- A map made from a list has the entries that last in it. -/
theorem get?_ofList_eq_some_iff {entries : List (String × β)} {entry : String × β} :
    (ofList entries).get? entry.1 = some entry.2 ↔ entry ∈ lasting entries := by
  rw [ofList, get?_foldl_insert_eq_some_iff]
  simp

theorem nodup_of_nodup_keys {entries : List (String × β)}
    (distinct : (entries.map Prod.fst).Nodup) : entries.Nodup :=
  List.Pairwise.of_map Prod.fst (fun _ _ different same => different (congrArg _ same)) distinct

theorem entries_ofList_perm (entries : List (String × β)) :
    (ofList entries).entries.Perm (lasting entries) := by
  have distinct := nodup_of_nodup_keys (ofList entries).pairwise_ne_keys
  rw [List.perm_ext_iff_of_nodup distinct (nodup_of_nodup_keys (nodup_keys_lasting entries))]
  intro entry
  rw [← get?_ofList_eq_some_iff, get?_eq_some_iff]

theorem entries_ofList_eq_nil_iff {entries : List (String × β)} :
    (ofList entries).entries = [] ↔ entries = [] := by
  constructor
  · intro nothing
    have lost := entries_ofList_perm entries
    rw [nothing] at lost
    cases entries with
    | nil => rfl
    | cons entry later =>
      have key : entry.1 ∈ (lasting (entry :: later)).map Prod.fst := by simp [mem_keys_lasting]
      rw [← lost.nil_eq] at key
      cases key
  · rintro rfl
    rfl

theorem concordant_of_get? {entries : List (String × β)} {map : Keyed β}
    (found : ∀ entry ∈ entries, map.get? entry.1 = some entry.2) : Concordant entries := by
  intro first given second also same
  have value := found first given
  rw [same, found second also, Option.some_inj] at value
  exact Prod.ext same value.symm

/-- All entries last just when none of them has to give way to another value. -/
theorem all_last_iff {entries : List (String × β)} :
    (∀ entry ∈ entries, entry ∈ lasting entries) ↔ Concordant entries := by
  constructor
  · intro last
    exact concordant_of_get? fun entry given => get?_ofList_eq_some_iff.mpr (last entry given)
  · intro concordant entry given
    have key : entry.1 ∈ (lasting entries).map Prod.fst :=
      mem_keys_lasting.mpr (List.mem_map_of_mem given)
    obtain ⟨other, last, same⟩ := List.mem_map.mp key
    rw [concordant entry given other ((lasting_sublist entries).subset last) same.symm]
    exact last

end Keyed

namespace Engine.Simulated.World

def alone (container : Container) : World :=
  { World.empty with containers := Keyed.empty.insert "" container }

theorem calm_alone (container : Container) : (alone container).Calm := ⟨rfl, nofun⟩

theorem get?_alone (container : Container) :
    (alone container).containers.get? "" = some container :=
  (Keyed.get?_insert _ "" "" container).trans (if_pos rfl)

end Engine.Simulated.World

namespace CommandLine

/-! ## What is required -/

theorem labelText_inj {first second : Label} (unmarked : '=' ∉ first.1.toList)
    (also : '=' ∉ second.1.toList)
    (same : Clause.labelText first.1 first.2 = Clause.labelText second.1 second.2) :
    first = second := by
  rw [← reread_eq_self unmarked, ← reread_eq_self also, reread, reread, same]

def requiring (labels : List Label) : Selector :=
  ⟨(Keyed.ofList labels).entries.map fun label => Clause.named label.1 label.2⟩

variable {labels : List Label}

theorem mem_of_mem_entries {label : Label} (member : label ∈ (Keyed.ofList labels).entries) :
    label ∈ labels :=
  (Keyed.lasting_sublist labels).subset ((Keyed.entries_ofList_perm labels).mem_iff.mp member)

theorem ofLabels_requiring (named : ∀ label ∈ labels, label.1 ≠ "") :
    Selector.ofLabels (Keyed.ofList labels).entries = .ok (requiring labels) :=
  Selector.ofLabels_of_named fun label member => named label (mem_of_mem_entries member)

theorem labelFilters_requiring (named : ∀ label ∈ labels, label.1 ≠ "") :
    (requiring labels).labelFilters =
      (Keyed.ofList labels).entries.map fun label => Clause.labelText label.1 label.2 :=
  Selector.labelFilters_ofLabels (ofLabels_requiring named)

theorem labelFilters_requiring_perm (named : ∀ label ∈ labels, label.1 ≠ "") :
    (requiring labels).labelFilters.Perm
      ((Keyed.lasting labels).map fun label => Clause.labelText label.1 label.2) := by
  rw [labelFilters_requiring named]
  exact (Keyed.entries_ofList_perm labels).map _

theorem mem_labelFilters_requiring_iff
    (proper : ∀ label ∈ labels, label.1 ≠ "" ∧ '=' ∉ label.1.toList) {label : Label}
    (given : label ∈ labels) :
    Clause.labelText label.1 label.2 ∈ (requiring labels).labelFilters ↔
      label ∈ Keyed.lasting labels := by
  rw [(labelFilters_requiring_perm fun label member => (proper label member).1).mem_iff,
    List.mem_map]
  constructor
  · rintro ⟨other, last, same⟩
    have otherGiven := (Keyed.lasting_sublist labels).subset last
    rw [← labelText_inj (proper other otherGiven).2 (proper label given).2 same]
    exact last
  · intro last
    exact ⟨label, last, rfl⟩

theorem carriesAll_requiring_iff
    (proper : ∀ label ∈ labels, label.1 ≠ "" ∧ '=' ∉ label.1.toList) {container : Container} :
    container.carriesAll (requiring labels).labelFilters = true ↔
      Stamped (Keyed.lasting labels) container := by
  have uncut : ∀ label ∈ (Keyed.ofList labels).entries, '=' ∉ label.1.toList := by
    intro label member
    exact (proper label (mem_of_mem_entries member)).2
  rw [labelFilters_requiring fun label member => (proper label member).1, carriesAll_iff,
    map_reread uncut, Stamped, Stamped]
  simp only [(Keyed.entries_ofList_perm labels).mem_iff]

theorem labelFilters_requiring_ne_nil_iff (named : ∀ label ∈ labels, label.1 ≠ "") :
    (requiring labels).labelFilters ≠ [] ↔ labels ≠ [] := by
  rw [labelFilters_requiring named, ne_eq, List.map_eq_nil_iff, Keyed.entries_ofList_eq_nil_iff]

theorem stamped_ofList (image : String) (running : Bool) :
    Stamped (Keyed.lasting labels) ⟨image, running, Keyed.ofList labels⟩ :=
  fun _ last => Keyed.get?_ofList_eq_some_iff.mpr last

variable {ω : Type}

def beginning (labels : List Label) (scene : Scene ω) : Scene ω :=
  scene.report [.pruneRequested (requiring labels).labelFilters]

theorem sweepLabels_eq (named : ∀ label ∈ labels, label.1 ≠ "") (engine : Engine ω)
    (scene : Scene ω) :
    sweepLabels engine labels scene =
      (.ok "",
        ((beginning labels scene).carryOut engine (Sweep.selector (requiring labels))).2) := by
  rw [sweepLabels, ofLabels_requiring named]
  rfl

theorem gone_sweepLabels_iff
    (proper : ∀ label ∈ labels, label.1 ≠ "" ∧ '=' ∉ label.1.toList) {scene : Scene World}
    (calm : scene.world.Calm) {id : String} {container : Container} :
    Gone scene.world (sweepLabels Engine.Simulated.engine labels scene).2.world id container ↔
      scene.world.containers.get? id = some container ∧ labels ≠ [] ∧
        Stamped (Keyed.lasting labels) container := by
  have named : ∀ label ∈ labels, label.1 ≠ "" := fun label member => (proper label member).1
  rw [sweepLabels_eq named, ← labelFilters_requiring_ne_nil_iff named,
    ← carriesAll_requiring_iff proper]
  exact @gone_sweep_iff (beginning labels scene) calm (requiring labels) id container

/-- In a simulation where a container has just the labels that last, it goes; so only labels that
all last are required. -/
theorem concordant_of_spared
    (proper : ∀ label ∈ labels, label.1 ≠ "" ∧ '=' ∉ label.1.toList)
    (spared : ∀ scene : Scene World, scene.world.Calm → ∀ id container,
      Gone scene.world (sweepLabels Engine.Simulated.engine labels scene).2.world id container →
        Stamped labels container) : Keyed.Concordant labels := by
  by_cases unlabelled : labels = []
  · subst unlabelled
    exact List.forall_mem_nil _
  · let container : Container := ⟨"", false, Keyed.ofList labels⟩
    obtain ⟨custody, -⟩ : ∃ custody, Custody.ofSettings (Settings.initial "") = .ok custody :=
      ⟨_, rfl⟩
    let scene : Scene World := .opening custody (.alone container)
    have calm : scene.world.Calm := World.calm_alone container
    have gone := (gone_sweepLabels_iff proper calm).mpr
      ⟨World.get?_alone container, unlabelled, stamped_ofList "" false⟩
    -- It would have to carry two values for one name otherwise.
    exact Keyed.concordant_of_get? (spared scene calm "" container gone)

/-- Every label argument of a command line that asks for a sweep is read as a label and becomes a
filter that is the argument itself, unless a later argument gives the same name.  A sweep asks for
resources with just these filters.  So all arguments are required, and only containers that carry
all the labels given can go, if and only if no name is given with two values. -/
theorem labels_required_iff {arguments : List String}
    (accepted : arguments.mapM readLabel = .ok labels) :
    arguments = labels.map (fun label => Clause.labelText label.1 label.2) ∧
    (arguments ≠ [] → ∀ environment : Environment,
      List.lookup programVariable environment ≠ some "" → ∀ spellings : List (List String),
        List.Forall₂ SpelledLabel arguments spellings →
          parse environment ("prune" :: spellings.flatten) =
            .ok ⟨programIn environment, .prune labels⟩) ∧
    ∃ selector : Selector,
      Selector.ofLabels (Keyed.ofList labels).entries = .ok selector ∧
      (∀ clause ∈ selector.clauses, clause.isLabel = true ∧ clause.value ∈ arguments) ∧
      selector.labelFilters.Perm
        ((Keyed.lasting labels).map fun label => Clause.labelText label.1 label.2) ∧
      ((∀ argument ∈ arguments, argument ∈ selector.labelFilters) ↔ Keyed.Concordant labels) ∧
      (∀ (ω : Type) (engine : Engine ω) (network : Wire.Network) (scene : Scene ω),
        let begun := scene.report [.pruneRequested selector.labelFilters]
        (Task.prune labels).perform engine network scene =
            (.ok "", (begun.carryOut engine (Sweep.selector selector)).2) ∧
          sweepCalls (exchanges (begun.chronicle engine (Sweep.selector selector))) =
            sweepPlan [selector]) ∧
      (∀ (network : Wire.Network) (scene : Scene World), scene.world.Calm → ∀ id container,
        Gone scene.world
            ((Task.prune labels).perform Engine.Simulated.engine network scene).2.world
            id container ↔
          scene.world.containers.get? id = some container ∧ labels ≠ [] ∧
            Stamped (Keyed.lasting labels) container) ∧
      ((∀ (network : Wire.Network) (scene : Scene World), scene.world.Calm → ∀ id container,
          Gone scene.world
              ((Task.prune labels).perform Engine.Simulated.engine network scene).2.world
              id container →
            Stamped labels container) ↔
        Keyed.Concordant labels) := by
  obtain ⟨texts, proper⟩ := mapM_readLabel_eq_ok_iff.mp accepted
  have named : ∀ label ∈ labels, label.1 ≠ "" := fun label member => (proper label member).1
  refine ⟨texts, fun given environment proper spellings => parse_prune accepted given proper,
    requiring labels, ofLabels_requiring named, ?_, labelFilters_requiring_perm named, ?_, ?_, ?_,
    ?_⟩
  · intro clause member
    obtain ⟨label, entered, rfl⟩ := List.mem_map.mp member
    rw [texts]
    exact ⟨Clause.isLabel_named _ _, List.mem_map_of_mem (mem_of_mem_entries entered)⟩
  · rw [texts, List.forall_mem_map, ← Keyed.all_last_iff]
    exact forall₂_congr fun label given => mem_labelFilters_requiring_iff proper given
  · intro ω engine network scene
    exact ⟨sweepLabels_eq named engine scene, Scene.sweepCalls_sweep _ _⟩
  · intro network scene calm id container
    exact gone_sweepLabels_iff proper calm
  · constructor
    · intro spared
      exact concordant_of_spared proper fun scene => spared .unreachable scene
    · intro concordant network scene calm id container gone
      obtain ⟨-, -, stamped⟩ := (gone_sweepLabels_iff proper calm).mp gone
      exact fun label given => stamped label (Keyed.all_last_iff.mpr concordant label given)

theorem labels_required_iff_twice :
    ["team=blue", "job=a=b", "team=blue"].mapM readLabel =
        .ok [("team", "blue"), ("job", "a=b"), ("team", "blue")] ∧
      ∃ selector : Selector,
        Selector.ofLabels
            (Keyed.ofList [("team", "blue"), ("job", "a=b"), ("team", "blue")]).entries =
          .ok selector ∧
        ∀ argument ∈ ["team=blue", "job=a=b", "team=blue"], argument ∈ selector.labelFilters := by
  have accepted : ["team=blue", "job=a=b", "team=blue"].mapM readLabel =
      .ok [("team", "blue"), ("job", "a=b"), ("team", "blue")] := by
    decide
  obtain ⟨-, -, selector, made, -, -, required, -⟩ := labels_required_iff accepted
  exact ⟨accepted, selector, made, required.mpr (by decide)⟩

/-- A label for which another value is given later is not asked for, and a container that does not
carry it goes. -/
theorem earlier_value_not_required :
    ["team=red", "team=blue"].mapM readLabel = .ok [("team", "red"), ("team", "blue")] ∧
      parse [] ["prune", "--label", "team=red", "--label", "team=blue"] =
        .ok ⟨"docker", .prune [("team", "red"), ("team", "blue")]⟩ ∧
      Selector.ofLabels (Keyed.ofList [("team", "red"), ("team", "blue")]).entries =
        .ok ⟨[Clause.named "team" "blue"]⟩ ∧
      "team=red" ∉ (Selector.mk [Clause.named "team" "blue"]).labelFilters ∧
      Gone Bequest.sheltering.world
        ((Task.prune [("team", "red"), ("team", "blue")]).perform Engine.Simulated.engine
          .unreachable Bequest.sheltering).2.world "db" Bequest.database ∧
      ¬ Stamped [("team", "red"), ("team", "blue")] Bequest.database := by
  have proper : ∀ label ∈ [("team", "red"), ("team", "blue")],
      label.1 ≠ "" ∧ '=' ∉ label.1.toList := by
    decide
  have calm : Bequest.sheltering.world.Calm := ⟨rfl, nofun⟩
  have present : Bequest.sheltering.world.containers.get? "db" = some Bequest.database :=
    (Keyed.get?_insert _ "db" "db" Bequest.database).trans (if_pos rfl)
  refine ⟨by decide, by decide, rfl, by decide, ?_, by decide +kernel⟩
  exact (gone_sweepLabels_iff proper calm).mpr ⟨present, by decide, by decide +kernel⟩

end CommandLine

end Reclaim
