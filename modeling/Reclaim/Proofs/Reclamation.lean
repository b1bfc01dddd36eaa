import Reclaim.Proofs.Quiet
import Reclaim.Proofs.Remains

/-!
# Reclaiming what is owned

What exit cleanups come to in a calm simulation: of the resources exactly those
are left that are neither held nor, where no watchdog has taken over, carry all
labels of a selector in the testament.
-/

set_option autoImplicit false

namespace Reclaim

open Engine (SweepKind)
open Engine.Simulated (World Container)
open Procedure

/-! ## Exit cleanups -/

namespace Scene

open Engine.Simulated (engine)

variable {scene : Scene World}

theorem custody_of_calm {α : Type} (work : Procedure α) (calm : scene.world.Calm) :
    (scene.carryOut engine work).2.custody =
      { scene.custody with inventory := (scene.carryOut engine work).2.custody.inventory } := by
  obtain ⟨-, -, nobody⟩ := carryOut_of_calm work calm
  rw [custody_carryOut]
  exact Custody.foldl_after_of_nobody _ _ nobody

theorem cleanup_left (calm : scene.world.Calm) :
    Left (.all (scene.custody.inventory.holdings.map fun holding =>
      .without holding.kind holding.id)) scene.world
        (scene.carryOut engine Custody.cleanup).2.world := by
  have leads : (if scene.custody.inventory.holdings.isEmpty then Procedure.log .nothingHeld
      else Procedure.ask (.log (.draining scene.custody.inventory.holdings.length)) fun _ =>
        Custody.drain scene.custody.inventory.holdings).Leads scene.world fun _ =>
          Left (.all (scene.custody.inventory.holdings.map fun holding =>
            .without holding.kind holding.id)) scene.world := by
    cases nothing : scene.custody.inventory.holdings.isEmpty with
    | true =>
      rw [if_pos rfl, List.isEmpty_iff.mp nothing, log_eq, leads_log]
      exact .refl _
    | false =>
      rw [if_neg Bool.false_ne_true, leads_log]
      exact drain_leads _ calm
  exact leads.holds calm

end Scene

/-! ### What is left -/

theorem Inventory.all_holdings (inventory : Inventory) (kind : ResourceKind) (id : String) :
    inventory.holdings.all (fun holding => !decide (holding.kind = kind ∧ holding.id = id)) =
      !inventory.contains kind id := by
  cases held : inventory.contains kind id with
  | true =>
    obtain ⟨holding, listed, sameKind, sameId⟩ := Inventory.contains_iff_listed.mp held
    exact List.all_eq_false.mpr ⟨holding, listed, by simp [sameKind, sameId]⟩
  | false =>
    rw [Bool.not_false, List.all_eq_true]
    intro holding listed
    rw [Bool.not_eq_true', decide_eq_false_iff_not]
    intro same
    rw [Inventory.contains_iff_listed.mpr ⟨holding, listed, same⟩] at held
    cases held

namespace Sieve

/-- What a drain passes over. -/
def unheld (inventory : Inventory) : Sieve where
  container id _ := !inventory.contains .container id
  network id := !inventory.contains .network id
  image name := !inventory.contains .image name

/-- What the sweeps for some selectors pass over. -/
def unclaimed (selectors : List Selector) : Sieve :=
  { everything with
    container := fun _ container => selectors.all fun selector =>
      selector.labelFilters.isEmpty || !container.carriesAll selector.labelFilters }

/-- What an exit cleanup passes over. -/
def spared (custody : Custody) : Sieve :=
  if custody.watched then unheld custody.inventory
  else (unheld custody.inventory).both (unclaimed custody.testament)

theorem container_without (kind : ResourceKind) (id other : String) (container : Container) :
    (without kind id).container other container = !decide (kind = .container ∧ id = other) := by
  cases kind <;> simp [without, everything]

theorem network_without (kind : ResourceKind) (id other : String) :
    (without kind id).network other = !decide (kind = .network ∧ id = other) := by
  cases kind <;> simp [without, everything]

theorem image_without (kind : ResourceKind) (name other : String) :
    (without kind name).image other = !decide (kind = .image ∧ name = other) := by
  cases kind <;> simp [without, everything]

theorem all_without_holdings (inventory : Inventory) :
    all (inventory.holdings.map fun holding => without holding.kind holding.id) =
      unheld inventory := by
  ext
  · rw [container_all, List.all_map]
    simp only [Function.comp_def, container_without]
    rw [inventory.all_holdings]
    rfl
  · rw [network_all, List.all_map]
    simp only [Function.comp_def, network_without]
    rw [inventory.all_holdings]
    rfl
  · rw [image_all, List.all_map]
    simp only [Function.comp_def, image_without]
    rw [inventory.all_holdings]
    rfl

theorem all_unswept (selectors : List Selector) :
    all (SweepKind.all.map fun kind => all (selectors.map (unswept kind))) =
      unclaimed selectors := by
  ext
  · simp only [container_all, List.all_map, Function.comp_def, SweepKind.all]
    simp [unswept, unclaimed]
  · simp [network_all, unswept, unclaimed, everything]
  · simp [image_all, unswept, unclaimed, everything]

theorem container_spared (custody : Custody) (id : String) (container : Container) :
    (spared custody).container id container = true ↔
      custody.inventory.contains .container id = false ∧
        (custody.watched = false → ∀ selector ∈ custody.testament,
          selector.labelFilters ≠ [] → container.carriesAll selector.labelFilters = false) := by
  cases watched : custody.watched with
  | true => simp [spared, watched, unheld]
  | false =>
    simp [spared, watched, both, unheld, unclaimed, Classical.or_iff_not_imp_left]

theorem network_spared (custody : Custody) (id : String) :
    (spared custody).network id = !custody.inventory.contains .network id := by
  cases watched : custody.watched <;>
    simp [spared, watched, both, unheld, unclaimed, everything]

theorem image_spared (custody : Custody) (name : String) :
    (spared custody).image name = !custody.inventory.contains .image name := by
  cases watched : custody.watched <;>
    simp [spared, watched, both, unheld, unclaimed, everything]

end Sieve

namespace Scene

open Engine.Simulated (engine)

variable {scene : Scene World}

theorem exitCleanup_left (calm : scene.world.Calm) :
    Left (.spared scene.custody) scene.world
      (scene.carryOut engine Custody.exitCleanup).2.world := by
  have calmThen : (scene.report [.exitCleanup]).world.Calm := calm
  have drained : Left _ scene.world (scene.drained engine).world := cleanup_left calmThen
  have custody : (scene.drained engine).custody = _ := custody_of_calm Custody.cleanup calmThen
  have calmDrained := drained.calm calm
  have sameWatched : (scene.drained engine).custody.watched = scene.custody.watched := by
    rw [custody]
    rfl
  have sameTestament : (scene.drained engine).custody.testament = scene.custody.testament := by
    rw [custody]
    rfl
  rw [Sieve.all_without_holdings] at drained
  rw [carryOut_exitCleanup, sameWatched]
  cases watched : scene.custody.watched with
  | true =>
    rw [Sieve.spared, watched, if_pos rfl]
    exact drained
  | false =>
    have swept := (testament_leads scene.custody.testament calmDrained).holds calmDrained
    rw [Sieve.all_unswept, ← sameTestament] at swept
    rw [Sieve.spared, watched, if_neg Bool.false_ne_true, ← sameTestament]
    exact drained.trans swept

theorem exitCleanup_empties (calm : scene.world.Calm) :
    (scene.carryOut engine Custody.exitCleanup).2.custody.inventory = .empty := by
  obtain ⟨-, -, nobody⟩ := carryOut_of_calm Custody.exitCleanup calm
  exact exitCleanup_empties_of_nobody nobody

end Scene

/-- In a simulation that fails no calls but kills, an exit cleanup gives up all that is held and,
unless a watchdog has taken over, all containers with the labels of a selector in the testament.
Nothing else is touched: what is left is as it was, and so is the custody but for its inventory. -/
theorem exitCleanup_reclaims (scene : Scene World) (calm : scene.world.Calm) :
    let held := scene.custody.inventory
    let after := (scene.carryOut Engine.Simulated.engine Custody.exitCleanup).2
    after.custody = { scene.custody with inventory := .empty } ∧
    after.exits = scene.exits ∧
    (∀ id container, after.world.containers.get? id = some container ↔
      scene.world.containers.get? id = some container ∧ held.contains .container id = false ∧
        (scene.custody.watched = false → ∀ selector ∈ scene.custody.testament,
          selector.labelFilters ≠ [] → container.carriesAll selector.labelFilters = false)) ∧
    (∀ id name, after.world.networks.get? id = some name ↔
      scene.world.networks.get? id = some name ∧ held.contains .network id = false) ∧
    (∀ name, after.world.images.get? name = some () ↔
      scene.world.images.get? name = some () ∧ held.contains .image name = false) ∧
    after.world.failures = scene.world.failures ∧
    after.world.stages = scene.world.stages := by
  intro held after
  have left : Left (.spared scene.custody) scene.world after.world := Scene.exitCleanup_left calm
  have empty : after.custody.inventory = .empty := Scene.exitCleanup_empties calm
  obtain ⟨-, sameExits, -⟩ := Scene.carryOut_of_calm Custody.exitCleanup calm
  refine ⟨?_, sameExits, ?_, ?_, ?_, left.failures, left.stages⟩
  · rw [← empty]
    exact Scene.custody_of_calm Custody.exitCleanup calm
  · intro id container
    rw [left.containers, Option.filter_eq_some_iff, Sieve.container_spared]
  · intro id name
    rw [left.networks, Option.filter_eq_some_iff, Sieve.network_spared, Bool.not_eq_true']
  · intro name
    rw [left.images, Option.filter_eq_some_iff, Sieve.image_spared, Bool.not_eq_true']

def Scene.crowded : Scene World where
  custody :=
    { inventory := Inventory.empty.insert (.unlabelled .container "held")
      testament := [⟨[⟨labelKey, "team=blue", labelKey_ne_empty⟩]⟩]
      labels := .empty
      selector := .empty
      patience := ⟨1, 1⟩
      armed := true
      watched := false
      connection := none }
  exits := .empty
  world :=
    { World.empty with
      containers := ⟨[("held", ⟨"db", true, .empty⟩),
        ("labelled", ⟨"db", true, Keyed.empty.insert "team" "blue"⟩),
        ("other", ⟨"db", true, .empty⟩)], by decide⟩
      failures := [(.kill, .transport "kill" "denied")] }
  journal := []

theorem Scene.crowded_calm : Scene.crowded.world.Calm where
  unstaged := rfl
  killsOnly := by
    intro entry member
    rw [List.mem_singleton.mp member]

theorem exitCleanup_reclaims_crowded :
    Scene.crowded.world.Calm ∧
      (Scene.crowded.carryOut Engine.Simulated.engine Custody.exitCleanup).2.custody.inventory =
        .empty ∧
      ∀ id container, (Scene.crowded.carryOut Engine.Simulated.engine
        Custody.exitCleanup).2.world.containers.get? id = some container ↔
          (id, container) = ("other", ⟨"db", true, .empty⟩) := by
  obtain ⟨custody, -, containers, -⟩ := exitCleanup_reclaims Scene.crowded Scene.crowded_calm
  generalize Scene.crowded.carryOut Engine.Simulated.engine Custody.exitCleanup = after at *
  refine ⟨Scene.crowded_calm, by rw [custody], ?_⟩
  intro id container
  rw [containers, Keyed.get?_eq_some_iff]
  constructor
  · rintro ⟨present, unheld, unclaimed⟩
    have unlabelled := unclaimed rfl _ (.head _) (by decide +kernel)
    rcases List.mem_cons.mp present with held | present
    · cases held
      revert unheld
      decide +kernel
    · rcases List.mem_cons.mp present with labelled | present
      · cases labelled
        revert unlabelled
        decide +kernel
      · exact List.mem_singleton.mp present
  · intro other
    cases other
    refine ⟨by simp [Scene.crowded], by decide +kernel, ?_⟩
    intro _ selector member _
    rw [List.mem_singleton.mp member]
    decide +kernel

end Reclaim
