import Reclaim.Proofs.Labels
import Reclaim.Proofs.Testament

/-!
# Filters that reach the engine

The engine is handed label filters in two calls only, to list containers and to
prune, and both are made on behalf of a selector that is swept for.  What reaches
it in the course of a run is therefore known from the selectors that are swept
for (`mem_sweepCalls_recount`), and these are the one of the identifying labels
and those that somebody gave.
-/

set_option autoImplicit false

namespace Reclaim

open Procedure

/-! ## Work without filters -/

theorem NetworkWalk.sweepCalls_eq_nil {id : String} {made : List Exchange}
    (walk : NetworkWalk id made) : sweepCalls made = [] := by
  obtain ⟨answer, deletions, rfl, called⟩ := walk
  have silent : sweepCalls deletions = [] := by
    apply Reclaim.sweepCalls_eq_nil
    intro exchange member
    have deleted : exchange.call ∈ (listedIn answer).map deletion := by
      rw [← called]
      exact List.mem_map_of_mem member
    obtain ⟨network, -, same⟩ := List.mem_map.mp deleted
    rw [← same]
    rfl
  rw [← List.singleton_append, sweepCalls_append, silent]
  rfl

theorem stopContainer_ensures (id : String) (label : Option String) :
    (Custody.stopContainer id label).Ensures fun tale _ => sweepCalls (exchanges tale) = [] := by
  simp only [Custody.stopContainer, bind_eq, pure_eq, request_eq, bind_ask, bind_done,
    ensures_label]
  intro held
  refine (container_ensures id (label <|> held)).bind ?_
  rintro tale outcome ⟨walk, -⟩
  rw [ensures_forget]
  intro _
  simpa using walk.sweepCalls_eq_nil

theorem removeNetwork_ensures (id : String) :
    (Custody.removeNetwork id).Ensures fun tale _ => sweepCalls (exchanges tale) = [] := by
  simp only [Custody.removeNetwork, bind_eq, pure_eq, request_eq, bind_ask, bind_done]
  refine (network_ensures id).bind ?_
  rintro tale outcome ⟨walk, -⟩
  rw [ensures_forget]
  intro _
  simpa using walk.sweepCalls_eq_nil

/-! ## What is swept for -/

namespace Scene

variable {ω : Type} (engine : Engine ω)

def sweptAtExit (scene : Scene ω) : List Selector :=
  if (scene.drained engine).custody.watched then []
  else (scene.drained engine).custody.testament

def sweptFiring : List Unit → Scene ω → List Selector
  | [], _ => []
  | _ :: rest, scene =>
    scene.sweptAtExit engine ++
      sweptFiring rest (scene.carryOut engine Custody.exitCleanup).2

def sweptFor (scene : Scene ω) : Instruction → List Selector
  | .sweep selector => [selector]
  | .exitCleanup => scene.sweptAtExit engine
  | .fire => sweptFiring engine scene.exits.pending { scene with exits := scene.exits.emptied }
  | .act _ | .stopContainer _ _ | .removeNetwork _ | .cleanup | .bequeath _ | .bequeathLabels _
  | .attach _ | .dial _ | .discard => []

def sweptAlong : Scene ω → List (Wire.Network × Instruction) → List Selector :=
  gather engine fun scene step => scene.sweptFor engine step.2

end Scene

namespace Scene

variable {ω : Type} {engine : Engine ω}

theorem sweepCalls_sweep (scene : Scene ω) (selector : Selector) :
    sweepCalls (exchanges (chronicle engine (Sweep.selector selector) scene)) =
      sweepPlan [selector] := by
  have turn := (selector_ensures selector).holds engine scene
  have asked : sweepCalls (exchanges (chronicle engine (Sweep.selector selector) scene)) =
      Engine.SweepKind.all.flatMap selector.asks :=
    turn.sweepCalls_eq fun _ _ swept => swept.sweepCalls_eq
  rw [asked, sweepPlan]
  simp only [List.flatMap_singleton]

theorem sweepCalls_atExit (scene : Scene ω) :
    sweepCalls (exchanges (chronicle engine Custody.exitCleanup scene)) =
      sweepPlan (scene.sweptAtExit engine) := by
  rw [sweepCalls_exitCleanup, sweptAtExit]
  split
  · rfl
  · rfl

theorem mem_sweepCalls_firings {call : Engine.Call} (pending : List Unit) (scene : Scene ω) :
    call ∈ sweepCalls (exchanges (firings engine pending scene)) ↔
      call ∈ sweepPlan (sweptFiring engine pending scene) := by
  induction pending generalizing scene with
  | nil => rfl
  | cons callback rest ih =>
    rw [firings, sweptFiring, exchanges_append, sweepCalls_append, List.mem_append, ih,
      mem_sweepPlan_append, sweepCalls_atExit]

theorem mem_sweepCalls_account {call : Engine.Call} (network : Wire.Network) (scene : Scene ω)
    (instruction : Instruction) :
    call ∈ sweepCalls (exchanges (scene.account engine network instruction)) ↔
      call ∈ sweepPlan (scene.sweptFor engine instruction) := by
  -- Giving up what is held hands no filters over; that leaves the sweeps.
  cases instruction with
  | sweep selector => rw [account, sweptFor, sweepCalls_sweep]
  | exitCleanup => rw [account, sweptFor, sweepCalls_atExit]
  | fire => exact mem_sweepCalls_firings _ _
  | cleanup =>
    rw [account, sweepCalls_cleanup]
    rfl
  | stopContainer id label =>
    rw [account, (stopContainer_ensures id label).holds engine scene]
    rfl
  | removeNetwork id =>
    rw [account, (removeNetwork_ensures id).holds engine scene]
    rfl
  | bequeathLabels labels =>
    simp only [account]
    cases Selector.ofLabels labels <;> rfl
  | dial address =>
    simp only [account]
    cases Wire.dial network scene.custody.patience address <;> rfl
  | _ => rfl

/-- The calls of a run that hand over label filters are those of the sweeps for what is swept
for. -/
theorem mem_sweepCalls_recount {call : Engine.Call} (steps : List (Wire.Network × Instruction))
    (scene : Scene ω) :
    call ∈ sweepCalls (exchanges (scene.recount engine steps)) ↔
      call ∈ sweepPlan (scene.sweptAlong engine steps) := by
  induction steps generalizing scene with
  | nil => rfl
  | cons step rest ih =>
    have later := ih (scene.follow engine step.1 step.2).2
    rw [recount, sweptAlong, gather, gather, exchanges_append, sweepCalls_append, List.mem_append,
      mem_sweepPlan_append, mem_sweepCalls_account]
    exact or_congr Iff.rfl later

/-! ## Where the selectors come from -/

theorem mem_sweptAtExit {scene : Scene ω} {selector : Selector}
    (swept : selector ∈ scene.sweptAtExit engine) :
    selector ∈ scene.custody.testament ∨
      selector ∈ bequests (chronicle engine Custody.exitCleanup scene) := by
  have bequeathed : selector ∈ (scene.drained engine).custody.testament := by
    unfold sweptAtExit at swept
    split at swept
    · cases swept
    · exact swept
  rw [custody_drained, Custody.testament_foldl_eq] at bequeathed
  rcases List.mem_append.mp bequeathed with before | meanwhile
  · exact Or.inl before
  · refine Or.inr ?_
    rw [chronicle_exitCleanup, bequests_append]
    exact List.mem_append_left _ meanwhile

theorem mem_sweptFiring {pending : List Unit} {scene : Scene ω} {selector : Selector}
    (swept : selector ∈ sweptFiring engine pending scene) :
    selector ∈ scene.custody.testament ∨
      selector ∈ bequests (firings engine pending scene) := by
  induction pending generalizing scene with
  | nil => cases swept
  | cons callback rest ih =>
    rw [firings, bequests_append, List.mem_append]
    rcases List.mem_append.mp swept with now | later
    · exact (mem_sweptAtExit now).imp_right Or.inl
    · rcases ih later with before | meanwhile
      · rw [custody_carryOut, Custody.testament_foldl_eq, List.mem_append] at before
        exact before.imp_right Or.inl
      · exact Or.inr (Or.inr meanwhile)

theorem mem_sweptFor {scene : Scene ω} {instruction : Instruction} {selector : Selector}
    (network : Wire.Network) (swept : selector ∈ scene.sweptFor engine instruction) :
    instruction = .sweep selector ∨ selector ∈ scene.custody.testament ∨
      selector ∈ bequests (scene.account engine network instruction) := by
  cases instruction with
  | sweep given =>
    rw [List.mem_singleton.mp swept]
    exact Or.inl rfl
  | exitCleanup => exact Or.inr (mem_sweptAtExit swept)
  | fire => exact Or.inr (mem_sweptFiring swept)
  | _ => cases swept

/-- What is swept for was in the testament at the beginning, was bequeathed in the course of the
run, or was given for a sweep. -/
theorem mem_sweptAlong {steps : List (Wire.Network × Instruction)} {scene : Scene ω}
    {selector : Selector} (swept : selector ∈ scene.sweptAlong engine steps) :
    selector ∈ scene.custody.testament ∨ selector ∈ bequests (scene.recount engine steps) ∨
      ∃ step ∈ steps, step.2 = .sweep selector := by
  induction steps generalizing scene with
  | nil => cases swept
  | cons step rest ih =>
    rw [recount, gather, bequests_append, List.mem_append]
    rcases List.mem_append.mp swept with now | later
    · rcases mem_sweptFor step.1 now with given | before | meanwhile
      · exact Or.inr (Or.inr ⟨step, .head _, given⟩)
      · exact Or.inl before
      · exact Or.inr (Or.inl (Or.inl meanwhile))
    · rcases ih later with before | meanwhile | ⟨other, member, given⟩
      · rw [custody_follow, Custody.testament_foldl_eq, List.mem_append] at before
        exact before.imp_right fun bequeathed => Or.inl (Or.inl bequeathed)
      · exact Or.inr (Or.inl (Or.inr meanwhile))
      · exact Or.inr (Or.inr ⟨other, .tail _ member, given⟩)

end Scene

/-! ## Filters that name labels -/

theorem mem_sweepPlan_filters {selectors : List Selector} {call : Engine.Call}
    {filters : List String} (planned : call ∈ sweepPlan selectors)
    (asks : call.filters? = some filters) :
    ∃ selector ∈ selectors, selector.labelFilters = filters ∧ filters ≠ [] := by
  obtain ⟨kind, selector, member, labelled, rfl⟩ := mem_sweepPlan.mp planned
  rw [kind.filters?_call, Option.some_inj] at asks
  exact ⟨selector, member, asks, asks ▸ labelled⟩

theorem names_sweepPlan_iff {selectors : List Selector} :
    (∀ call ∈ sweepPlan selectors, ∀ filters, call.filters? = some filters →
        ∀ filter ∈ filters, NamesLabel filter) ↔
      ∀ selector ∈ selectors, selector.Names := by
  constructor
  · -- Every filter of a selector is handed over already when containers are listed for it.
    intro named selector member
    rw [Selector.names_iff]
    intro filter asked
    have labelled : selector.labelFilters ≠ [] := List.ne_nil_of_mem asked
    have listing : Engine.Call.listContainers selector.labelFilters ∈ sweepPlan selectors :=
      mem_sweepPlan.mpr ⟨.containers, selector, member, labelled, rfl⟩
    exact named _ listing _ rfl filter asked
  · intro names call planned filters asks filter member
    obtain ⟨selector, isSwept, rfl, -⟩ := mem_sweepPlan_filters planned asks
    exact Selector.names_iff.mp (names selector isSwept) filter member

theorem Scene.mem_calls_recount {ω : Type} {engine : Engine ω} {scene : Scene ω}
    {steps : List (Wire.Network × Scene.Instruction)} {call : Engine.Call} {filters : List String}
    (asks : call.filters? = some filters) :
    call ∈ calls (scene.recount engine steps) ↔
      call ∈ sweepPlan (scene.sweptAlong engine steps) := by
  rw [← mem_sweepCalls_recount, mem_sweepCalls, asks, Option.isSome_some]
  exact (and_iff_left rfl).symm

/-- No call of a run hands over an empty list of label filters.  All filters handed over name a
label if and only if all clauses on labels do in the selectors that are swept for: the one of the
identifying labels, which always does, and those that were bequeathed or given for a sweep.  A
clause made from a name and a value does so; a clause made from a pair only does so if the text
given for it does. -/
theorem filters_name_labels_iff {ω : Type} (engine : Engine ω) {settings : Settings}
    {custody : Custody} (opened : Custody.ofSettings settings = .ok custody) (world : ω)
    (steps : List (Wire.Network × Scene.Instruction)) :
    let tale := (Scene.opening custody world).recount engine steps
    let swept := (Scene.opening custody world).sweptAlong engine steps
    (∀ call ∈ calls tale, call.filters? ≠ some []) ∧
    ((∀ call ∈ calls tale, ∀ filters, call.filters? = some filters →
        ∀ filter ∈ filters, NamesLabel filter) ↔
      ∀ selector ∈ swept, selector.Names) ∧
    (∀ selector ∈ swept, selector = custody.selector ∨ selector ∈ bequests tale ∨
      ∃ step ∈ steps, step.2 = .sweep selector) ∧
    custody.selector.Names ∧
    (∀ labels selector, Selector.ofLabels labels = .ok selector →
      ∀ clause ∈ selector.clauses, clause.isLabel = true ∧ NamesLabel clause.value) ∧
    (∀ selector clause, (Selector.push selector clause).Names ↔
      selector.Names ∧ clause.Names) ∧
    (∀ name value clause, Clause.ofLabel name value = .ok clause →
      clause.isLabel = true ∧ NamesLabel clause.value) ∧
    ∀ key value clause, Clause.ofPair key value = .ok clause →
      (clause.Names ↔ (key = labelKey → NamesLabel value)) := by
  intro tale swept
  obtain ⟨onlyOwn, -⟩ := Custody.ofSettings_ok opened
  refine ⟨?_, ?_, ?_, Custody.selector_names opened, fun labels selector =>
    Selector.names_of_ofLabels, fun selector clause => Selector.names_push,
    fun name value clause => Clause.names_of_ofLabel,
    fun key value clause => Clause.names_of_ofPair⟩
  · intro call made asks
    obtain ⟨selector, -, -, labelled⟩ :=
      mem_sweepPlan_filters ((Scene.mem_calls_recount asks).mp made) asks
    exact labelled rfl
  · refine Iff.trans ?_ names_sweepPlan_iff
    constructor
    · intro named call planned filters asks
      exact named call ((Scene.mem_calls_recount asks).mpr planned) filters asks
    · intro named call made filters asks
      exact named call ((Scene.mem_calls_recount asks).mp made) filters asks
  · intro selector member
    rcases Scene.mem_sweptAlong member with before | later
    · have own : selector ∈ [custody.selector] := onlyOwn ▸ before
      exact Or.inl (List.mem_singleton.mp own)
    · exact Or.inr later

namespace Bequest

open Scene
open Engine.Simulated (World)

/-- A clause on labels made from the text of a filter that begins with the equals sign. -/
def nameless : Clause := ⟨labelKey, "=x", labelKey_ne_empty⟩

/-- A filter that names no label reaches the engine when a selector is swept for in which such a
clause stands. -/
theorem nameless_filter_asked :
    Clause.ofPair labelKey "=x" = .ok nameless ∧ Custody.ofSettings settings = .ok custody ∧
      .listContainers ["=x"] ∈ calls (start.recount Engine.Simulated.engine
        [(Wire.Network.unreachable, .sweep ⟨[nameless]⟩)]) ∧
      ¬ NamesLabel "=x" := by
  refine ⟨rfl, opened, ?_, by decide⟩
  have planned : .listContainers ["=x"] ∈ sweepPlan (start.sweptAlong Engine.Simulated.engine
      [(Wire.Network.unreachable, .sweep ⟨[nameless]⟩)]) := by
    decide
  exact (mem_sweepCalls.mp (mem_sweepCalls_recount _ start |>.mpr planned)).1

theorem filters_name_labels_nightly :
    Custody.ofSettings settings = .ok custody ∧
      ∀ call ∈ calls (start.recount Engine.Simulated.engine
        [(Wire.Network.unreachable, .sweep nightly)]), ∀ filters, call.filters? = some filters →
          ∀ filter ∈ filters, NamesLabel filter := by
  obtain ⟨-, named, -⟩ := filters_name_labels_iff Engine.Simulated.engine opened World.empty
    [(Wire.Network.unreachable, .sweep nightly)]
  refine ⟨opened, named.mpr ?_⟩
  intro selector member
  rw [List.mem_singleton.mp member, Selector.names_iff]
  decide

end Bequest

end Reclaim
