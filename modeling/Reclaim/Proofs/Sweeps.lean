import Reclaim.Proofs.Drain
import Reclaim.Proofs.ExitCleanup

/-!
# The course of a sweep

What a sweep exchanges with the engine.  `Swept` says how one kind is swept for
one selector, and `testament_ensures` that a sweep for a testament is made of
such parts, kind by kind and for each selector in turn.  The calls that hand
label filters to the engine do not depend on what it answers: which they are,
and in what order, is known beforehand (`InTurn.sweepPlan_eq`).
-/

set_option autoImplicit false

namespace Reclaim

open Engine (Call SweepKind ListedContainer)
open Procedure

/-! ## One thing after another -/

/-- What is exchanged on behalf of some items, one after another. -/
inductive InTurn {β : Type} (part : β → List Exchange → Prop) :
    List β → List Exchange → Prop where
  | done : InTurn part [] []
  | next {item : β} {rest : List β} {now later : List Exchange}
      (first : part item now) (others : InTurn part rest later) :
      InTurn part (item :: rest) (now ++ later)

theorem each_ensures {β : Type} {work : β → Procedure Unit} {part : β → List Exchange → Prop}
    (step : ∀ item, (work item).Ensures fun tale _ => part item (exchanges tale))
    (items : List β) :
    (each work items).Ensures fun tale _ => InTurn part items (exchanges tale) := by
  induction items with
  | nil => exact .done
  | cons first rest ih =>
    refine (step first).bind ?_
    intro now _ made
    refine ih.mono ?_
    intro later _ others
    rw [exchanges_append]
    exact .next made others

/-! ## The exchanges of a sweep -/

def Walk (container : ListedContainer) (made : List Exchange) : Prop :=
  ∃ outcome, ContainerWalk container.id made outcome

/-- How sweeping one kind for a selector can go. -/
inductive Swept (selector : Selector) : SweepKind → List Exchange → Prop where
  | refused {kind : SweepKind} (unlabelled : selector.labelFilters = []) : Swept selector kind []
  | unlisted {report : Engine.Report} (labelled : selector.labelFilters ≠ []) :
      Swept selector .containers [⟨.listContainers selector.labelFilters, .error report⟩]
  | listed {containers : List ListedContainer} {walks : List Exchange}
      (labelled : selector.labelFilters ≠ []) (walked : InTurn Walk containers walks) :
      Swept selector .containers
        (⟨.listContainers selector.labelFilters, .ok containers⟩ :: walks)
  | pruned {kind : SweepKind} (labelled : selector.labelFilters ≠ []) (other : kind ≠ .containers)
      (answer : Engine.Answer (.prune kind selector.labelFilters)) :
      Swept selector kind [⟨.prune kind selector.labelFilters, answer⟩]

def Sweep.walk (container : ListedContainer) : Procedure Unit := do
  let _ ← Removal.container container.id (some container.image)

theorem walk_ensures (container : ListedContainer) :
    (Sweep.walk container).Ensures fun tale _ => Walk container (exchanges tale) := by
  refine (container_ensures container.id (some container.image)).bind ?_
  rintro tale outcome ⟨walk, -⟩
  rw [pure_eq, ensures_done, List.append_nil]
  exact ⟨outcome, walk⟩

theorem containers_ensures (listed : List ListedContainer) :
    (Sweep.containers listed).Ensures fun tale _ => InTurn Walk listed (exchanges tale) :=
  each_ensures walk_ensures listed

theorem kind_ensures (kind : SweepKind) (selector : Selector) :
    (Sweep.kind kind selector).Ensures fun tale _ => Swept selector kind (exchanges tale) := by
  simp only [Sweep.kind, Removal.swallow, bind_eq, pure_eq, call_eq, log_eq, bind_ask, bind_done]
  split
  next unlabelled =>
    rw [ensures_log]
    intro _
    exact .refused (List.isEmpty_iff.mp unlabelled)
  next labelled =>
    rw [ensures_log]
    intro _
    have labelled : selector.labelFilters ≠ [] := by simpa using labelled
    -- Walks follow a listing that succeeds; for the other kinds there is the one call.
    cases kind with
    | containers =>
      rw [ensures_call]
      intro acts answer
      cases answer with
      | error report =>
        simp only [bind_ask, bind_done, ensures_log]
        intro _
        simpa using Swept.unlisted labelled
      | ok listed =>
        refine (containers_ensures listed).mono ?_
        intro tale _ walked
        simpa using Swept.listed labelled walked
    | _ =>
      rw [ensures_call]
      intro acts answer
      cases answer with
      | error report =>
        simp only [bind_ask, bind_done, ensures_log]
        intro _
        simp only [ensures_done, exchanges_cons_log, exchanges_append, exchanges_acted,
          exchanges_cons_call, exchanges_nil, List.nil_append]
        exact .pruned labelled (by decide) _
      | ok value =>
        simp only [bind_done, ensures_done, exchanges_cons_log, exchanges_append,
          exchanges_acted, exchanges_cons_call, exchanges_nil, List.nil_append]
        exact .pruned labelled (by decide) _

theorem selector_ensures (selector : Selector) :
    (Sweep.selector selector).Ensures fun tale _ =>
      InTurn (Swept selector) SweepKind.all (exchanges tale) :=
  each_ensures (fun kind => kind_ensures kind selector) SweepKind.all

theorem testament_ensures (selectors : List Selector) :
    (Sweep.testament selectors).Ensures fun tale _ =>
      InTurn (fun kind => InTurn (fun selector => Swept selector kind) selectors) SweepKind.all
        (exchanges tale) :=
  each_ensures (fun kind => each_ensures (kind_ensures kind) selectors) SweepKind.all

/-! ## The calls that hand label filters over -/

/-- The call by which a sweep asks for the resources of one kind. -/
def Engine.SweepKind.call (labels : List String) : SweepKind → Call
  | .containers => .listContainers labels
  | .networks => .prune .networks labels
  | .volumes => .prune .volumes labels
  | .images => .prune .images labels

/-- The label filters that a call hands to the engine, if it is one of those that do. -/
def Engine.Call.filters? : Call → Option (List String)
  | .listContainers labels | .prune _ labels => some labels
  | .inspect _ | .kill _ | .remove _ _ _ | .listNetworks _ | .removeNetwork _
  | .removeImage _ _ => none

theorem Engine.SweepKind.mem_all (kind : SweepKind) : kind ∈ SweepKind.all := by
  cases kind <;> simp [SweepKind.all]

theorem Engine.SweepKind.filters?_call (kind : SweepKind) (labels : List String) :
    (kind.call labels).filters? = some labels := by
  cases kind <;> rfl

def sweepCalls (made : List Exchange) : List Call :=
  (made.map Exchange.call).filter fun call => call.filters?.isSome

@[simp] theorem sweepCalls_nil : sweepCalls [] = [] := rfl

@[simp] theorem sweepCalls_append (first second : List Exchange) :
    sweepCalls (first ++ second) = sweepCalls first ++ sweepCalls second := by
  simp [sweepCalls]

theorem mem_sweepCalls {made : List Exchange} {call : Call} :
    call ∈ sweepCalls made ↔ call ∈ made.map Exchange.call ∧ call.filters?.isSome = true := by
  rw [sweepCalls, List.mem_filter]

theorem sweepCalls_eq_nil {made : List Exchange}
    (unfiltered : ∀ exchange ∈ made, exchange.call.filters? = none) : sweepCalls made = [] := by
  rw [sweepCalls, List.filter_eq_nil_iff]
  intro call member
  obtain ⟨exchange, inMade, rfl⟩ := List.mem_map.mp member
  simp [unfiltered exchange inMade]

def Selector.asks (selector : Selector) (kind : SweepKind) : List Call :=
  if selector.labelFilters = [] then [] else [kind.call selector.labelFilters]

theorem InTurn.sweepCalls_eq {β : Type} {part : β → List Exchange → Prop} {asks : β → List Call}
    (step : ∀ item made, part item made → sweepCalls made = asks item) {items : List β}
    {made : List Exchange} (turn : InTurn part items made) :
    sweepCalls made = items.flatMap asks := by
  induction turn with
  | done => rfl
  | next first others ih => rw [sweepCalls_append, step _ _ first, ih, List.flatMap_cons]

theorem ContainerWalk.sweepCalls_eq_nil {id : String} {made : List Exchange} {outcome : Outcome}
    (walk : ContainerWalk id made outcome) : sweepCalls made = [] := by
  apply Reclaim.sweepCalls_eq_nil
  intro exchange member
  rcases walk.calls member with same | same | same <;> rw [same] <;> rfl

theorem Walk.sweepCalls_eq_nil {container : ListedContainer} {made : List Exchange}
    (walk : Walk container made) : sweepCalls made = [] := by
  obtain ⟨outcome, walk⟩ := walk
  exact walk.sweepCalls_eq_nil

theorem sweepCalls_walks {listed : List ListedContainer} {made : List Exchange}
    (walked : InTurn Walk listed made) : sweepCalls made = [] := by
  have silent : sweepCalls made = listed.flatMap fun _ => [] :=
    walked.sweepCalls_eq fun _ _ walk => walk.sweepCalls_eq_nil
  rw [silent, List.flatMap_eq_nil_iff]
  intro container _
  rfl

theorem Swept.sweepCalls_eq {selector : Selector} {kind : SweepKind} {made : List Exchange}
    (swept : Swept selector kind made) : sweepCalls made = selector.asks kind := by
  cases swept with
  | refused unlabelled => rw [Selector.asks, if_pos unlabelled, sweepCalls_nil]
  | unlisted labelled =>
    rw [Selector.asks, if_neg labelled]
    rfl
  | listed labelled walked =>
    rw [Selector.asks, if_neg labelled, ← List.singleton_append, sweepCalls_append,
      sweepCalls_walks walked]
    rfl
  | pruned labelled other answer =>
    rw [Selector.asks, if_neg labelled]
    cases kind with
    | containers => exact absurd rfl other
    | _ => rfl

def sweepPlan (selectors : List Selector) : List Call :=
  SweepKind.all.flatMap fun kind => selectors.flatMap fun selector => selector.asks kind

theorem mem_sweepPlan {selectors : List Selector} {call : Call} :
    call ∈ sweepPlan selectors ↔
      ∃ kind : SweepKind, ∃ selector ∈ selectors,
        selector.labelFilters ≠ [] ∧ call = kind.call selector.labelFilters := by
  have asked (selector : Selector) (kind : SweepKind) : call ∈ selector.asks kind ↔
      selector.labelFilters ≠ [] ∧ call = kind.call selector.labelFilters := by
    rw [Selector.asks]
    split <;> simp [*]
  simp [sweepPlan, List.mem_flatMap, asked, Engine.SweepKind.mem_all]

theorem mem_sweepPlan_append {first second : List Selector} {call : Call} :
    call ∈ sweepPlan (first ++ second) ↔ call ∈ sweepPlan first ∨ call ∈ sweepPlan second := by
  simp only [mem_sweepPlan, List.mem_append]
  constructor
  · rintro ⟨kind, selector, early | late, asked⟩
    · exact Or.inl ⟨kind, selector, early, asked⟩
    · exact Or.inr ⟨kind, selector, late, asked⟩
  · rintro (⟨kind, selector, early, asked⟩ | ⟨kind, selector, late, asked⟩)
    · exact ⟨kind, selector, Or.inl early, asked⟩
    · exact ⟨kind, selector, Or.inr late, asked⟩

theorem InTurn.sweepPlan_eq {selectors : List Selector} {made : List Exchange}
    (turn : InTurn (fun kind => InTurn (fun selector => Swept selector kind) selectors)
      SweepKind.all made) :
    sweepCalls made = sweepPlan selectors :=
  turn.sweepCalls_eq fun _ _ kindTurn =>
    kindTurn.sweepCalls_eq fun _ _ swept => swept.sweepCalls_eq

/-- What an exit cleanup exchanges after its drain, when it is known by then whether a watchdog has
taken over. -/
inductive ExitSweep (watched : Bool) (testament : List Selector) (made : List Exchange) : Prop where
  | left (taken_over : watched = true) (nothing : made = [])
  | swept (unwatched : watched = false)
      (turn : InTurn (fun kind => InTurn (fun selector => Swept selector kind) testament)
        [.containers, .networks, .volumes, .images] made)

theorem ExitSweep.sweepCalls_eq {watched : Bool} {testament : List Selector}
    {made : List Exchange} (sweep : ExitSweep watched testament made) :
    sweepCalls made = if watched then [] else sweepPlan testament := by
  cases sweep with
  | left taken_over nothing => rw [taken_over, nothing, if_pos rfl, sweepCalls_nil]
  | swept unwatched turn => rw [unwatched, turn.sweepPlan_eq, if_neg Bool.false_ne_true]

/-- Giving up a holding never takes such a call. -/
theorem Holding.Needs.filters?_eq_none {holding : Holding} {tale : List Moment} {call : Call}
    (needs : holding.Needs tale call) : call.filters? = none := by
  obtain ⟨kind, id, label⟩ := holding
  cases kind with
  | container => rcases needs with rfl | rfl | rfl <;> rfl
  | network => rcases needs with rfl | ⟨networks, network, -, -, rfl⟩ <;> rfl
  | image =>
    rw [needs]
    rfl

namespace Scene

variable {ω : Type} {engine : Engine ω}

theorem sweepCalls_cleanup (scene : Scene ω) :
    sweepCalls (exchanges (chronicle engine Custody.cleanup scene)) = [] := by
  apply sweepCalls_eq_nil
  intro exchange member
  have called : exchange.call ∈ calls (chronicle engine Custody.cleanup scene) :=
    List.mem_map_of_mem member
  obtain ⟨holding, -, needs⟩ := needs_of_mem_calls called
  exact needs.filters?_eq_none

theorem exitSweep_remainder (engine : Engine ω) (watched : Bool) (scene : Scene ω) :
    ExitSweep watched scene.custody.testament
      (exchanges (chronicle engine (remainder watched) scene)) := by
  cases watched with
  | true => exact .left rfl rfl
  | false => exact .swept rfl ((testament_ensures scene.custody.testament).holds engine scene)

/-- Which sweeps there are in an exit cleanup is decided by the end of its drain, and does not
depend on what the engine answers. -/
theorem sweepCalls_exitCleanup (engine : Engine ω) (scene : Scene ω) :
    sweepCalls (exchanges (chronicle engine Custody.exitCleanup scene)) =
      if (scene.drained engine).custody.watched then []
      else sweepPlan (scene.drained engine).custody.testament := by
  have drainAsks : sweepCalls (exchanges (scene.draining engine)) = [] :=
    sweepCalls_cleanup (scene.report [.exitCleanup])
  have swept := exitSweep_remainder engine (scene.drained engine).custody.watched
    (scene.drained engine)
  rw [chronicle_exitCleanup, exchanges_append, sweepCalls_append, drainAsks, List.nil_append]
  exact swept.sweepCalls_eq

end Scene

end Reclaim
