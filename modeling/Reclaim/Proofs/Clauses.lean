import Reclaim.Proofs.Filters
import Reclaim.Proofs.Reclamation
import Reclaim.Proofs.Stamps

/-!
# Clauses that are not on labels

All clauses of a selector must hold of what it means, but the engine is handed
those on labels only.  A selector without any such clause is refused, and one
that has no others is swept for as it stands.  A selector of both kinds is swept
for as if its other clauses were not there, so more may go than it means
(`sweeps_whole_iff`).
-/

set_option autoImplicit false

namespace Reclaim

open Engine (SweepKind)
open Engine.Simulated (World Container)
open Procedure

/-! ## Clauses and filters -/

namespace Selector

/-- Filters that, taken for clauses on labels, are all clauses of a selector. -/
def Accounted (selector : Selector) (filters : List String) : Prop :=
  selector.clauses.map (fun clause => (clause.key, clause.value)) =
    filters.map fun filter => (labelKey, filter)

/-- Clauses on labels stand next to others. -/
def Mixed (selector : Selector) : Prop :=
  (∃ clause ∈ selector.clauses, clause.isLabel = true) ∧
    ∃ clause ∈ selector.clauses, clause.isLabel = false

instance (selector : Selector) : Decidable selector.Mixed :=
  inferInstanceAs (Decidable (_ ∧ _))

theorem labelFilters_eq_nil_iff {selector : Selector} :
    selector.labelFilters = [] ↔ ∀ clause ∈ selector.clauses, clause.isLabel = false := by
  simp [labelFilters, List.filter_eq_nil_iff]

theorem labelFilters_ne_nil_iff {selector : Selector} :
    selector.labelFilters ≠ [] ↔ ∃ clause ∈ selector.clauses, clause.isLabel = true := by
  simp [labelFilters_eq_nil_iff]

theorem accounted_labelFilters_iff {selector : Selector} :
    selector.Accounted selector.labelFilters ↔
      ∀ clause ∈ selector.clauses, clause.isLabel = true := by
  constructor
  · intro accounted clause member
    have paired : (clause.key, clause.value) ∈
        selector.labelFilters.map fun filter => (labelKey, filter) := by
      rw [← accounted]
      exact List.mem_map_of_mem member
    obtain ⟨filter, -, same⟩ := List.mem_map.mp paired
    rw [Clause.isLabel, ← (Prod.mk.inj same).1, beq_self_eq_true]
  · intro labels
    have whole : selector.clauses.filter Clause.isLabel = selector.clauses :=
      List.filter_eq_self.mpr labels
    rw [Accounted, labelFilters, whole, List.map_map]
    refine List.map_congr_left fun clause member => ?_
    rw [Function.comp_apply, eq_of_beq (labels clause member)]

/-- Where an engine is asked at all, the filters leave no clause out unless the selector is
mixed. -/
theorem accounted_iff_not_mixed {selector : Selector} (labelled : selector.labelFilters ≠ []) :
    selector.Accounted selector.labelFilters ↔ ¬ selector.Mixed := by
  rw [accounted_labelFilters_iff, Mixed, not_and]
  constructor
  · rintro labels - ⟨clause, member, other⟩
    rw [labels clause member] at other
    cases other
  · intro unmixed clause member
    cases isLabel : clause.isLabel with
    | true => rfl
    | false =>
      exact absurd ⟨clause, member, isLabel⟩ (unmixed (labelFilters_ne_nil_iff.mp labelled))

end Selector

/-! ## Calls -/

theorem InTurn.eq_nil {β : Type} {part : β → List Exchange → Prop} {items : List β}
    (silent : ∀ item made, part item made → made = []) {made : List Exchange}
    (turn : InTurn part items made) : made = [] := by
  induction turn with
  | done => rfl
  | next first others ih => rw [silent _ _ first, ih, List.nil_append]

theorem Swept.eq_nil {selector : Selector} (unlabelled : selector.labelFilters = [])
    {kind : SweepKind} {made : List Exchange} (swept : Swept selector kind made) : made = [] := by
  cases swept with
  | refused => rfl
  | unlisted labelled => exact absurd unlabelled labelled
  | listed labelled => exact absurd unlabelled labelled
  | pruned labelled => exact absurd unlabelled labelled

namespace Scene

variable {ω : Type} {engine : Engine ω}

/-- A sweep is refused, and makes no call, just when its selector has no clause on labels. -/
theorem calls_sweep_eq_nil_iff (scene : Scene ω) (selector : Selector) :
    calls (chronicle engine (Sweep.selector selector) scene) = [] ↔
      ∀ clause ∈ selector.clauses, clause.isLabel = false := by
  rw [← Selector.labelFilters_eq_nil_iff]
  by_cases unlabelled : selector.labelFilters = []
  · have turn := (selector_ensures selector).holds engine scene
    refine iff_of_true ?_ unlabelled
    rw [calls, turn.eq_nil fun _ _ swept => swept.eq_nil unlabelled]
    rfl
  · refine iff_of_false (fun silent => ?_) unlabelled
    have planned : SweepKind.containers.call selector.labelFilters ∈ sweepPlan [selector] :=
      mem_sweepPlan.mpr ⟨.containers, selector, .head _, unlabelled, rfl⟩
    rw [← @sweepCalls_sweep _ engine scene] at planned
    have asked : SweepKind.containers.call selector.labelFilters ∈
        calls (chronicle engine (Sweep.selector selector) scene) :=
      (mem_sweepCalls.mp planned).1
    rw [silent] at asked
    cases asked

end Scene

/-! ## What goes -/

abbrev Reading : Type := Clause → String → Container → Prop

def Clause.HoldsOf (reading : Reading) (id : String) (container : Container)
    (clause : Clause) : Prop :=
  if clause.isLabel = true then container.carries clause.value = true
  else reading clause id container

/-- All clauses of a selector hold of a container. -/
def Selector.Means (selector : Selector) (reading : Reading) (id : String)
    (container : Container) : Prop :=
  ∀ clause ∈ selector.clauses, clause.HoldsOf reading id container

def Gone (before after : World) (id : String) (container : Container) : Prop :=
  before.containers.get? id = some container ∧ after.containers.get? id = none

theorem Left.gone_iff {sieve : Sieve} {before after : World} (left : Left sieve before after)
    {id : String} {container : Container} :
    Gone before after id container ↔
      before.containers.get? id = some container ∧ sieve.container id container = false := by
  rw [Gone, left.containers]
  refine and_congr_right fun found => ?_
  rw [found]
  cases passes : sieve.container id container <;> simp [Option.filter, passes]

theorem means_of_unmixed {selector : Selector} (unmixed : ¬ selector.Mixed)
    (labelled : selector.labelFilters ≠ []) {container : Container}
    (carries : container.carriesAll selector.labelFilters = true) (reading : Reading)
    (id : String) : selector.Means reading id container := by
  intro clause member
  have isLabel : clause.isLabel = true :=
    Selector.accounted_labelFilters_iff.mp
      ((Selector.accounted_iff_not_mixed labelled).mpr unmixed) clause member
  rw [Clause.HoldsOf, if_pos isLabel]
  refine List.all_eq_true.mp carries clause.value ?_
  exact List.mem_map_of_mem (List.mem_filter.mpr ⟨member, isLabel⟩)

theorem gone_sweep_iff {scene : Scene World} (calm : scene.world.Calm) (selector : Selector)
    {id : String} {container : Container} :
    Gone scene.world
        (scene.carryOut Engine.Simulated.engine (Sweep.selector selector)).2.world id container ↔
      scene.world.containers.get? id = some container ∧ selector.labelFilters ≠ [] ∧
        container.carriesAll selector.labelFilters = true := by
  rw [((sweep_leads selector calm).holds calm).gone_iff, Sieve.container_all, List.all_map]
  simp [SweepKind.all, Sieve.unswept]

theorem gone_exitCleanup_iff {scene : Scene World} (calm : scene.world.Calm)
    {id : String} {container : Container} :
    Gone scene.world
        (scene.carryOut Engine.Simulated.engine Custody.exitCleanup).2.world id container ↔
      scene.world.containers.get? id = some container ∧
        (scene.custody.inventory.contains .container id = true ∨
          scene.custody.watched = false ∧ ∃ selector ∈ scene.custody.testament,
            selector.labelFilters ≠ [] ∧ container.carriesAll selector.labelFilters = true) := by
  rw [(Scene.exitCleanup_left calm).gone_iff, ← Bool.not_eq_true, Sieve.container_spared]
  refine and_congr_right fun _ => ?_
  rw [Classical.not_and_iff_not_or_not, Bool.not_eq_false]
  refine or_congr Iff.rfl ?_
  simp only [Classical.not_imp, Classical.not_forall, Bool.not_eq_false]

/-- A sweep takes only containers of which all clauses of its selector hold, whatever the clauses
say that are not on labels, unless the selector is mixed and there can be containers with all its
labels. -/
theorem sweep_spares_iff (custody : Custody) (selector : Selector) :
    (∀ (reading : Reading) (scene : Scene World), scene.world.Calm → ∀ id container,
      Gone scene.world
          (scene.carryOut Engine.Simulated.engine (Sweep.selector selector)).2.world id container →
        selector.Means reading id container) ↔
      (selector.Mixed →
        ∀ container : Container, container.carriesAll selector.labelFilters = false) := by
  constructor
  · rintro spares ⟨onLabel, other, member, isOther⟩ container
    refine Bool.eq_false_iff.mpr fun carries => ?_
    -- A container alone in its world, and a reading by which the other clauses never hold.
    let world : World := { World.empty with containers := Keyed.empty.insert "" container }
    have calm : world.Calm := ⟨rfl, nofun⟩
    let scene : Scene World := .opening custody world
    have present : world.containers.get? "" = some container :=
      (Keyed.get?_insert _ "" "" container).trans (if_pos rfl)
    have gone := (@gone_sweep_iff scene calm selector "" container).mpr
      ⟨present, Selector.labelFilters_ne_nil_iff.mpr onLabel, carries⟩
    have holds := spares (fun _ _ _ => False) scene calm "" container gone other member
    rw [Clause.HoldsOf, if_neg (by rw [isOther]; exact Bool.false_ne_true)] at holds
    exact holds
  · intro harmless reading scene calm id container gone
    obtain ⟨-, labelled, carries⟩ := (gone_sweep_iff calm selector).mp gone
    refine means_of_unmixed (fun mixed => ?_) labelled carries reading id
    rw [harmless mixed container] at carries
    cases carries

/-- Whatever an exit cleanup takes is held, or all clauses of a selector in the testament hold of
it, if none of these selectors is mixed. -/
theorem exitCleanup_spares {scene : Scene World} (calm : scene.world.Calm)
    (unmixed : ∀ selector ∈ scene.custody.testament, ¬ selector.Mixed) (reading : Reading)
    {id : String} {container : Container}
    (gone : Gone scene.world
      (scene.carryOut Engine.Simulated.engine Custody.exitCleanup).2.world id container) :
    scene.custody.inventory.contains .container id = true ∨
      ∃ selector ∈ scene.custody.testament, selector.Means reading id container := by
  obtain ⟨-, held | ⟨-, selector, bequeathed, labelled, carries⟩⟩ :=
    (gone_exitCleanup_iff calm).mp gone
  · exact Or.inl held
  · exact Or.inr ⟨selector, bequeathed,
      means_of_unmixed (unmixed selector bequeathed) labelled carries reading id⟩

/-- A sweep is as strong as its selector unless this has clauses on labels and others.  In every
run, the filters handed over are those of the selectors that are swept for; they leave out no
clause of any of them if and only if none is mixed.  A sweep makes no call at all just when there
is no clause on labels.  In a simulation, a sweep takes only what its selector means, and an exit
cleanup only that and what is held, as long as the selectors are not mixed; one sweep for a mixed
selector does so only if no container can have all its labels. -/
theorem sweeps_whole_iff {ω : Type} (engine : Engine ω) {settings : Settings} {custody : Custody}
    (opened : Custody.ofSettings settings = .ok custody) (world : ω)
    (steps : List (Wire.Network × Scene.Instruction)) :
    let tale := (Scene.opening custody world).recount engine steps
    let swept := (Scene.opening custody world).sweptAlong engine steps
    (∀ call ∈ calls tale, ∀ filters, call.filters? = some filters →
      ∃ selector ∈ swept, selector.labelFilters = filters ∧ filters ≠ []) ∧
    ((∀ selector ∈ swept, ∀ call ∈ calls tale, call.filters? = some selector.labelFilters →
        selector.Accounted selector.labelFilters) ↔
      ∀ selector ∈ swept, ¬ selector.Mixed) ∧
    ¬ custody.selector.Mixed ∧
    (∀ (scene : Scene ω) (selector : Selector),
      calls (Scene.chronicle engine (Sweep.selector selector) scene) = [] ↔
        ∀ clause ∈ selector.clauses, clause.isLabel = false) ∧
    (∀ selector : Selector,
      (∀ (reading : Reading) (scene : Scene World), scene.world.Calm → ∀ id container,
        Gone scene.world (scene.carryOut Engine.Simulated.engine
            (Sweep.selector selector)).2.world id container →
          selector.Means reading id container) ↔
        (selector.Mixed →
          ∀ container : Container, container.carriesAll selector.labelFilters = false)) ∧
    ∀ scene : Scene World, scene.world.Calm →
      (∀ selector ∈ scene.custody.testament, ¬ selector.Mixed) →
      ∀ (reading : Reading) id container,
        Gone scene.world (scene.carryOut Engine.Simulated.engine
            Custody.exitCleanup).2.world id container →
          scene.custody.inventory.contains .container id = true ∨
            ∃ selector ∈ scene.custody.testament, selector.Means reading id container := by
  intro tale swept
  refine ⟨?_, ?_, ?_, fun scene selector => scene.calls_sweep_eq_nil_iff selector,
    fun selector => sweep_spares_iff custody selector,
    fun scene calm unmixed reading id container gone =>
      exitCleanup_spares calm unmixed reading gone⟩
  · intro call made filters asks
    exact mem_sweepPlan_filters ((Scene.mem_calls_recount asks).mp made) asks
  · constructor
    · intro whole selector member mixed
      have labelled : selector.labelFilters ≠ [] := Selector.labelFilters_ne_nil_iff.mpr mixed.1
      have planned : SweepKind.containers.call selector.labelFilters ∈ sweepPlan swept :=
        mem_sweepPlan.mpr ⟨.containers, selector, member, labelled, rfl⟩
      have accounted : selector.Accounted selector.labelFilters :=
        whole selector member _ ((Scene.mem_calls_recount rfl).mpr planned) rfl
      exact (Selector.accounted_iff_not_mixed labelled).mp accounted mixed
    · intro unmixed selector member call made asks
      obtain ⟨-, -, -, labelled⟩ :=
        mem_sweepPlan_filters ((Scene.mem_calls_recount asks).mp made) asks
      exact (Selector.accounted_iff_not_mixed labelled).mpr (unmixed selector member)
  · rintro ⟨-, clause, member, other⟩
    have made := (Custody.eq_of_ofSettings opened).1
    rw [(Selector.names_of_ofLabels made clause member).1] at other
    cases other

namespace Bequest

open Scene

/-- A selector with a clause on labels and another one. -/
def web : Selector := ⟨[⟨labelKey, "team=blue", labelKey_ne_empty⟩, ⟨"name", "web", by decide⟩]⟩

def byId : Reading := fun clause id _ => clause.key = "name" → clause.value = id

def database : Container := ⟨"redis:7", false, Keyed.empty.insert "team" "blue"⟩

def sheltering : Scene World :=
  opening custody { World.empty with containers := Keyed.empty.insert "db" database }

/-- A container of which one clause does not hold goes in a sweep for a mixed selector: that clause
is not handed to the engine. -/
theorem other_clause_left_out :
    Custody.ofSettings settings = .ok custody ∧ web.Mixed ∧
      SweepKind.containers.call ["team=blue"] ∈ calls (sheltering.recount Engine.Simulated.engine
        [(Wire.Network.unreachable, .sweep web)]) ∧
      ¬ web.Accounted ["team=blue"] ∧
      Gone sheltering.world (sheltering.carryOut Engine.Simulated.engine
        (Sweep.selector web)).2.world "db" database ∧
      ¬ web.Means byId "db" database := by
  have asked : SweepKind.containers.call ["team=blue"] ∈ sweepPlan
      (sheltering.sweptAlong Engine.Simulated.engine [(Wire.Network.unreachable, .sweep web)]) := by
    decide
  have mixed : web.Mixed := by decide
  have calm : sheltering.world.Calm := ⟨rfl, nofun⟩
  have carries : database.carriesAll web.labelFilters = true := by decide +kernel
  refine ⟨opened, mixed, (mem_calls_recount rfl).mpr asked, ?_, ?_, ?_⟩
  · exact fun accounted => (Selector.accounted_iff_not_mixed (by decide)).mp accounted mixed
  · refine (gone_sweep_iff calm web).mpr ⟨?_, by decide, carries⟩
    exact (Keyed.get?_insert _ "db" "db" database).trans (if_pos rfl)
  · intro means
    have holds := means ⟨"name", "web", by decide⟩ (.tail _ (.head _))
    rw [Clause.HoldsOf, if_neg (by decide)] at holds
    exact absurd (holds rfl) (by decide)

theorem sweeps_whole_iff_nightly :
    Custody.ofSettings settings = .ok custody ∧
      ∀ call ∈ calls (start.recount Engine.Simulated.engine
        [(Wire.Network.unreachable, .sweep nightly)]), call.filters? = some nightly.labelFilters →
          nightly.Accounted nightly.labelFilters := by
  obtain ⟨-, whole, -⟩ := sweeps_whole_iff Engine.Simulated.engine opened World.empty
    [(Wire.Network.unreachable, .sweep nightly)]
  refine ⟨opened, whole.mpr ?_ nightly (.head _)⟩
  intro selector member
  rw [List.mem_singleton.mp member]
  decide

end Bequest

end Reclaim
