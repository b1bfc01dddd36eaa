import Reclaim.Proofs.Takeover

/-!
# Taking over during an exit cleanup

Another holder can let a watchdog take over while an exit cleanup is on its way.
The exit cleanup looks once whether one has, between its drain and its sweeps
(`looks_once`).  What comes before that keeps it from sweeping, and what comes
later has no influence on it any more (`sweeps_unless_taken_over`): it counts
from the next exit cleanup on.
-/

set_option autoImplicit false

namespace Reclaim

open Engine (SweepKind)

/-! ## Procedures that do not look -/

/-- Whatever it is answered, a procedure never looks whether a watchdog has taken over. -/
def Procedure.Blind {α : Type} : Procedure α → Prop
  | .done _ => True
  | .ask request next => request ≠ .watched ∧ ∀ reply, (next reply).Blind

namespace Procedure

variable {α β : Type}

theorem blind_done (value : α) : (Procedure.done value).Blind := trivial

theorem blind_call (call : Engine.Call) : (Procedure.call call).Blind :=
  ⟨nofun, fun _ => trivial⟩

theorem blind_log (event : Journal.Event) : (Procedure.log event).Blind :=
  ⟨nofun, fun _ => trivial⟩

theorem blind_request {asked : Request} (other : asked ≠ .watched) :
    (Procedure.request asked).Blind :=
  ⟨other, fun _ => trivial⟩

theorem Blind.bind {work : Procedure α} {next : α → Procedure β} (blind : work.Blind)
    (continued : ∀ value, (next value).Blind) : (work.bind next).Blind := by
  induction work with
  | done value => exact continued value
  | ask request rest ih => exact ⟨blind.1, fun reply => ih reply (blind.2 reply)⟩

theorem blind_each {work : β → Procedure Unit} (blind : ∀ item, (work item).Blind)
    (items : List β) : (each work items).Blind := by
  induction items with
  | nil => exact blind_done ()
  | cons first rest ih => exact (blind first).bind fun _ => ih

end Procedure

open Procedure

/-! ### Removals -/

theorem blind_swallow {α : Type} (answer : Except Engine.Report α)
    (severity : Journal.Severity) (what id : String) :
    (Removal.swallow answer severity what id).Blind := by
  cases answer with
  | ok value => exact blind_done (some value)
  | error report => exact (blind_log _).bind fun _ => blind_done none

theorem blind_stop (id label : String) : (Removal.stop id label).Blind := by
  refine (blind_log _).bind fun _ => (blind_call _).bind fun answer =>
    (blind_swallow answer _ _ _).bind fun stopped => ?_
  cases stopped with
  | none => exact blind_done ()
  | some _ => exact blind_log _

theorem blind_delete (id label : String) : (Removal.delete id label).Blind := by
  refine (blind_call _).bind fun look => ?_
  cases look with
  | error report => exact (blind_log _).bind fun _ => blind_done _
  | ok again =>
    refine (blind_log _).bind fun _ => (blind_call _).bind fun answer =>
      (blind_swallow answer _ _ _).bind fun removed => ?_
    cases removed with
    | none => exact blind_done _
    | some _ => exact (blind_log _).bind fun _ => blind_done _

theorem blind_container (id : String) (label : Option String) :
    (Removal.container id label).Blind := by
  refine (blind_call _).bind fun look => ?_
  cases look with
  | error report =>
    dsimp only
    split
    · exact (blind_log _).bind fun _ => blind_done _
    · exact (blind_log _).bind fun _ => blind_done _
  | ok state =>
    dsimp only
    split
    · exact (blind_stop _ _).bind fun _ => blind_delete _ _
    · exact blind_delete _ _

theorem blind_networks (id : String) {onRemoved : String → Procedure Unit}
    (told : ∀ removed, (onRemoved removed).Blind) (outcome : Outcome)
    (listed : List Engine.ListedNetwork) :
    (Removal.networks id onRemoved outcome listed).Blind := by
  induction listed generalizing outcome with
  | nil => exact blind_done outcome
  | cons network rest ih =>
    refine (blind_call _).bind fun answer => ?_
    cases answer with
    | ok value => exact (told _).bind fun _ => (blind_log _).bind fun _ => ih _
    | error report =>
      dsimp only
      split
      · exact (blind_log _).bind fun _ => ih _
      · exact (blind_log _).bind fun _ => ih _

theorem blind_network (id : String) {onRemoved : String → Procedure Unit}
    (told : ∀ removed, (onRemoved removed).Blind) : (Removal.network id onRemoved).Blind := by
  refine (blind_call _).bind fun answer => (blind_swallow answer _ _ _).bind fun listed => ?_
  cases listed with
  | none => exact blind_done _
  | some networks => exact blind_networks id told _ networks

theorem blind_image (name : String) : (Removal.image name).Blind := by
  refine (blind_log _).bind fun _ => (blind_call _).bind fun answer => ?_
  cases answer with
  | ok value => exact blind_done _
  | error report =>
    dsimp only
    split
    · exact (blind_log _).bind fun _ => blind_done _
    · exact (blind_log _).bind fun _ => blind_done _

/-! ### Drains and sweeps -/

theorem blind_giveUp (holding : Holding) : (Custody.giveUp holding).Blind := by
  have forgets (kind : ResourceKind) (id : String) :
      (Procedure.request (.forget kind id)).Blind := blind_request nofun
  obtain ⟨kind, id, label⟩ := holding
  cases kind with
  | container =>
    exact (@blind_request (.label id) nofun).bind fun _ => (blind_container _ _).bind fun _ =>
      (forgets _ _).bind fun _ => blind_done _
  | network =>
    exact (blind_network id fun _ => forgets _ _).bind fun _ =>
      (forgets _ _).bind fun _ => blind_done _
  | image =>
    exact (blind_image _).bind fun _ => (forgets _ _).bind fun _ => blind_done _

theorem blind_cleanup : Custody.cleanup.Blind := by
  refine (@blind_request .holdings nofun).bind fun held => ?_
  split
  · exact blind_log _
  · refine (blind_log _).bind fun _ => blind_each (fun holding => ?_) held
    exact (blind_giveUp holding).bind fun _ => blind_log _

theorem blind_kind (kind : SweepKind) (selector : Selector) :
    (Sweep.kind kind selector).Blind := by
  unfold Sweep.kind
  dsimp only
  split
  · exact blind_log _
  · refine (blind_log _).bind fun _ => ?_
    cases kind with
    | containers =>
      refine (blind_call _).bind fun answer => (blind_swallow answer _ _ _).bind fun listed => ?_
      cases listed with
      | none => exact blind_done ()
      | some containers =>
        exact blind_each (fun _ => (blind_container _ _).bind fun _ => blind_done ()) containers
    | _ =>
      exact (blind_call _).bind fun answer => (blind_swallow answer _ _ _).bind fun _ =>
        blind_done ()

theorem blind_testament (selectors : List Selector) : (Sweep.testament selectors).Blind :=
  blind_each (fun kind => blind_each (blind_kind kind) selectors) SweepKind.all

namespace Scene

variable {ω α : Type} {engine : Engine ω}

theorem watched_notMem_chronicle {work : Procedure α} (blind : work.Blind) (scene : Scene ω)
    (reply : Bool) : .answered .watched reply ∉ chronicle engine work scene := by
  induction work generalizing scene with
  | done value => exact List.not_mem_nil
  | ask request next ih =>
    rw [chronicle_ask, List.mem_append, not_or]
    constructor
    · intro member
      obtain ⟨act, -, same⟩ := List.mem_map.mp member
      cases same
    · rintro (_ | ⟨_, member⟩)
      · exact blind.1 rfl
      · exact ih _ (blind.2 _) _ member

theorem watched_notMem_draining (scene : Scene ω) (reply : Bool) :
    .answered .watched reply ∉ scene.draining engine := by
  rintro (_ | ⟨_, member⟩)
  exact watched_notMem_chronicle blind_cleanup _ reply member

theorem blind_remainder (watched : Bool) : (remainder watched).Blind := by
  cases watched with
  | true => exact blind_log _
  | false => exact ⟨nofun, blind_testament⟩

/-- An exit cleanup looks at the end of its drain whether a watchdog has taken over, and at no
other time. -/
theorem looks_once (scene : Scene ω) :
    ∃ sweeping, chronicle engine Custody.exitCleanup scene =
        scene.draining engine ++
          .answered .watched (scene.drained engine).custody.watched :: sweeping ∧
      ∀ reply, .answered .watched reply ∉ scene.draining engine ∧
        .answered .watched reply ∉ sweeping :=
  ⟨_, chronicle_exitCleanup engine scene, fun reply =>
    ⟨scene.watched_notMem_draining reply, watched_notMem_chronicle (blind_remainder _) _ reply⟩⟩

end Scene

/-! ## Runs -/

namespace Scene

variable {ω : Type} {engine : Engine ω} {start scene : Scene ω} {tale : List Moment}

theorem Departs.watched_drained_iff (unwatched : start.custody.watched = false)
    (departs : start.Departs engine tale scene) :
    (scene.drained engine).custody.watched = true ↔
      TakenOver start.custody.selector (tale ++ scene.draining engine) := by
  rw [custody_drained, departs.custody_eq, ← List.foldl_append]
  exact Custody.watched_foldl_iff unwatched _

theorem Departs.sweepCalls_of_takenOver (unwatched : start.custody.watched = false)
    (departs : start.Departs engine tale scene)
    (takenOver : TakenOver start.custody.selector (tale ++ scene.draining engine)) :
    sweepCalls (exchanges (chronicle engine Custody.exitCleanup scene)) = [] := by
  rw [sweepCalls_exitCleanup, (departs.watched_drained_iff unwatched).mpr takenOver, if_pos rfl]

theorem Departs.sweepCalls_of_not_takenOver (unwatched : start.custody.watched = false)
    (departs : start.Departs engine tale scene)
    (nobody : ¬ TakenOver start.custody.selector (tale ++ scene.draining engine)) :
    sweepCalls (exchanges (chronicle engine Custody.exitCleanup scene)) =
      sweepPlan (scene.drained engine).custody.testament := by
  rw [sweepCalls_exitCleanup, if_neg (mt (departs.watched_drained_iff unwatched).mp nobody)]

end Scene

/-- An exit cleanup sweeps unless a watchdog has taken over by the end of its drain, for that is
when it looks, and it looks once.  This is so in every run, whether the exit cleanup is asked for
or comes from the exit queue, and at whatever moment the watchdog takes over.  If that is before
the exit cleanup or during its drain, there is no listing and no pruning.  If it is not, all sweeps
are made, whatever happens meanwhile, and the exit cleanups that begin afterwards make none. -/
theorem sweeps_unless_taken_over {ω : Type} {engine : Engine ω} {settings : Settings}
    {custody : Custody} (opened : Custody.ofSettings settings = .ok custody) {world : ω}
    {tale : List Moment} {scene : Scene ω}
    (departs : (Scene.opening custody world).Departs engine tale scene) :
    let whole := Scene.chronicle engine Custody.exitCleanup scene
    (∃ sweeping, whole = scene.draining engine ++
        .answered .watched (scene.drained engine).custody.watched :: sweeping ∧
      (∀ reply, .answered .watched reply ∉ scene.draining engine ∧
        .answered .watched reply ∉ sweeping) ∧
      sweepCalls (exchanges (scene.draining engine)) = []) ∧
    (TakenOver custody.selector (tale ++ scene.draining engine) →
      sweepCalls (exchanges whole) = []) ∧
    (¬ TakenOver custody.selector (tale ++ scene.draining engine) →
      sweepCalls (exchanges whole) = sweepPlan (scene.drained engine).custody.testament) ∧
    ∀ later next,
      (Scene.opening custody world).Departs engine (tale ++ whole ++ later) next →
      TakenOver custody.selector whole →
      sweepCalls (exchanges (Scene.chronicle engine Custody.exitCleanup next)) = [] := by
  intro whole
  have unwatched : custody.watched = false := (Custody.ofSettings_ok opened).2
  obtain ⟨sweeping, parts, unseen⟩ := scene.looks_once
  refine ⟨⟨sweeping, parts, unseen, ?_⟩, departs.sweepCalls_of_takenOver unwatched,
    departs.sweepCalls_of_not_takenOver unwatched, ?_⟩
  · exact Scene.sweepCalls_cleanup (scene.report [.exitCleanup])
  · -- What happens in this exit cleanup is in the past of the next one, its sweeps included.
    intro later next departsAgain takenOver
    refine departsAgain.sweepCalls_of_takenOver unwatched ?_
    exact (((takenOver.prepend tale).append later).append (next.draining engine))

def sinceTakenOver (selector : Selector) (tale : List Moment) : List Moment :=
  tale.dropWhile fun moment => !moment.takesOver selector

namespace Bequest

open Scene
open Engine.Simulated (World)

/-- A scene in which another holder declares that a watchdog has taken over, just when the one
container is looked at. -/
def overheard : Scene World :=
  opening custody { World.empty with
    containers := Keyed.empty.insert "c1" ⟨"redis:7", false, Keyed.empty.insert "team" "blue"⟩
    stages := Keyed.empty.insert "c1" [[.act .markWatched]] }

/-- The container is not held, so it is looked at during the sweeps; these go on although a
watchdog has taken over by then. -/
theorem pruned_behind_takeover :
    Custody.ofSettings settings = .ok custody ∧
      overheard.Departs Engine.Simulated.engine [] overheard ∧
      SweepKind.networks.call ["team=blue"] ∈ calls (sinceTakenOver custody.selector
        (chronicle Engine.Simulated.engine Custody.exitCleanup overheard)) := by
  refine ⟨opened, .asked .start, ?_⟩
  decide +kernel

def guardedContainer : Scene World := overheard.act (.hold ⟨.container, "c1", "redis:7"⟩)

/-- The container is looked at during the drain, and nothing is swept for. -/
theorem sweeps_unless_taken_over_draining :
    Custody.ofSettings settings = .ok custody ∧
      overheard.Departs Engine.Simulated.engine
        [.acted (.hold ⟨.container, "c1", "redis:7"⟩)] guardedContainer ∧
      TakenOver custody.selector ([.acted (.hold ⟨.container, "c1", "redis:7"⟩)] ++
        guardedContainer.draining Engine.Simulated.engine) ∧
      sweepCalls (exchanges (chronicle Engine.Simulated.engine Custody.exitCleanup
        guardedContainer)) = [] := by
  have departs : overheard.Departs Engine.Simulated.engine
      [.acted (.hold ⟨.container, "c1", "redis:7"⟩)] guardedContainer :=
    .asked (.follow Wire.Network.unreachable (.act (.hold ⟨.container, "c1", "redis:7"⟩)) .start)
  have takenOver : TakenOver custody.selector ([.acted (.hold ⟨.container, "c1", "redis:7"⟩)] ++
      guardedContainer.draining Engine.Simulated.engine) := by
    rw [← any_takesOver_iff]
    decide +kernel
  obtain ⟨-, silent, -⟩ := sweeps_unless_taken_over opened departs
  exact ⟨opened, departs, takenOver, silent takenOver⟩

end Bequest

end Reclaim
