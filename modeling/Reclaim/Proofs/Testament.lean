import Reclaim.Engine.Scripted
import Reclaim.Proofs.Handover
import Reclaim.Proofs.Interleaving
import Reclaim.Proofs.Quiet
import Reclaim.Proofs.Runs

/-!
# The testament

The selectors to sweep for at exit: the one of the identifying labels, and behind
it whatever was bequeathed, in the order in which that was done.  Nothing is
ever taken out of a testament (`testament_foldl_eq`).  What an exit cleanup
exchanges with the engine follows from the testament, from what is held, and
from whether a watchdog has taken over (`exitCleanup_exchanges`).
-/

set_option autoImplicit false

namespace Reclaim

theorem bequests_of_nobody {tale : List Moment} (nobody : ∀ act, Moment.acted act ∉ tale) :
    bequests tale = [] := by
  rw [bequests, List.filterMap_eq_nil_iff]
  intro moment member
  cases moment with
  | acted act => exact absurd member (nobody act)
  | answered request reply => rfl

namespace Scene

variable {ω : Type} {engine : Engine ω}

def Instruction.bequest? : Instruction → Option Selector
  | .act (.bequeath selector) | .bequeath selector => some selector
  | .bequeathLabels labels => (Selector.ofLabels labels).toOption
  | .act _ | .stopContainer _ _ | .removeNetwork _ | .cleanup | .sweep _ | .attach _ | .dial _
  | .exitCleanup | .fire | .discard => none

theorem refused_iff (network : Wire.Network) (scene : Scene ω) (labels : List (String × String)) :
    (∃ fault, (scene.follow engine network (.bequeathLabels labels)).1 = .refused fault) ↔
      (Instruction.bequeathLabels labels).bequest? = none := by
  simp only [follow, Instruction.bequest?]
  cases Selector.ofLabels labels with
  | error fault => exact ⟨fun _ => rfl, fun _ => ⟨fault, rfl⟩⟩
  | ok selector =>
    constructor
    · rintro ⟨fault, refused⟩
      cases refused
    · intro nothing
      cases nothing

theorem nobody_fires (quiet : engine.Quiet) (pending : List Unit) (scene : Scene ω)
    (act : HolderAct) : Moment.acted act ∉ firings engine pending scene := by
  induction pending generalizing scene with
  | nil => exact List.not_mem_nil
  | cons callback rest ih =>
    intro member
    rcases List.mem_append.mp member with now | later
    · exact nobody_acts quiet Custody.exitCleanup scene act now
    · exact ih _ later

theorem bequests_account (quiet : engine.Quiet) (network : Wire.Network) (scene : Scene ω)
    (instruction : Instruction) :
    bequests (scene.account engine network instruction) = instruction.bequest?.toList := by
  -- Where calls are made others could bequeath something too, but the engine is quiet.
  cases instruction with
  | act act => cases act <;> rfl
  | bequeath selector => rfl
  | bequeathLabels labels =>
    simp only [account, Instruction.bequest?]
    cases Selector.ofLabels labels <;> rfl
  | attach stream => rfl
  | dial address =>
    simp only [account]
    cases Wire.dial network scene.custody.patience address <;> rfl
  | discard => rfl
  | fire => exact bequests_of_nobody (nobody_fires quiet _ _)
  | _ => exact bequests_of_nobody (nobody_acts quiet _ _)

theorem bequests_recount (quiet : engine.Quiet) (steps : List (Wire.Network × Instruction))
    (scene : Scene ω) :
    bequests (scene.recount engine steps) = steps.filterMap fun step => step.2.bequest? := by
  induction steps generalizing scene with
  | nil => rfl
  | cons step rest ih =>
    have later := ih (scene.follow engine step.1 step.2).2
    rw [filterMap_cons_toList, ← later, ← bequests_account quiet step.1 scene step.2]
    exact bequests_append _ _

theorem testament_pursue (quiet : engine.Quiet) (steps : List (Wire.Network × Instruction))
    (scene : Scene ω) :
    (scene.pursue engine steps).custody.testament =
      scene.custody.testament ++ steps.filterMap fun step => step.2.bequest? := by
  rw [custody_pursue, Custody.testament_foldl_eq, bequests_recount quiet]

/-! ## Exit cleanups that nobody interrupts -/

/-- An exit cleanup exchanges what a drain exchanges, and then what the sweep for the testament
does. -/
theorem exitCleanup_parts (quiet : engine.Quiet) (scene : Scene ω) :
    ∃ swept,
      exchanges (chronicle engine Custody.exitCleanup scene) =
        exchanges (chronicle engine Custody.cleanup scene) ++ swept ∧
      ExitSweep (scene.carryOut engine Custody.cleanup).2.custody.watched
        scene.custody.testament swept := by
  have swept := exitSweep_remainder engine (scene.drained engine).custody.watched
    (scene.drained engine)
  have told : exchanges (chronicle engine Custody.exitCleanup scene) =
      exchanges (chronicle engine Custody.cleanup scene) ++ exchanges (chronicle engine
        (remainder (scene.drained engine).custody.watched) (scene.drained engine)) := by
    rw [chronicle_exitCleanup, draining_eq quiet, exchanges_append]
    rfl
  rw [custody_drained_of_quiet quiet, testament_of_quiet quiet] at swept
  rw [custody_drained_of_quiet quiet] at told
  exact ⟨_, told, swept⟩

end Scene

/-- What an exit cleanup exchanges with the engine, whatever the engine answers: first what a drain
exchanges; then, unless a watchdog has taken over by the end of the drain, one kind after another
and for each selector of the testament in order what sweeping that kind for it takes.  The
testament is the selector of the identifying labels and behind it all that was bequeathed and not
refused; the exit cleanup leaves it as it is, so that another one sweeps for the same selectors
again.  The containers of a listing may as well be given up at the same time. -/
theorem exitCleanup_exchanges {ω : Type} {engine : Engine ω} (quiet : engine.Quiet)
    {settings : Settings} {custody : Custody} (opened : Custody.ofSettings settings = .ok custody)
    (world : ω) (steps : List (Wire.Network × Scene.Instruction)) :
    let scene := (Scene.opening custody world).pursue engine steps
    let testament := custody.selector :: steps.filterMap fun step => step.2.bequest?
    let watched := (scene.carryOut engine Custody.cleanup).2.custody.watched
    let finish := (scene.carryOut engine Custody.exitCleanup).2
    scene.custody.testament = testament ∧
    (∃ swept,
      exchanges (Scene.chronicle engine Custody.exitCleanup scene) =
        exchanges (Scene.chronicle engine Custody.cleanup scene) ++ swept ∧
      ExitSweep watched testament swept ∧
      sweepCalls swept = if watched then [] else sweepPlan testament) ∧
    finish.custody.testament = testament ∧
    (ExitSweep watched testament
        (exchanges (Scene.chronicle engine Custody.exitCleanup finish)) ∧
      sweepCalls (exchanges (Scene.chronicle engine Custody.exitCleanup finish)) =
        if watched then [] else sweepPlan testament) ∧
    (∀ network labels, (∃ fault,
      (scene.follow engine network (.bequeathLabels labels)).1 = .refused fault) ↔
        (Scene.Instruction.bequeathLabels labels).bequest? = none) ∧
    ∀ listed, Procedure.Weaves (listed.map Sweep.walk) (Sweep.containers listed) ∧
      ∀ walks, Procedure.Weaves (listed.map Sweep.walk) walks → ∀ meanwhile : Scene ω,
        Interleaved Walk listed (exchanges (Scene.chronicle engine walks meanwhile)) := by
  intro scene testament watched finish
  obtain ⟨onlyOwn, -⟩ := Custody.ofSettings_ok opened
  have bequeathed : scene.custody.testament = testament := by
    have grown := Scene.testament_pursue quiet steps (Scene.opening custody world)
    exact grown.trans (congrArg (· ++ _) onlyOwn)
  have kept : finish.custody.testament = testament := by
    rw [Scene.testament_of_quiet quiet]
    exact bequeathed
  have still : (finish.carryOut engine Custody.cleanup).2.custody.watched = watched := by
    simp only [watched, finish, Scene.watched_of_quiet quiet]
  have emptied : finish.custody.inventory = .empty :=
    Scene.exitCleanup_empties_of_nobody (Scene.nobody_acts quiet _ scene)
  refine ⟨bequeathed, ?_, kept, ?_, fun network labels => Scene.refused_iff network scene labels,
    ?_⟩
  · obtain ⟨swept, made, sweep⟩ := Scene.exitCleanup_parts quiet scene
    rw [bequeathed] at sweep
    exact ⟨swept, made, sweep, sweep.sweepCalls_eq⟩
  · -- The drain of the second exit cleanup finds nothing, so that only its sweep is left.
    obtain ⟨again, made, sweep⟩ := Scene.exitCleanup_parts quiet finish
    rw [Scene.exchanges_cleanup_of_empty emptied, List.nil_append] at made
    rw [kept, still] at sweep
    rw [made]
    exact ⟨sweep, sweep.sweepCalls_eq⟩
  · intro listed
    refine ⟨weaves_containers listed, ?_⟩
    intro walks weaves meanwhile
    exact (walks_ensures weaves).holds engine meanwhile

namespace Bequest

open Scene

def taciturn : Engine (List Engine.Scripted.Reply) :=
  Engine.Client.engine (Engine.Scripted.shell defaultProgram id) defaultProgram

def dispositions : List (Wire.Network × Instruction) :=
  [.act (.hold ⟨.container, "c1", "redis:7"⟩), .bequeathLabels [("", "x")], .bequeath nightly].map
    (Wire.Network.unreachable, ·)

/-- An exit cleanup sweeps for the identifying labels, and for the selector that was not refused. -/
theorem exitCleanup_exchanges_dispositions :
    taciturn.Quiet ∧ Custody.ofSettings settings = .ok custody ∧
      ∃ swept,
        exchanges (chronicle taciturn Custody.exitCleanup
            ((opening custody []).pursue taciturn dispositions)) =
          exchanges (chronicle taciturn Custody.cleanup
            ((opening custody []).pursue taciturn dispositions)) ++ swept ∧
        sweepCalls swept =
          [.listContainers ["team=blue"], .listContainers ["job=nightly"],
            .prune .networks ["team=blue"], .prune .networks ["job=nightly"],
            .prune .volumes ["team=blue"], .prune .volumes ["job=nightly"],
            .prune .images ["team=blue"], .prune .images ["job=nightly"]] := by
  have quiet : taciturn.Quiet := Engine.Client.quiet _ _
  obtain ⟨-, ⟨swept, made, -, asks⟩, -⟩ := exitCleanup_exchanges quiet opened [] dispositions
  have unwatched : (((opening custody []).pursue taciturn dispositions).carryOut taciturn
      Custody.cleanup).2.custody.watched = false :=
    watched_of_quiet quiet _ _
  rw [unwatched] at asks
  exact ⟨quiet, opened, swept, made, asks⟩

end Bequest

end Reclaim
