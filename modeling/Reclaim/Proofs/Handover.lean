import Reclaim.Proofs.Delivery
import Reclaim.Proofs.Labels
import Reclaim.Proofs.Runs
import Reclaim.Proofs.Simulation
import Reclaim.Proofs.Sweeps

/-!
# Handing the testament over

The sweeps at exit are for when no watchdog has taken over.  A watchdog is told
one selector only, that of the identifying labels, and yet all sweeps are left
out once it has acknowledged.  So what is swept, and what has been sent, is
decided once for the whole testament.
-/

set_option autoImplicit false

namespace Reclaim

open Engine (Call SweepKind)
open Procedure

/-! ## Exit cleanups -/

namespace Scene

variable {ω : Type} {engine : Engine ω} {scene : Scene ω}

theorem sweeps_of_unwatched (unwatched : (scene.drained engine).custody.watched = false)
    {selector : Selector} (bequeathed : selector ∈ scene.custody.testament)
    (labelled : selector.labelFilters ≠ []) (kind : SweepKind) :
    kind.call selector.labelFilters ∈ calls (chronicle engine Custody.exitCleanup scene) := by
  have still : selector ∈ (scene.drained engine).custody.testament := by
    rw [custody_drained, Custody.testament_foldl_eq]
    exact List.mem_append_left _ bequeathed
  have asked : kind.call selector.labelFilters ∈
      sweepCalls (exchanges (chronicle engine Custody.exitCleanup scene)) := by
    rw [sweepCalls_exitCleanup, unwatched]
    exact mem_sweepPlan.mpr ⟨kind, selector, still, labelled, rfl⟩
  exact (mem_sweepCalls.mp asked).1

theorem no_sweep_of_watched (watched : (scene.drained engine).custody.watched = true)
    (kind : SweepKind) (labels : List String) :
    kind.call labels ∉ calls (chronicle engine Custody.exitCleanup scene) := by
  intro member
  have asked := mem_sweepCalls.mpr ⟨member, by rw [kind.filters?_call, Option.isSome_some]⟩
  rw [sweepCalls_exitCleanup, watched] at asked
  cases asked

end Scene

/-! ## Runs -/

theorem Custody.ofSettings_ok {settings : Settings} {custody : Custody}
    (opened : Custody.ofSettings settings = .ok custody) :
    custody.testament = [custody.selector] ∧ custody.watched = false := by
  obtain ⟨-, whole⟩ := eq_of_ofSettings opened
  constructor
  · rw [whole]
  · rw [whole]

theorem takesOver_of_undeclared {selector : Selector} {tale : List Moment}
    (undeclared : Moment.acted .markWatched ∉ tale) :
    tale.any (Moment.takesOver selector) = true ↔
      ∃ stream, Moment.acted (.attach stream) ∈ tale ∧
        (Wire.register selector stream).answer = .ok true := by
  rw [any_takesOver_iff]
  exact or_iff_right undeclared

/-- Nobody is left out at exit unless a watchdog has acknowledged: in a run in which nobody
declares that one has taken over, either none acknowledged by the end of the drain, and every
selector of the testament that has labels is swept for, in all kinds; or one did, having been sent
the line of the first selector of the testament, and nothing is swept for. -/
theorem exitCleanup_sweeps_unless_acknowledged {ω : Type} (engine : Engine ω)
    {settings : Settings} {custody : Custody}
    (opened : Custody.ofSettings settings = .ok custody) (world : ω)
    (steps : List (Wire.Network × Scene.Instruction))
    (undeclared : Moment.acted .markWatched ∉
      (Scene.opening custody world).recount engine steps ++
        ((Scene.opening custody world).pursue engine steps).draining engine) :
    let scene := (Scene.opening custody world).pursue engine steps
    let tale := (Scene.opening custody world).recount engine steps ++
      scene.draining engine
    let swept := calls (Scene.chronicle engine Custody.exitCleanup scene)
    scene.custody.testament.head? = some custody.selector ∧
    ∀ selector ∈ scene.custody.testament, selector.labelFilters ≠ [] →
      ((∀ kind : SweepKind, kind.call selector.labelFilters ∈ swept) ∧
        ∀ stream, .acted (.attach stream) ∈ tale →
          (Wire.register custody.selector stream).answer ≠ .ok true) ∨
      ((∀ (kind : SweepKind) labels, kind.call labels ∉ swept) ∧
        ∃ stream, .acted (.attach stream) ∈ tale ∧
          (Wire.register custody.selector stream).answer = .ok true ∧
          (Wire.register custody.selector stream).stream.written =
            stream.written ++ (Wire.Form.query custody.selector ++ [0x0a])) := by
  intro scene tale swept
  obtain ⟨onlyOwn, unwatched⟩ := Custody.ofSettings_ok opened
  have custodyNow : scene.custody =
      ((Scene.opening custody world).recount engine steps).foldl
        Custody.after custody := Scene.custody_pursue _ steps
  have watched : (scene.drained engine).custody.watched =
      tale.any (Moment.takesOver custody.selector) := by
    rw [Scene.custody_drained, custodyNow, ← List.foldl_append, Custody.watched_foldl, unwatched,
      Bool.false_or]
  have takenOver : tale.any (Moment.takesOver custody.selector) = true ↔
      ∃ stream, Moment.acted (.attach stream) ∈ tale ∧
        (Wire.register custody.selector stream).answer = .ok true :=
    takesOver_of_undeclared undeclared
  constructor
  · obtain ⟨more, grown⟩ := Custody.testament_foldl
      ((Scene.opening custody world).recount engine steps) custody
    rw [custodyNow, grown, onlyOwn]
    rfl
  · intro selector bequeathed labelled
    cases decided : tale.any (Moment.takesOver custody.selector) with
    | false =>
      refine Or.inl ⟨fun kind => Scene.sweeps_of_unwatched (watched.trans decided) bequeathed
        labelled kind, ?_⟩
      intro stream attached answered
      have anybody := takenOver.mpr ⟨stream, attached, answered⟩
      rw [decided] at anybody
      cases anybody
    | true =>
      obtain ⟨stream, attached, answered⟩ := takenOver.mp decided
      exact Or.inr ⟨Scene.no_sweep_of_watched (watched.trans decided), stream, attached, answered,
        Wire.written_of_register answered⟩

/-! ### A selector that nobody sweeps for -/

namespace Bequest

open Scene
open Engine.Simulated (World)

def settings : Settings := ⟨Keyed.empty.insert "team" "blue", defaultProgram, ⟨1, 1⟩⟩

def custody : Custody where
  inventory := .empty
  testament := [⟨[⟨labelKey, "team=blue", labelKey_ne_empty⟩]⟩]
  labels := settings.labels
  selector := ⟨[⟨labelKey, "team=blue", labelKey_ne_empty⟩]⟩
  patience := settings.patience
  armed := false
  watched := false
  connection := none

theorem opened : Custody.ofSettings settings = .ok custody := by
  rfl

def nightly : Selector := ⟨[⟨labelKey, "job=nightly", labelKey_ne_empty⟩]⟩

def obliging : Wire.Stream := ⟨[.chunk [0x41, 0x43, 0x4b, 0x0a]], [], [], []⟩

def steps : List (Wire.Network × Instruction) :=
  [(Wire.Network.unreachable, .bequeath nightly), (Wire.Network.unreachable, .attach obliging)]

def start : Scene World := opening custody .empty

def finish : Scene World :=
  start.pursue Engine.Simulated.engine steps

theorem answered : (Wire.register custody.selector obliging).answer = .ok true := by
  have sent : Wire.sendQuery custody.selector obliging =
      (.ok (), { obliging with written := Wire.Form.query custody.selector ++ [0x0a] }) := by
    rfl
  have line : Wire.readLine [] obliging.arrivals = .line [0x41, 0x43, 0x4b] [.chunk []] := by
    decide +kernel
  rw [Wire.register_of_sent sent, Wire.awaitAcknowledgment_of_line line, if_pos (by decide +kernel)]
  rfl

theorem recount_eq :
    start.recount Engine.Simulated.engine steps =
      [.acted (.bequeath nightly), .acted (.attach obliging)] := rfl

theorem acknowledged : (Wire.register custody.selector obliging).acknowledged = true := by
  rw [Wire.Registration.acknowledged, answered]

theorem custody_finish : finish.custody =
    { custody.bequeath nightly with
      watched := true
      connection := some (Wire.register custody.selector obliging).stream } := by
  have told : finish.custody = _ := custody_pursue start steps
  rw [recount_eq] at told
  exact told.trans (@Custody.attach_of_acknowledged (custody.bequeath nightly) _ acknowledged)

theorem calm_finish : finish.world.Calm := by
  have world : finish.world = .empty := world_attach (start.act (.bequeath nightly)) obliging
  rw [world]
  exact ⟨rfl, nofun⟩

theorem nobody_draining (act : HolderAct) :
    Moment.acted act ∉ finish.draining Engine.Simulated.engine := by
  obtain ⟨-, -, nobody⟩ := @carryOut_of_calm _ (finish.report [.exitCleanup])
    Custody.cleanup calm_finish
  intro member
  rcases List.mem_cons.mp member with same | later
  · cases same
  · exact nobody act later

theorem undeclared : Moment.acted .markWatched ∉
    start.recount Engine.Simulated.engine steps ++
      finish.draining Engine.Simulated.engine := by
  rw [recount_eq]
  intro member
  rcases List.mem_append.mp member with early | late
  · simp at early
  · exact nobody_draining _ late

theorem watched_finish : (finish.drained Engine.Simulated.engine).custody.watched = true := by
  rw [custody_drained, Custody.watched_foldl, custody_finish]
  rfl

/-- A selector of the testament is neither swept for nor sent once a watchdog has acknowledged. -/
theorem left_to_nobody :
    Moment.acted .markWatched ∉
      start.recount Engine.Simulated.engine steps ++
        finish.draining Engine.Simulated.engine ∧
    nightly ∈ finish.custody.testament ∧ nightly.labelFilters ≠ [] ∧
    (∀ kind : SweepKind, kind.call nightly.labelFilters ∉
      calls (chronicle Engine.Simulated.engine Custody.exitCleanup finish)) ∧
    ∀ stream, .acted (.attach stream) ∈
        start.recount Engine.Simulated.engine steps ++
          chronicle Engine.Simulated.engine Custody.exitCleanup finish →
      (Wire.register custody.selector stream).stream.written ≠
        stream.written ++ (Wire.Form.query nightly ++ [0x0a]) := by
  refine ⟨undeclared, ?_, by decide +kernel, ?_, ?_⟩
  · rw [custody_finish]
    exact .tail _ (.head _)
  · intro kind
    exact no_sweep_of_watched watched_finish kind _
  · intro stream attached
    have only : stream = obliging := by
      obtain ⟨-, -, nobody⟩ := carryOut_of_calm Custody.exitCleanup calm_finish
      rw [recount_eq] at attached
      rcases List.mem_append.mp attached with early | late
      · simpa using early
      · exact absurd late (nobody _)
    rw [only, Wire.written_of_register answered]
    decide +kernel

/-- The watchdog that acknowledged has been sent the line of the first selector only, and there
are no sweeps. -/
theorem exitCleanup_sweeps_unless_acknowledged_obliging :
    Custody.ofSettings settings = .ok custody ∧
      Moment.acted .markWatched ∉
        start.recount Engine.Simulated.engine steps ++
          finish.draining Engine.Simulated.engine ∧
      finish.custody.testament.head? = some custody.selector ∧
      ∀ (kind : SweepKind) labels, kind.call labels ∉
        calls (chronicle Engine.Simulated.engine Custody.exitCleanup finish) := by
  obtain ⟨first, decided⟩ := exitCleanup_sweeps_unless_acknowledged Engine.Simulated.engine
    opened World.empty steps undeclared
  have bequeathed : nightly ∈ finish.custody.testament := by
    rw [custody_finish]
    exact .tail _ (.head _)
  refine ⟨opened, undeclared, first, ?_⟩
  rcases decided nightly bequeathed (by decide +kernel) with ⟨-, nobody⟩ | ⟨unswept, -⟩
  · exact absurd answered (nobody obliging (List.mem_append_left _ (.tail _ (.head _))))
  · exact unswept

end Bequest

end Reclaim
