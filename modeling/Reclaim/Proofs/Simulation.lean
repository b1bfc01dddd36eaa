import Reclaim.Engine.Simulated
import Reclaim.Proofs.Chronicle

/-!
# Removals in a simulation

A simulation is calm if it plays no stages and fails no calls but kills.  There
a removal always gets through: what it is about is gone afterwards, and all
else is as it was.  `Left` says this of two states of a simulation, and
`Procedure.Leads` of a procedure.
-/

set_option autoImplicit false

namespace Reclaim

open Engine (Call Operation)
open Engine.Simulated (World Container)
open Procedure

/-- A simulation that plays no stages and fails no calls but kills. -/
structure Engine.Simulated.World.Calm (world : World) : Prop where
  unstaged : world.stages = .empty
  killsOnly : ∀ entry ∈ world.failures, entry.1 = Operation.kill

theorem Engine.Simulated.World.Calm.of_same {before after : World} (calm : before.Calm)
    (stages : after.stages = before.stages) (failures : after.failures = before.failures) :
    after.Calm where
  unstaged := stages.trans calm.unstaged
  killsOnly := by
    rw [failures]
    exact calm.killsOnly

/-! ## What is left of a simulation -/

/-- A choice among the resources of a simulation. -/
@[ext] structure Sieve where
  container : String → Container → Bool
  network : String → Bool
  image : String → Bool

namespace Sieve

def everything : Sieve := ⟨fun _ _ => true, fun _ => true, fun _ => true⟩

def both (first second : Sieve) : Sieve where
  container id container := first.container id container && second.container id container
  network id := first.network id && second.network id
  image name := first.image name && second.image name

/-- All but the resource of a kind with an id. -/
def without : ResourceKind → String → Sieve
  | .container, id => { everything with container := fun other _ => !decide (id = other) }
  | .network, id => { everything with network := fun other => !decide (id = other) }
  | .image, name => { everything with image := fun other => !decide (name = other) }

end Sieve

/-- Exactly what a sieve lets through is left, as it was. -/
structure Left (sieve : Sieve) (before after : World) : Prop where
  containers : ∀ id,
    after.containers.get? id = (before.containers.get? id).filter (sieve.container id)
  networks : ∀ id,
    after.networks.get? id = (before.networks.get? id).filter fun _ => sieve.network id
  images : ∀ name,
    after.images.get? name = (before.images.get? name).filter fun _ => sieve.image name
  stages : after.stages = before.stages
  failures : after.failures = before.failures

theorem filter_true {α : Type} (value : Option α) : value.filter (fun _ => true) = value := by
  cases value <;> rfl

theorem filter_false {α : Type} (value : Option α) : value.filter (fun _ => false) = none := by
  cases value <;> rfl

theorem Keyed.get?_erase_eq_filter {β : Type} (map : Keyed β) (key other : String) :
    (map.erase key).get? other = (map.get? other).filter fun _ => !decide (key = other) := by
  by_cases same : key = other
  · rw [get?_erase, if_pos same, decide_eq_true same]
    exact (filter_false _).symm
  · rw [get?_erase, if_neg same, decide_eq_false same]
    exact (filter_true _).symm

theorem Keyed.get?_eq_filter_of_absent {β : Type} {map : Keyed β} {key : String}
    (absent : map.contains key = false) (other : String) :
    map.get? other = (map.get? other).filter fun _ => !decide (key = other) := by
  by_cases same : key = other
  · subst same
    have nothing : map.get? key = none := by simpa [contains] using absent
    rw [nothing]
    rfl
  · simp [same, filter_true]

theorem Left.refl (world : World) : Left .everything world world := by
  constructor <;> simp [Sieve.everything, filter_true]

theorem Left.trans {first second : Sieve} {before middle after : World}
    (earlier : Left first before middle) (later : Left second middle after) :
    Left (first.both second) before after where
  containers id := by rw [later.containers, earlier.containers, Option.filter_filter]; rfl
  networks id := by rw [later.networks, earlier.networks, Option.filter_filter]; rfl
  images name := by rw [later.images, earlier.images, Option.filter_filter]; rfl
  stages := later.stages.trans earlier.stages
  failures := later.failures.trans earlier.failures

theorem Left.calm {sieve : Sieve} {before after : World} (left : Left sieve before after)
    (calm : before.Calm) : after.Calm :=
  calm.of_same left.stages left.failures

/-! ## Single calls -/

namespace Engine.Simulated.World

variable {world : World}

def record (world : World) (call : Call) : World := { world with calls := world.calls ++ [call] }

theorem Calm.record (calm : world.Calm) (call : Call) : (world.record call).Calm :=
  calm.of_same rfl rfl

theorem Calm.failure?_eq_none (calm : world.Calm) {operation : Operation}
    (spared : operation ≠ .kill) : world.failure? operation = none := by
  apply List.lookup_eq_none_iff.mpr
  intro entry member
  rw [calm.killsOnly entry member]
  simpa using spared

theorem Calm.answer_eq (calm : world.Calm) {call : Call} (spared : call.kindOf ≠ .kill) :
    world.answer call = (world.record call).perform call := by
  have unfailing : (world.record call).failure? call.kindOf = none :=
    calm.failure?_eq_none spared
  unfold World.record at unfailing
  rw [answer, unfailing]
  rfl

theorem perform_keeps (world : World) (call : Call) :
    (world.perform call).2.stages = world.stages ∧
      (world.perform call).2.failures = world.failures := by
  cases call with
  | remove id force volumes =>
    simp only [perform]
    split
    · split <;> exact ⟨rfl, rfl⟩
    · exact ⟨rfl, rfl⟩
  | listContainers labels => exact ⟨rfl, rfl⟩
  | prune kind labels => exact ⟨rfl, rfl⟩
  | _ =>
    simp only [perform]
    split <;> exact ⟨rfl, rfl⟩

theorem answer_keeps (world : World) (call : Call) :
    (world.answer call).2.stages = world.stages ∧
      (world.answer call).2.failures = world.failures := by
  simp only [answer]
  split
  · exact ⟨rfl, rfl⟩
  · exact perform_keeps (world.record call) call

theorem Calm.answered (calm : world.Calm) (call : Call) : (world.answer call).2.Calm :=
  calm.of_same (answer_keeps world call).1 (answer_keeps world call).2

/-- What is left does not depend on the record of calls. -/
theorem left_of_record {sieve : Sieve} {call : Call} {after : World}
    (left : Left sieve (world.record call) after) : Left sieve world after :=
  ⟨left.containers, left.networks, left.images, left.stages, left.failures⟩

/-- Where no stages are played nobody acts and nothing is reported while a call is on its way. -/
theorem engine_of_unstaged (unstaged : world.stages = .empty) (call : Call) :
    Engine.Simulated.engine call world =
      .plain (world.answer call).1 (world.answer call).2 := by
  have nothingDue : world.due call = ([], world) := by
    cases call <;> simp [due, unstaged]
  rw [Engine.Simulated.engine, nothingDue]
  rfl

end Engine.Simulated.World

namespace Scene

open Engine.Simulated (engine)

variable {α β : Type} {scene : Scene World}

def answered (scene : Scene World) (call : Call) : Scene World where
  custody := scene.custody
  exits := scene.exits
  world := (scene.world.answer call).2
  journal := scene.journal ++ [.called call (scene.world.answer call).1 []]

theorem reply_call_of_unstaged (unstaged : scene.world.stages = .empty) (call : Call) :
    reply engine (.call call) scene = ((scene.world.answer call).1, scene.answered call) := by
  change takeTurn engine call scene = _
  rw [takeTurn, World.engine_of_unstaged unstaged]
  simp [Engine.Turn.plain, actAll, report, answered]

theorem interruptions_of_unstaged (unstaged : scene.world.stages = .empty) (request : Request) :
    scene.interruptions engine request = [] := by
  cases request with
  | call call => rw [interruptions, World.engine_of_unstaged unstaged, Engine.Turn.plain]
  | _ => rfl

theorem carryOut_call_of_calm (calm : scene.world.Calm) (call : Call)
    (next : Engine.Answer call → Procedure α) :
    scene.carryOut engine (.ask (.call call) next) =
      (scene.answered call).carryOut engine (next (scene.world.answer call).1) := by
  rw [carryOut_ask, reply_call_of_unstaged calm.unstaged]

theorem reply_keeps_of_unstaged (unstaged : scene.world.stages = .empty) (request : Request) :
    (reply engine request scene).2.world.stages = scene.world.stages ∧
      (reply engine request scene).2.world.failures = scene.world.failures ∧
      (reply engine request scene).2.exits = scene.exits := by
  cases request with
  | call call =>
    rw [reply_call_of_unstaged unstaged]
    exact ⟨(World.answer_keeps scene.world call).1, (World.answer_keeps scene.world call).2, rfl⟩
  | _ => exact ⟨rfl, rfl, rfl⟩

theorem carryOut_of_unstaged (work : Procedure α) (unstaged : scene.world.stages = .empty) :
    (scene.carryOut engine work).2.world.stages = .empty ∧
      (scene.carryOut engine work).2.world.failures = scene.world.failures ∧
      (scene.carryOut engine work).2.exits = scene.exits ∧
      ∀ act, Moment.acted act ∉ chronicle engine work scene := by
  induction work generalizing scene with
  | done value => exact ⟨unstaged, rfl, rfl, fun act => List.not_mem_nil⟩
  | ask request next ih =>
    obtain ⟨sameStages, sameFailures, sameExits⟩ := reply_keeps_of_unstaged unstaged request
    obtain ⟨finalStages, finalFailures, finalExits, nobodyLater⟩ :=
      ih (reply engine request scene).1 (sameStages.trans unstaged)
    refine ⟨finalStages, finalFailures.trans sameFailures, finalExits.trans sameExits, ?_⟩
    intro act member
    rw [chronicle_ask, interruptions_of_unstaged unstaged] at member
    rcases List.mem_cons.mp member with same | later
    · cases same
    · exact nobodyLater act later

/-- In a calm simulation nobody acts while a procedure is carried out. -/
theorem carryOut_of_calm (work : Procedure α) (calm : scene.world.Calm) :
    (scene.carryOut engine work).2.world.Calm ∧
      (scene.carryOut engine work).2.exits = scene.exits ∧
      ∀ act, Moment.acted act ∉ chronicle engine work scene := by
  obtain ⟨finalStages, finalFailures, finalExits, nobody⟩ :=
    carryOut_of_unstaged work calm.unstaged
  exact ⟨calm.of_same (finalStages.trans calm.unstaged.symm) finalFailures, finalExits, nobody⟩

end Scene

/-- Carried out from a state of a calm simulation, a procedure yields a value and a state that are
as `post` says, whatever the custody replies to it. -/
def Procedure.Leads {α : Type} (world : World) : Procedure α → (α → World → Prop) → Prop
  | .done value, post => post value world
  | .ask (.call call) next, post =>
    (next (world.answer call).1).Leads (world.answer call).2 post
  | .ask _ next, post => ∀ reply, (next reply).Leads world post

namespace Procedure

variable {α β : Type} {world : World}

@[simp] theorem leads_done (value : α) (post : α → World → Prop) :
    (Procedure.done value).Leads world post ↔ post value world := Iff.rfl

@[simp] theorem leads_call (call : Call) (next : Engine.Answer call → Procedure α)
    (post : α → World → Prop) :
    (Procedure.ask (.call call) next).Leads world post ↔
      (next (world.answer call).1).Leads (world.answer call).2 post := Iff.rfl

@[simp] theorem leads_log (event : Journal.Event) (next : Unit → Procedure α)
    (post : α → World → Prop) :
    (Procedure.ask (.log event) next).Leads world post ↔ (next ()).Leads world post := by
  constructor
  · intro leads
    exact leads ()
  · intro leads _
    exact leads

@[simp] theorem leads_label (id : String) (next : Option String → Procedure α)
    (post : α → World → Prop) :
    (Procedure.ask (.label id) next).Leads world post ↔
      ∀ label, (next label).Leads world post := Iff.rfl

@[simp] theorem leads_forget (kind : ResourceKind) (id : String) (next : Unit → Procedure α)
    (post : α → World → Prop) :
    (Procedure.ask (.forget kind id) next).Leads world post ↔ (next ()).Leads world post := by
  constructor
  · intro leads
    exact leads ()
  · intro leads _
    exact leads

theorem Leads.bind {work : Procedure α} {next : α → Procedure β} {middle : α → World → Prop}
    {post : β → World → Prop} (leads : work.Leads world middle)
    (continued : ∀ value after, middle value after → (next value).Leads after post) :
    (work.bind next).Leads world post := by
  induction work generalizing world with
  | done value => exact continued value world leads
  | ask request rest ih =>
    cases request with
    | call call => exact ih _ leads
    | _ =>
      intro reply
      exact ih reply (leads reply)

theorem Leads.mono {work : Procedure α} {post weaker : α → World → Prop}
    (leads : work.Leads world post)
    (implies : ∀ value after, post value after → weaker value after) :
    work.Leads world weaker := by
  have further : (work.bind .done).Leads world weaker := leads.bind implies
  rwa [bind_done_right] at further

/-- Where a procedure leads in a simulation it leads in every calm scene around it. -/
theorem Leads.holds {work : Procedure α} {post : α → World → Prop} {scene : Scene World}
    (leads : work.Leads scene.world post) (calm : scene.world.Calm) :
    post (scene.carryOut Engine.Simulated.engine work).1
      (scene.carryOut Engine.Simulated.engine work).2.world := by
  induction work generalizing scene with
  | done value => exact leads
  | ask request next ih =>
    cases request with
    | call call =>
      rw [Scene.carryOut_call_of_calm calm]
      exact ih _ leads (calm.answered call)
    | _ => exact ih _ (leads _) calm

end Procedure

/-! ## Removing a container -/

structure Besides (id : String) (before after : World) : Prop where
  containers : ∀ other, id ≠ other → after.containers.get? other = before.containers.get? other
  networks : after.networks = before.networks
  images : after.images = before.images
  stages : after.stages = before.stages
  failures : after.failures = before.failures

theorem Besides.record (id : String) (world : World) (call : Call) :
    Besides id world (world.record call) :=
  ⟨fun _ _ => rfl, rfl, rfl, rfl, rfl⟩

theorem Besides.trans {id : String} {before middle after : World}
    (earlier : Besides id before middle) (later : Besides id middle after) :
    Besides id before after where
  containers other different :=
    (later.containers other different).trans (earlier.containers other different)
  networks := later.networks.trans earlier.networks
  images := later.images.trans earlier.images
  stages := later.stages.trans earlier.stages
  failures := later.failures.trans earlier.failures

theorem Besides.calm {id : String} {before after : World} (besides : Besides id before after)
    (calm : before.Calm) : after.Calm :=
  calm.of_same besides.stages besides.failures

theorem Besides.left {id : String} {before after : World} (besides : Besides id before after)
    (gone : after.containers.get? id = none) : Left (.without .container id) before after where
  containers other := by
    have passes : (Sieve.without .container id).container other =
        fun _ => !decide (id = other) := rfl
    by_cases same : id = other
    · rw [passes, decide_eq_true same, ← same, gone]
      exact (filter_false _).symm
    · rw [passes, decide_eq_false same, besides.containers other same]
      exact (filter_true _).symm
  networks other := by
    rw [besides.networks]
    exact (filter_true _).symm
  images other := by
    rw [besides.images]
    exact (filter_true _).symm
  stages := besides.stages
  failures := besides.failures

namespace Engine.Simulated.World

variable {world : World}

theorem kill_besides (world : World) (id : String) :
    Besides id world (world.answer (.kill id)).2 := by
  simp only [answer]
  split
  · exact .record id world (.kill id)
  · simp only [perform]
    split
    · refine ⟨?_, rfl, rfl, rfl, rfl⟩
      intro other different
      simp [Keyed.get?_insert, different]
    · exact .record id world (.kill id)

theorem forceRemove_besides (calm : world.Calm) (id : String) :
    Besides id world (world.answer (.forceRemove id)).2 ∧
      (world.answer (.forceRemove id)).2.containers.get? id = none := by
  rw [calm.answer_eq (by simp [Call.forceRemove, Call.kindOf])]
  simp only [Call.forceRemove, perform]
  split
  next container found =>
    rw [Bool.not_true, Bool.and_false, if_neg Bool.false_ne_true]
    refine ⟨⟨?_, rfl, rfl, rfl, rfl⟩, by simp [Keyed.get?_erase]⟩
    intro other different
    simp [Keyed.get?_erase, different, record]
  next absent => exact ⟨.record id world _, absent⟩

end Engine.Simulated.World

end Reclaim
