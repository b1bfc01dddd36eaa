import Reclaim.Proofs.Handover
import Reclaim.Proofs.Locality
import Reclaim.Proofs.Runs
import Reclaim.Proofs.Sweeps

/-!
# Taking a container over

Another holder may take a container over at any time, and from then on answers
for it alone.  Cleanups that begin afterwards leave the container in peace; one
that has begun before gives it up all the same, because it works through what
was held at its beginning (`release_of_container`).
-/

set_option autoImplicit false

namespace Reclaim

open Engine (Call ListedContainer SweepKind)
open Procedure

/-! ## What is exchanged about one resource -/

def Exchange.about (resource : Resource) (exchange : Exchange) : Bool :=
  decide (exchange.call.subject? = some resource)

def exchangesAbout (resource : Resource) (tale : List Moment) : List Exchange :=
  (exchanges tale).filter (Exchange.about resource)

@[simp] theorem exchangesAbout_append (resource : Resource) (first second : List Moment) :
    exchangesAbout resource (first ++ second) =
      exchangesAbout resource first ++ exchangesAbout resource second := by
  simp [exchangesAbout]

theorem exchangesAbout_eq_nil_iff {resource : Resource} {tale : List Moment} :
    exchangesAbout resource tale = [] ↔
      ∀ exchange ∈ exchanges tale, exchange.call.subject? ≠ some resource := by
  simp [exchangesAbout, Exchange.about, List.filter_eq_nil_iff]

theorem exchangesAbout_eq_exchanges {resource : Resource} {tale : List Moment}
    (all : ∀ call ∈ calls tale, call.subject? = some resource) :
    exchangesAbout resource tale = exchanges tale := by
  refine List.filter_eq_self.mpr fun exchange member => decide_eq_true ?_
  exact all exchange.call (List.mem_map_of_mem member)

/-- Calls that serve to give a holding up are about it, or about a network that was listed. -/
theorem Holding.Needs.subject {holding : Holding} {tale : List Moment} {call : Call}
    (needs : holding.Needs tale call) :
    call.subject? = some holding.resource ∨ ∃ id, call.subject? = some (.network, id) := by
  obtain ⟨kind, id, label⟩ := holding
  cases kind with
  | container => rcases needs with rfl | rfl | rfl <;> exact Or.inl rfl
  | network =>
    rcases needs with rfl | ⟨networks, network, -, -, rfl⟩
    · exact Or.inl rfl
    · exact Or.inr ⟨network.id, rfl⟩
  | image =>
    rw [needs]
    exact Or.inl rfl

theorem Attempt.subject {holding : Holding} {tale : List Moment} (attempt : Attempt holding tale)
    (single : holding.kind ≠ .network) {call : Call} (member : call ∈ calls tale) :
    call.subject? = some holding.resource := by
  have needs := attempt.needs member
  obtain ⟨kind, id, label⟩ := holding
  cases kind with
  | container => rcases needs with rfl | rfl | rfl <;> rfl
  | network => exact absurd rfl single
  | image =>
    rw [needs]
    rfl

/-- What is exchanged in an attempt to give a container or an image up is about it alone. -/
theorem Attempt.about {holding : Holding} {tale : List Moment} (attempt : Attempt holding tale)
    (single : holding.kind ≠ .network) :
    exchangesAbout holding.resource tale = exchanges tale :=
  exchangesAbout_eq_exchanges fun _ member => attempt.subject single member

section

variable {held : List Holding} {tale : List Moment} {resource : Resource}

theorem Attempts.about_eq_nil (attempts : Attempts held tale) (single : resource.1 ≠ .network)
    (others : ∀ holding ∈ held, holding.resource ≠ resource) :
    exchangesAbout resource tale = [] := by
  rw [exchangesAbout_eq_nil_iff]
  intro exchange member same
  have called : exchange.call ∈ calls tale := List.mem_map_of_mem member
  obtain ⟨holding, listed, needs⟩ := attempts.needs called
  rcases needs.subject with own | ⟨id, network⟩
  · exact others holding listed (Option.some.inj (own.symm.trans same))
  · have same : (.network, id) = resource := Option.some.inj (network.symm.trans same)
    exact single (congrArg Prod.fst same).symm

/-- Of all that is exchanged in some attempts, what is about a container or an image is what is
exchanged in the attempt to give it up. -/
theorem Attempts.walk_about (attempts : Attempts held tale)
    (distinct : held.Pairwise fun first second => first.resource ≠ second.resource)
    {holding : Holding} (member : holding ∈ held) (single : holding.kind ≠ .network) :
    holding.Walk (exchangesAbout holding.resource tale) := by
  induction attempts with
  | none => cases member
  | @next first rest part later attempt attempts ih =>
    obtain ⟨apart, distinctRest⟩ := List.pairwise_cons.mp distinct
    rw [exchangesAbout_append]
    rcases List.mem_cons.mp member with rfl | inRest
    · rw [attempt.about single, attempts.about_eq_nil single fun other listed =>
        (apart other listed).symm, List.append_nil]
      exact attempt.walk
    · have alone : Attempts [first] part := by
        simpa using Attempts.next attempt .none
      have silent : exchangesAbout holding.resource part = [] :=
        alone.about_eq_nil single (by simpa using apart holding inRest)
      rw [silent, List.nil_append]
      exact ih distinctRest inRest

end

/-! ## Cleanups -/

/-- How a cleanup can deal with a container, which is held when it begins or not. -/
def Disposal (id : String) (held : Bool) (made : List Exchange) : Prop :=
  if held then ∃ outcome, ContainerWalk id made outcome else made = []

theorem Attempts.disposal {inventory : Inventory} {tale : List Moment}
    (attempts : Attempts inventory.holdings tale) (id : String) :
    Disposal id (inventory.contains .container id) (exchangesAbout (.container, id) tale) := by
  cases held : inventory.contains .container id with
  | true =>
    obtain ⟨⟨kind, target, label⟩, listed, rfl, rfl⟩ := Inventory.contains_iff_listed.mp held
    exact attempts.walk_about inventory.distinct_resources listed nofun
  | false =>
    refine attempts.about_eq_nil nofun fun holding listed same => ?_
    have present := Inventory.contains_iff_listed.mpr
      ⟨holding, listed, (Prod.mk.inj same).1, (Prod.mk.inj same).2⟩
    rw [held] at present
    cases present

def Exchange.shows (id : String) : Exchange → Bool
  | ⟨.listContainers _, .ok listed⟩ => listed.any fun container => container.id == id
  | _ => false

def Spares (id : String) (made : List Exchange) : Prop :=
  (∀ exchange ∈ made, exchange.shows id = false) →
    ∀ exchange ∈ made, exchange.call.subject? ≠ some (.container, id)

theorem InTurn.spares {β : Type} {part : β → List Exchange → Prop} {id : String} {items : List β}
    {made : List Exchange} (turn : InTurn part items made)
    (step : ∀ item ∈ items, ∀ made, part item made → Spares id made) : Spares id made := by
  induction turn with
  | done => exact fun _ => List.forall_mem_nil _
  | next first others ih =>
    intro unshown
    obtain ⟨unshownNow, unshownLater⟩ := List.forall_mem_append.mp unshown
    obtain ⟨now, later⟩ := List.forall_mem_cons.mp step
    exact List.forall_mem_append.mpr ⟨now _ first unshownNow, ih later unshownLater⟩

theorem Walk.spares {container : ListedContainer} {made : List Exchange}
    (walk : Walk container made) {id : String} (different : container.id ≠ id) :
    Spares id made := by
  obtain ⟨outcome, walk⟩ := walk
  intro _ exchange member same
  have own : exchange.call.subject? = some (.container, container.id) := by
    rcases walk.calls member with called | called | called <;> rw [called] <;> rfl
  exact different (Prod.mk.inj (Option.some.inj (own.symm.trans same))).2

theorem Swept.spares {selector : Selector} {kind : SweepKind} {made : List Exchange}
    (swept : Swept selector kind made) (id : String) : Spares id made := by
  cases swept with
  | refused unlabelled => exact fun _ => List.forall_mem_nil _
  | unlisted labelled =>
    intro _ exchange member
    rw [List.mem_singleton.mp member]
    nofun
  | @listed containers walks labelled walked =>
    intro unshown
    obtain ⟨unlisted, unshownLater⟩ := List.forall_mem_cons.mp unshown
    refine List.forall_mem_cons.mpr ⟨nofun, walked.spares ?_ unshownLater⟩
    intro container member made walk
    have different : container.id ≠ id := by
      simpa using List.any_eq_false.mp unlisted container member
    exact walk.spares different
  | pruned labelled other answer =>
    intro _ exchange member
    rw [List.mem_singleton.mp member]
    nofun

theorem ExitSweep.spares {watched : Bool} {testament : List Selector} {made : List Exchange}
    (sweep : ExitSweep watched testament made) (id : String) : Spares id made := by
  cases sweep with
  | left taken_over nothing =>
    rw [nothing]
    exact fun _ => List.forall_mem_nil _
  | swept unwatched turn =>
    exact turn.spares fun kind _ _ sweeps => sweeps.spares fun selector _ _ swept => swept.spares id

namespace Scene

variable {ω : Type} {engine : Engine ω}

theorem disposal_cleanup (engine : Engine ω) (scene : Scene ω) (id : String) :
    Disposal id (scene.custody.inventory.contains .container id)
      (exchangesAbout (.container, id) (chronicle engine Custody.cleanup scene)) := by
  obtain ⟨event, later, -, attempts, told⟩ := cleanup_chronicle engine scene
  rw [told]
  exact attempts.disposal id

def Unlisted (id : String) (tale : List Moment) : Prop :=
  ∀ exchange ∈ exchanges tale, exchange.shows id = false

theorem disposal_exitCleanup (scene : Scene ω) {id : String}
    (unlisted : Unlisted id (chronicle engine Custody.exitCleanup scene)) :
    Disposal id (scene.custody.inventory.contains .container id)
      (exchangesAbout (.container, id) (chronicle engine Custody.exitCleanup scene)) := by
  have swept := exitSweep_remainder engine (scene.drained engine).custody.watched
    (scene.drained engine)
  rw [chronicle_exitCleanup, Unlisted, exchanges_append] at unlisted
  have spared := exchangesAbout_eq_nil_iff.mpr
    (swept.spares id (List.forall_mem_append.mp unlisted).2)
  have sweeping : exchangesAbout (.container, id)
      (.answered .watched (scene.drained engine).custody.watched ::
        chronicle engine (remainder (scene.drained engine).custody.watched)
          (scene.drained engine)) = [] := spared
  rw [chronicle_exitCleanup, exchangesAbout_append, sweeping, List.append_nil]
  exact disposal_cleanup engine (scene.report [.exitCleanup]) id

end Scene

/-- What was taken over is held no longer, unless it is registered again. -/
theorem Custody.contains_of_released {custody : Custody} {id : String} {early late : List Moment}
    (untaken : ∀ moment ∈ late, moment.takes .container id = false) :
    ((early ++ .acted (.releaseContainer id) :: late).foldl after custody).inventory.contains
      .container id = false := by
  rw [List.foldl_append, List.foldl_cons]
  refine Bool.eq_false_iff.mpr fun held => ?_
  rcases contains_or_takes late _ held with still | ⟨moment, member, takes⟩
  · simp [contains_after, Moment.takes, Moment.releases] at still
  · rw [untaken moment member] at takes
    cases takes

open Scene

/-- A container that another holder took over, and that nobody has registered since, is left in
peace by the cleanups that begin afterwards, in every run; by an exit cleanup as long as no listing
shows it.  A cleanup that has already begun deals with the container as if it had not been taken
over, even if it has not come to it yet: if the container was held when the cleanup began, it is
looked at, stopped and deleted all the same. -/
theorem release_of_container {ω : Type} (engine : Engine ω) (id : String) :
    (∀ (start scene : Scene ω) (early late : List Moment),
      (∀ moment ∈ late, moment.takes .container id = false) →
      (start.Reaches engine (early ++ .acted (.releaseContainer id) :: late) scene →
        exchangesAbout (.container, id) (chronicle engine Custody.cleanup scene) = []) ∧
      (start.Departs engine (early ++ .acted (.releaseContainer id) :: late) scene →
        Unlisted id (chronicle engine Custody.exitCleanup scene) →
        exchangesAbout (.container, id) (chronicle engine Custody.exitCleanup scene) = [])) ∧
    ∀ (scene : Scene ω) (early late : List Moment),
      exchangesAbout (.container, id) early = [] →
      (chronicle engine Custody.cleanup scene =
          early ++ .acted (.releaseContainer id) :: late →
        Disposal id (scene.custody.inventory.contains .container id)
          (exchangesAbout (.container, id) late)) ∧
      (chronicle engine Custody.exitCleanup scene =
          early ++ .acted (.releaseContainer id) :: late →
        Unlisted id (chronicle engine Custody.exitCleanup scene) →
        Disposal id (scene.custody.inventory.contains .container id)
          (exchangesAbout (.container, id) late)) := by
  refine ⟨fun start scene early late untaken => ⟨fun reached => ?_, fun departs unlisted => ?_⟩,
    fun scene early late unbegun => ⟨fun split => ?_, fun split unlisted => ?_⟩⟩
  · have disposal := disposal_cleanup engine scene id
    rw [reached.custody_eq, Custody.contains_of_released untaken] at disposal
    exact disposal
  · have disposal := disposal_exitCleanup scene unlisted
    rw [departs.custody_eq, Custody.contains_of_released untaken] at disposal
    exact disposal
  · have disposal := disposal_cleanup engine scene id
    rw [split, exchangesAbout_append, unbegun] at disposal
    exact disposal
  · have disposal := disposal_exitCleanup scene unlisted
    rw [split, exchangesAbout_append, unbegun] at disposal
    exact disposal

/-! ### A container that is given up behind its new owner's back -/

def upTo {α : Type} (wanted : α → Bool) (items : List α) : List α :=
  items.takeWhile fun item => !wanted item

def behind {α : Type} (wanted : α → Bool) (items : List α) : List α :=
  (items.dropWhile fun item => !wanted item).tail

theorem split_at_first {α : Type} {wanted : α → Bool} {items : List α}
    (found : items.any wanted = true) :
    ∃ item, wanted item = true ∧ items = upTo wanted items ++ item :: behind wanted items := by
  induction items with
  | nil => cases found
  | cons first rest ih =>
    cases here : wanted first with
    | true => exact ⟨first, here, by simp [upTo, behind, here]⟩
    | false =>
      rw [List.any_cons, here, Bool.false_or] at found
      obtain ⟨item, wanted, split⟩ := ih found
      refine ⟨item, wanted, ?_⟩
      simpa [upTo, behind, here] using split

theorem split_at_release {id : String} {tale : List Moment}
    (released : tale.any (Moment.releases .container id) = true) :
    tale = upTo (Moment.releases .container id) tale ++
      .acted (.releaseContainer id) :: behind (Moment.releases .container id) tale := by
  obtain ⟨moment, releases, split⟩ := split_at_first released
  cases moment with
  | answered request reply => cases releases
  | acted act =>
    cases act with
    | releaseContainer other =>
      obtain ⟨-, rfl⟩ := of_decide_eq_true releases
      exact split
    | _ => simp [Moment.releases] at releases

namespace Bequest

open Engine.Simulated (World Container engine)

def anonymous : Container := ⟨"redis:7", true, .empty⟩

/-- A scene with two containers, each of which is taken over when the other one is looked at. -/
def crossing : Scene World :=
  opening custody { World.empty with
    containers := (Keyed.empty.insert "a" anonymous).insert "b" anonymous
    stages := (Keyed.empty.insert "a" [[.act (.releaseContainer "b")]]).insert
      "b" [[.act (.releaseContainer "a")]] }

def crossingHeld : Scene World :=
  (crossing.act (.hold ⟨.container, "a", "redis:7"⟩)).act (.hold ⟨.container, "b", "redis:7"⟩)

theorem crossing_reaches : crossing.Reaches engine
    [.acted (.hold ⟨.container, "a", "redis:7"⟩), .acted (.hold ⟨.container, "b", "redis:7"⟩)]
    crossingHeld :=
  .follow Wire.Network.unreachable (.act (.hold ⟨.container, "b", "redis:7"⟩))
    (.follow Wire.Network.unreachable (.act (.hold ⟨.container, "a", "redis:7"⟩)) .start)

theorem crossing_split :
    chronicle engine Custody.cleanup crossingHeld =
      upTo (Moment.releases .container "b") (chronicle engine Custody.cleanup crossingHeld) ++
        .acted (.releaseContainer "b") ::
          behind (Moment.releases .container "b")
            (chronicle engine Custody.cleanup crossingHeld) :=
  split_at_release (by decide +kernel)

/-- The second container is taken over before the drain comes to it; it is walked all the same. -/
theorem release_of_container_crossing :
    ∃ early late, chronicle engine Custody.cleanup crossingHeld =
        early ++ .acted (.releaseContainer "b") :: late ∧
      exchangesAbout (.container, "b") early = [] ∧
      ∃ outcome, ContainerWalk "b" (exchangesAbout (.container, "b") late) outcome := by
  have unbegun : exchangesAbout (.container, "b") (upTo (Moment.releases .container "b")
      (chronicle engine Custody.cleanup crossingHeld)) = [] := by
    decide +kernel
  obtain ⟨-, inProgress⟩ := release_of_container engine "b"
  have disposal := (inProgress crossingHeld _ _ unbegun).1 crossing_split
  exact ⟨_, _, crossing_split, unbegun, disposal⟩

/-- A container that was taken over, that nobody registers again, and that carries the labels of no
selector of the testament, is stopped and deleted by a drain that had not come to it. -/
theorem deleted_behind_release :
    Custody.ofSettings settings = .ok custody ∧
      crossing.Reaches engine [.acted (.hold ⟨.container, "a", "redis:7"⟩),
        .acted (.hold ⟨.container, "b", "redis:7"⟩)] crossingHeld ∧
      ∃ early late, chronicle engine Custody.cleanup crossingHeld =
          early ++ .acted (.releaseContainer "b") :: late ∧
        .inspect "b" ∉ calls early ∧ (∀ moment ∈ late, moment.takes .container "b" = false) ∧
        (∀ selector ∈ crossingHeld.custody.testament,
          anonymous.carriesAll selector.labelFilters = false) ∧
        .kill "b" ∈ calls late ∧ .forceRemove "b" ∈ calls late := by
  refine ⟨opened, crossing_reaches, _, _, crossing_split, ?_, ?_, ?_, ?_, ?_⟩ <;> decide +kernel

end Bequest

end Reclaim
