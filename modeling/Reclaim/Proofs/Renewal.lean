import Reclaim.Proofs.Release

/-!
# Registering again during a drain

Another holder may register a resource again that a drain is about to give up.
A drain lets go of a resource by its id, at the end of the attempt to give it
up, and does not know of the new registration.  So what is registered again is
still held after the drain if and only if its attempt had ended by then, apart
from networks that are deleted (`registered_again`).
-/

set_option autoImplicit false

namespace Reclaim

open Engine (Call ListedNetwork)
open Procedure

/-! ## Where other holders act -/

namespace Scene

variable {ω α : Type} {engine : Engine ω}

/-- Other holders act while a call is on its way, and nothing else happens until it is answered. -/
theorem call_of_acted {work : Procedure α} {scene : Scene ω} {early late : List Moment}
    {act : HolderAct} (split : chronicle engine work scene = early ++ .acted act :: late) :
    ∃ acts asked answer rest,
      late = List.map Moment.acted acts ++ .answered (.call asked) answer :: rest := by
  induction work generalizing scene early with
  | done value => cases early <;> cases split
  | ask request next ih =>
    rw [chronicle_ask, List.append_eq_append_iff] at split
    rcases split with ⟨sooner, rfl, same⟩ | ⟨acted, same, whole⟩
    · cases sooner with
      | nil => cases same
      | cons moment sooner => exact ih _ (List.cons.inj same).2
    · obtain ⟨before, behind, sameActs, rfl, rfl⟩ := List.map_eq_append_iff.mp same
      cases behind with
      | nil => cases whole
      | cons other acts =>
        cases request with
        | call asked => exact ⟨acts, asked, _, _, (List.cons.inj whole).2⟩
        | _ => cases before <;> cases sameActs

end Scene

theorem Orderly.of_acted {early late : List Moment} {act : HolderAct}
    (orderly : Orderly (early ++ .acted act :: late)) : Orderly late := by
  generalize same : early ++ Moment.acted act :: late = whole at orderly
  induction orderly generalizing early with
  | none => cases early <;> cases same
  | plain plain undeleted orderly ih =>
    cases early with
    | nil =>
      obtain ⟨-, rfl⟩ := List.cons.inj same
      exact orderly
    | cons moment rest => exact ih (List.cons.inj same).2
  | deleted orderly ih =>
    rcases early with _ | ⟨moment, _ | ⟨next, rest⟩⟩
    · cases (List.cons.inj same).1
    · cases (List.cons.inj (List.cons.inj same).2).1
    · exact ih (List.cons.inj (List.cons.inj same).2).2
  | finished orderly ih =>
    rcases early with _ | ⟨moment, _ | ⟨next, rest⟩⟩
    · cases (List.cons.inj same).1
    · cases (List.cons.inj (List.cons.inj same).2).1
    · exact ih (List.cons.inj (List.cons.inj same).2).2

/-! ## What is held and what is not -/

/-- As long as nobody else registers a resource or takes it over, it is held until it is let go
of. -/
theorem Custody.contains_foldl_of_undisturbed {kind : ResourceKind} {id : String}
    (tale : List Moment) (custody : Custody)
    (undisturbed : ∀ moment ∈ tale,
      moment.takes kind id = false ∧ moment.releases kind id = false) :
    (tale.foldl after custody).inventory.contains kind id =
      (custody.inventory.contains kind id && !tale.any (Moment.forgets kind id)) := by
  induction tale generalizing custody with
  | nil => simp
  | cons moment rest ih =>
    obtain ⟨⟨untaken, unreleased⟩, later⟩ := List.forall_mem_cons.mp undisturbed
    rw [List.foldl_cons, ih _ later, contains_after, untaken, unreleased, List.any_cons]
    cases moment.forgets kind id <;> simp

theorem cleanup_orderly : Custody.cleanup.Ensures fun tale _ => Orderly tale := by
  refine (ensures_silent rfl _ _).mpr fun held => ?_
  refine (drain_or_nothing_ensures held).mono ?_
  rintro tale _ ⟨event, later, plain, -, orderly, rfl⟩
  exact .plain rfl rfl (.plain plain rfl orderly)

namespace Scene

variable {ω : Type} {engine : Engine ω} {scene : Scene ω}

/-- The attempt to give a resource up comes to its end once: before another holder acts, or
afterwards. -/
theorem finished_once {early late : List Moment} {act : HolderAct} {kind : ResourceKind}
    {id : String} (held : scene.custody.inventory.contains kind id = true)
    (split : chronicle engine Custody.cleanup scene = early ++ .acted act :: late) :
    (kind, id) ∈ finished late ↔ (kind, id) ∉ finished early := by
  have whole : finished early ++ finished late =
      scene.custody.inventory.holdings.map Holding.resource := by
    have ended := finished_cleanup engine scene
    rw [split, finished_append] at ended
    exact ended
  have listed : (kind, id) ∈ finished early ++ finished late := by
    obtain ⟨holding, member, rfl, rfl⟩ := Inventory.contains_iff_listed.mp held
    rw [whole]
    exact List.mem_map_of_mem member
  have distinct : (finished early ++ finished late).Nodup := by
    rw [whole]
    exact List.pairwise_map.mpr scene.custody.inventory.distinct_resources
  constructor
  · intro inLate inEarly
    exact (List.nodup_append.mp distinct).2.2 _ inEarly _ inLate rfl
  · intro notYet
    exact (List.mem_append.mp listed).resolve_left notYet

/-- Whether a resource that is registered during a drain is still held after it. -/
theorem kept_iff {early late : List Moment} {holding : Holding}
    (held : scene.custody.inventory.contains holding.kind holding.id = true)
    (split : chronicle engine Custody.cleanup scene = early ++ .acted (.hold holding) :: late)
    (undisturbed : ∀ moment ∈ late, moment.takes holding.kind holding.id = false ∧
      moment.releases holding.kind holding.id = false) :
    (scene.carryOut engine Custody.cleanup).2.custody.inventory.contains
        holding.kind holding.id = true ↔
      holding.resource ∈ finished early ∧
        ¬ (holding.kind = .network ∧ Deleted holding.id late) := by
  have orderly : Orderly (early ++ .acted (.hold holding) :: late) :=
    split ▸ cleanup_orderly.holds engine scene
  have registered : ((early.foldl Custody.after scene.custody).after
      (.acted (.hold holding))).inventory.contains holding.kind holding.id = true := by
    simp [Custody.contains_after, Moment.takes]
  rw [custody_carryOut, split, List.foldl_append, List.foldl_cons,
    Custody.contains_foldl_of_undisturbed late _ undisturbed, registered, Bool.true_and,
    Bool.not_eq_true', Bool.eq_false_iff, Ne, orderly.of_acted.forgets_iff,
    finished_once held split, not_or, Decidable.not_not]
  rfl

end Scene

/-! ## Deletions -/

def Holding.deletion (holding : Holding) : Call :=
  match holding.kind with
  | .container => .forceRemove holding.id
  | .network => .removeNetwork holding.id
  | .image => .removeImage holding.id true

def Exchange.networks : Exchange → List ListedNetwork
  | ⟨.listNetworks _, .ok listed⟩ => listed
  | _ => []

def shownNetworks (made : List Exchange) : List String :=
  made.flatMap fun exchange => exchange.networks.map ListedNetwork.id

/-- When a resource is deleted in the rest of a drain, after some calls have been made: a container
if its walk gets as far as that, and has not yet; a network if it has not been deleted as often as
it is shown; and an image if it has not been deleted yet. -/
def Holding.Pursued (holding : Holding) (whole : List Moment) (made later : List Call) : Prop :=
  match holding.kind with
  | .container => ∃ outcome,
      ContainerWalk holding.id (exchangesAbout holding.resource whole) outcome ∧
        (holding.deletion ∈ later ↔
          (outcome = .removed ∨ outcome = .removeFailed) ∧ holding.deletion ∉ made)
  | .network => holding.deletion ∈ later ↔
      made.count holding.deletion < (shownNetworks (exchanges whole)).count holding.id
  | .image => holding.deletion ∈ later ↔ holding.deletion ∉ made

theorem count_calls_about {resource : Resource} {call : Call}
    (about : call.subject? = some resource) (tale : List Moment) :
    ((exchangesAbout resource tale).map Exchange.call).count call = (calls tale).count call := by
  rw [exchangesAbout, calls]
  induction exchanges tale with
  | nil => rfl
  | cons exchange rest ih =>
    by_cases same : exchange.call = call
    · simp [Exchange.about, same, about, ih]
    · rw [List.map_cons, List.count_cons_of_ne same, ← ih, List.filter_cons]
      split
      · rw [List.map_cons, List.count_cons_of_ne same]
      · rfl

/-- A container is deleted once, if its walk gets as far as that. -/
theorem ContainerWalk.count_deletion {id : String} {made : List Exchange} {outcome : Outcome}
    (walk : ContainerWalk id made outcome) :
    (made.map Exchange.call).count (.forceRemove id) =
      if outcome = .removed ∨ outcome = .removeFailed then 1 else 0 := by
  cases walk with
  | gone missing => simp [Call.forceRemove]
  | unclear present => simp [Call.forceRemove]
  | @found state stops deletion outcome stopped deletes =>
    have spared : (stops.map Exchange.call).count (.forceRemove id) = 0 := by
      unfold Stops at stopped
      split at stopped
      · obtain ⟨answer, rfl⟩ := stopped
        simp [Call.forceRemove]
      · rw [stopped]
        rfl
    rw [Call.forceRemove] at spared ⊢
    cases deletes <;> simp [spared, Call.forceRemove]

theorem shownNetworks_append (first second : List Exchange) :
    shownNetworks (first ++ second) = shownNetworks first ++ shownNetworks second :=
  List.flatMap_append

theorem shownNetworks_eq_nil {made : List Exchange}
    (unlisted : ∀ exchange ∈ made, ∀ id, exchange.call ≠ .listNetworks id) :
    shownNetworks made = [] := by
  refine List.flatMap_eq_nil_iff.mpr fun exchange member => ?_
  have other := unlisted exchange member
  obtain ⟨call, answer⟩ := exchange
  cases call with
  | listNetworks id => exact absurd rfl (other id)
  | _ => rfl

def deletedNetwork? : Call → Option String
  | .removeNetwork id => some id
  | .inspect _ | .kill _ | .remove _ _ _ | .listContainers _ | .listNetworks _ | .removeImage _ _
  | .prune _ _ => none

def deletedNetworks (made : List Call) : List String := made.filterMap deletedNetwork?

theorem deletedNetworks_append (first second : List Call) :
    deletedNetworks (first ++ second) = deletedNetworks first ++ deletedNetworks second :=
  List.filterMap_append

theorem deletedNetworks_deletions (networks : List ListedNetwork) :
    deletedNetworks (networks.map deletion) = networks.map ListedNetwork.id := by
  have itself : deletedNetwork? ∘ deletion = some ∘ ListedNetwork.id := rfl
  rw [deletedNetworks, List.filterMap_map, itself, List.filterMap_eq_map]

theorem deletedNetworks_eq_nil {made : List Call}
    (undeleted : ∀ call ∈ made, ∀ id, call ≠ .removeNetwork id) : deletedNetworks made = [] := by
  refine List.filterMap_eq_nil_iff.mpr fun call member => ?_
  have other := undeleted call member
  cases call with
  | removeNetwork id => exact absurd rfl (other id)
  | _ => rfl

theorem count_deletedNetworks (made : List Call) (id : String) :
    made.count (.removeNetwork id) = (deletedNetworks made).count id := by
  induction made with
  | nil => rfl
  | cons call rest ih =>
    rw [List.count_cons, ih]
    cases call <;>
      simp [deletedNetworks, deletedNetwork?, List.filterMap_cons, List.count_cons]

/-- Of the answers in a walk only the listing shows networks, and these are deleted in order. -/
theorem NetworkWalk.shown {target : String} {made : List Exchange}
    (walk : NetworkWalk target made) :
    ∃ answer, ⟨.listNetworks target, answer⟩ ∈ made ∧
      shownNetworks made = (listedIn answer).map ListedNetwork.id ∧
      deletedNetworks (made.map Exchange.call) = (listedIn answer).map ListedNetwork.id := by
  obtain ⟨answer, deletions, rfl, called⟩ := walk
  have silent : shownNetworks deletions = [] := by
    refine shownNetworks_eq_nil fun exchange member other same => ?_
    have inListing := List.mem_map_of_mem (f := Exchange.call) member
    rw [called] at inListing
    obtain ⟨network, -, deleted⟩ := List.mem_map.mp inListing
    cases deleted.trans same
  refine ⟨answer, .head _, ?_, ?_⟩
  · rw [← List.singleton_append, shownNetworks_append, silent, List.append_nil]
    cases answer <;> simp [shownNetworks, Exchange.networks, listedIn]
  · rw [List.map_cons, called]
    exact deletedNetworks_deletions (listedIn answer)

theorem Attempt.call_ne {holding : Holding} {tale : List Moment} (attempt : Attempt holding tale)
    (other : holding.kind ≠ .network) {call : Call} (member : call ∈ calls tale) (id : String) :
    call.subject? ≠ some (.network, id) := by
  rw [attempt.subject other member]
  intro same
  exact other (Prod.mk.inj (Option.some.inj same)).1

theorem Attempt.shown_eq_nil {holding : Holding} {tale : List Moment}
    (attempt : Attempt holding tale) (other : holding.kind ≠ .network) :
    shownNetworks (exchanges tale) = [] := by
  refine shownNetworks_eq_nil fun exchange member id same => ?_
  exact attempt.call_ne other (List.mem_map_of_mem member) id (same ▸ rfl)

theorem Attempt.deletedNetworks_eq {holding : Holding} {tale : List Moment}
    (attempt : Attempt holding tale) :
    deletedNetworks (calls tale) = shownNetworks (exchanges tale) := by
  by_cases network : holding.kind = .network
  · have walk := attempt.walk
    obtain ⟨kind, target, label⟩ := holding
    cases network
    obtain ⟨answer, -, shown, deleted⟩ := NetworkWalk.shown walk
    exact deleted.trans shown.symm
  · rw [attempt.shown_eq_nil network]
    refine deletedNetworks_eq_nil fun call member id same => ?_
    exact attempt.call_ne network member id (same ▸ rfl)

theorem Attempts.deletedNetworks_eq {held : List Holding} {tale : List Moment}
    (attempts : Attempts held tale) :
    deletedNetworks (calls tale) = shownNetworks (exchanges tale) := by
  induction attempts with
  | none => rfl
  | next attempt attempts ih =>
    rw [exchanges_append, shownNetworks_append, calls_append, deletedNetworks_append, ih,
      attempt.deletedNetworks_eq]

theorem mem_later_iff {α : Type} [DecidableEq α] {item : α} {earlier later : List α}
    (once : (earlier ++ later).count item ≤ 1) :
    item ∈ later ↔ item ∈ earlier ++ later ∧ item ∉ earlier := by
  rw [List.count_append] at once
  rw [List.mem_append, ← List.count_pos_iff, ← List.count_pos_iff]
  omega

theorem Holding.subject_deletion (holding : Holding) :
    holding.deletion.subject? = some holding.resource := by
  obtain ⟨kind, id, label⟩ := holding
  cases kind <;> rfl

namespace Scene

variable {ω : Type} {engine : Engine ω} {scene : Scene ω}

/-- What is exchanged in a drain about a container or an image that was held at its beginning. -/
theorem walk_about_cleanup (engine : Engine ω) {holding : Holding}
    (held : scene.custody.inventory.contains holding.kind holding.id = true)
    (single : holding.kind ≠ .network) :
    holding.Walk (exchangesAbout holding.resource (chronicle engine Custody.cleanup scene)) := by
  obtain ⟨⟨kind, id, label⟩, listed, sameKind, sameId⟩ := Inventory.contains_iff_listed.mp held
  obtain ⟨event, later, -, attempts, told⟩ := cleanup_chronicle engine scene
  rw [told]
  cases holding
  cases sameKind
  cases sameId
  have walked := attempts.walk_about scene.custody.inventory.distinct_resources listed single
  exact walked

theorem pursued_cleanup {holding : Holding} {made later : List Call}
    (held : scene.custody.inventory.contains holding.kind holding.id = true)
    (called : calls (chronicle engine Custody.cleanup scene) = made ++ later) :
    holding.Pursued (chronicle engine Custody.cleanup scene) made later := by
  have counted := count_calls_about holding.subject_deletion
    (chronicle engine Custody.cleanup scene)
  rw [called] at counted
  obtain ⟨kind, id, label⟩ := holding
  cases kind with
  | container =>
    obtain ⟨outcome, walk⟩ := walk_about_cleanup engine held nofun
    refine ⟨outcome, walk, ?_⟩
    have once : (made ++ later).count (.forceRemove id) =
        if outcome = .removed ∨ outcome = .removeFailed then 1 else 0 :=
      counted.symm.trans walk.count_deletion
    change .forceRemove id ∈ later ↔ _ ∧ .forceRemove id ∉ made
    rw [mem_later_iff (by rw [once]; split <;> decide), ← List.count_pos_iff, once]
    split <;> simp [*]
  | network =>
    have planned : (made ++ later).count (.removeNetwork id) =
        (shownNetworks (exchanges (chronicle engine Custody.cleanup scene))).count id := by
      obtain ⟨event, rest, -, attempts, told⟩ := cleanup_chronicle engine scene
      rw [← called, told, count_deletedNetworks]
      exact congrArg (List.count id) attempts.deletedNetworks_eq
    change .removeNetwork id ∈ later ↔ made.count (.removeNetwork id) < _
    rw [← planned, List.count_append, ← List.count_pos_iff]
    omega
  | image =>
    have walk := walk_about_cleanup engine held nofun
    have once : (made ++ later).count (.removeImage id true) = 1 := by
      have single : (exchangesAbout (.image, id) (chronicle engine Custody.cleanup scene)).map
          Exchange.call = [.removeImage id true] := walk
      refine counted.symm.trans ?_
      change ((exchangesAbout (.image, id) _).map Exchange.call).count (.removeImage id true) = 1
      rw [single, List.count_singleton_self]
    change .removeImage id true ∈ later ↔ .removeImage id true ∉ made
    rw [mem_later_iff (Nat.le_of_eq once), ← List.count_pos_iff, once]
    simp

end Scene

open Scene

/-- What happens to a resource that was held when a drain began, and that another holder registers
again while a call of the drain is on its way, if nobody has a hand in it afterwards.  It is held
after the drain if and only if the attempt to give it up had come to its end before; unless it is a
network, and deleted after all.  If it had not, then the new registration is lost, and whether the
resource is deleted after it depends on how far the attempt had got and on what is answered. -/
theorem registered_again {ω : Type} {engine : Engine ω} {scene : Scene ω}
    {early late : List Moment} {holding : Holding}
    (held : scene.custody.inventory.contains holding.kind holding.id = true)
    (split : chronicle engine Custody.cleanup scene = early ++ .acted (.hold holding) :: late)
    (undisturbed : ∀ moment ∈ late, moment.takes holding.kind holding.id = false ∧
      moment.releases holding.kind holding.id = false) :
    ∃ acts asked answer rest,
      late = List.map Moment.acted acts ++ .answered (.call asked) answer :: rest ∧
      ((scene.carryOut engine Custody.cleanup).2.custody.inventory.contains
          holding.kind holding.id = true ↔
        holding.resource ∈ finished early ∧
          ¬ (holding.kind = .network ∧ Deleted holding.id late)) ∧
      holding.Pursued (chronicle engine Custody.cleanup scene) (calls early ++ [asked])
        (calls rest) := by
  obtain ⟨acts, asked, answer, rest, shape⟩ := call_of_acted split
  refine ⟨acts, asked, answer, rest, shape, kept_iff held split undisturbed,
    pursued_cleanup held ?_⟩
  have called : calls (.acted (.hold holding) :: late) = asked :: calls rest := by
    rw [shape]
    change calls (List.map Moment.acted acts ++ _) = _
    simp [calls]
  rw [split, calls_append, called]
  simp

/-! ### A registration that is lost -/

theorem split_at_registration {kind : ResourceKind} {id : String} {tale : List Moment}
    (registered : tale.any (Moment.takes kind id) = true) :
    ∃ label, tale = upTo (Moment.takes kind id) tale ++
      .acted (.hold ⟨kind, id, label⟩) :: behind (Moment.takes kind id) tale := by
  obtain ⟨moment, takes, split⟩ := split_at_first registered
  cases moment with
  | answered request reply => cases takes
  | acted act =>
    cases act with
    | hold holding =>
      obtain ⟨rfl, rfl⟩ := of_decide_eq_true takes
      exact ⟨holding.label, split⟩
    | _ => cases takes

namespace Bequest

open Engine.Simulated (World engine)

def returning : Scene World :=
  (opening custody { World.empty with
    containers := (Keyed.empty.insert "a" anonymous).insert "b" anonymous
    stages := Keyed.empty.insert "b" [[.act (.hold ⟨.container, "a", "redis:7"⟩)]] }).actAll
      [.hold ⟨.container, "a", "redis:7"⟩, .hold ⟨.container, "b", "redis:7"⟩]

/-- By then the attempt to give the first one up has ended, so it is held after the drain. -/
theorem registered_again_returning :
    returning.custody.inventory.contains .container "a" = true ∧
      (∃ early label late, chronicle engine Custody.cleanup returning =
          early ++ .acted (.hold ⟨.container, "a", label⟩) :: late ∧
        (.container, "a") ∈ finished early) ∧
      (returning.carryOut engine Custody.cleanup).2.custody.inventory.contains
        .container "a" = true := by
  have held : returning.custody.inventory.contains .container "a" = true := by decide +kernel
  obtain ⟨label, split⟩ := @split_at_registration .container "a"
    (chronicle engine Custody.cleanup returning) (by decide +kernel)
  have ended : (.container, "a") ∈ finished (upTo (Moment.takes .container "a")
      (chronicle engine Custody.cleanup returning)) := by
    decide +kernel
  have undisturbed : ∀ moment ∈ behind (Moment.takes .container "a")
      (chronicle engine Custody.cleanup returning),
      moment.takes .container "a" = false ∧ moment.releases .container "a" = false := by
    decide +kernel
  obtain ⟨-, -, -, -, -, kept, -⟩ :=
    @registered_again _ _ _ _ _ ⟨.container, "a", label⟩ held split undisturbed
  exact ⟨held, ⟨_, label, _, split, ended⟩, kept.mpr ⟨ended, nofun⟩⟩

/-- A scene with a container that is registered again when it is first looked at.  It cannot be
looked at. -/
def clouded : Scene World :=
  (opening custody { World.empty with
    containers := Keyed.empty.insert "c1" anonymous
    failures := [(.inspect, .transport "inspect" "daemon busy")]
    stages := Keyed.empty.insert "c1" [[.act (.hold ⟨.container, "c1", "redis:7"⟩)]] }).act
      (.hold ⟨.container, "c1", "redis:7"⟩)

/-- The drain lets go of the container, and has not deleted it: nobody answers for it any more. -/
theorem registration_lost :
    clouded.custody.inventory.contains .container "c1" = true ∧
      (∃ early label late, chronicle engine Custody.cleanup clouded =
          early ++ .acted (.hold ⟨.container, "c1", label⟩) :: late ∧
        (∀ moment ∈ late, moment.releases .container "c1" = false) ∧
        .forceRemove "c1" ∉ calls late) ∧
      (clouded.carryOut engine Custody.cleanup).2.custody.inventory.contains
        .container "c1" = false ∧
      (clouded.carryOut engine Custody.cleanup).2.world.containers.contains "c1" = true := by
  obtain ⟨label, split⟩ := @split_at_registration .container "c1"
    (chronicle engine Custody.cleanup clouded) (by decide +kernel)
  refine ⟨by decide +kernel, ⟨_, label, _, split, ?_, ?_⟩, ?_, ?_⟩ <;> decide +kernel

end Bequest

end Reclaim
