import Reclaim.Proofs.Attempt
import Reclaim.Proofs.Simulation

/-!
# Work on one resource

Most of what a custody does is about one resource at a time.  In a simulation
that plays no stages, work on one resource depends on nothing but that resource
and the failures asked for (`carryOut_agree`), and each of its requests leaves
all other resources as they are (`reply_confined`).
-/

set_option autoImplicit false

namespace Reclaim

open Engine (Call)
open Engine.Simulated (World Container)
open Procedure

abbrev Resource : Type := ResourceKind × String

def Holding.resource (holding : Holding) : Resource := (holding.kind, holding.id)

def Engine.Call.subject? : Call → Option Resource
  | .inspect id | .kill id | .remove id _ _ => some (.container, id)
  | .listNetworks id | .removeNetwork id => some (.network, id)
  | .removeImage name _ => some (.image, name)
  | .listContainers _ | .prune _ _ => none

/-! ## Maps -/

theorem Keyed.eq_of_get? {β : Type} {first second : Keyed β}
    (same : ∀ key, first.get? key = second.get? key) : first = second := by
  apply eq_of_entries_eq
  have distinct (map : Keyed β) : map.entries.Nodup := by
    refine map.ascending.imp ?_
    intro entry other less equal
    rw [equal] at less
    exact String.lt_irrefl _ less
  have members : ∀ entry, entry ∈ first.entries ↔ entry ∈ second.entries := by
    intro entry
    rw [← get?_eq_some_iff, ← get?_eq_some_iff, same]
  refine List.Perm.eq_of_pairwise ?_ first.ascending second.ascending
    ((List.perm_ext_iff_of_nodup (distinct first) (distinct second)).mpr members)
  intro entry other _ _ less greater
  exact absurd (String.lt_trans less greater) (String.lt_irrefl _)

theorem Inventory.map_label_find? (inventory : Inventory) (id : String) :
    (inventory.find? .container id).map Holding.label = inventory.label? id := by
  simp [find?, label?, Function.comp_def]

theorem Inventory.distinct_resources (inventory : Inventory) :
    inventory.holdings.Pairwise fun first second => first.resource ≠ second.resource := by
  refine inventory.holdings_ordered.imp ?_
  rintro first second ⟨-, different⟩ same
  exact different (Prod.mk.inj same)

/-! ## Calls about one resource -/

namespace Engine.Simulated.World

def Same (first second : World) : Resource → Prop
  | (.container, id) => first.containers.get? id = second.containers.get? id
  | (.network, id) => first.networks.get? id = second.networks.get? id
  | (.image, name) => first.images.get? name = second.images.get? name

/-- Two states are the same for work on one resource. -/
structure Agree (resource : Resource) (first second : World) : Prop where
  stages : first.stages = second.stages
  failures : first.failures = second.failures
  same : first.Same second resource

/-- Only one resource may have changed. -/
structure Confined (resource : Resource) (before after : World) : Prop where
  stages : before.stages = after.stages
  failures : before.failures = after.failures
  elsewhere : ∀ other, other ≠ resource → before.Same after other

theorem Same.refl (world : World) (resource : Resource) : world.Same world resource := by
  obtain ⟨kind, id⟩ := resource
  cases kind <;> rfl

theorem Same.symm {first second : World} {resource : Resource} (same : first.Same second resource) :
    second.Same first resource := by
  obtain ⟨kind, id⟩ := resource
  cases kind <;> exact Eq.symm same

theorem Same.trans {first second third : World} {resource : Resource}
    (earlier : first.Same second resource) (later : second.Same third resource) :
    first.Same third resource := by
  obtain ⟨kind, id⟩ := resource
  cases kind <;> exact Eq.trans earlier later

theorem eq_of_same {first second : World} (same : ∀ resource, first.Same second resource) :
    first.containers = second.containers ∧ first.networks = second.networks ∧
      first.images = second.images :=
  ⟨Keyed.eq_of_get? fun id => same (.container, id), Keyed.eq_of_get? fun id => same (.network, id),
    Keyed.eq_of_get? fun name => same (.image, name)⟩

theorem Agree.refl (resource : Resource) (world : World) : Agree resource world world :=
  ⟨rfl, rfl, .refl world resource⟩

theorem Agree.symm {resource : Resource} {first second : World}
    (agree : Agree resource first second) : Agree resource second first :=
  ⟨agree.stages.symm, agree.failures.symm, agree.same.symm⟩

theorem Agree.trans {resource : Resource} {first second third : World}
    (earlier : Agree resource first second) (later : Agree resource second third) :
    Agree resource first third :=
  ⟨earlier.stages.trans later.stages, earlier.failures.trans later.failures,
    earlier.same.trans later.same⟩

theorem Confined.refl (resource : Resource) (world : World) : Confined resource world world :=
  ⟨rfl, rfl, fun other _ => .refl world other⟩

theorem Confined.trans {resource : Resource} {before middle after : World}
    (earlier : Confined resource before middle) (later : Confined resource middle after) :
    Confined resource before after :=
  ⟨earlier.stages.trans later.stages, earlier.failures.trans later.failures,
    fun other different => (earlier.elsewhere other different).trans
      (later.elsewhere other different)⟩

theorem Confined.agree {resource other : Resource} {before after : World}
    (confined : Confined resource before after) (different : other ≠ resource) :
    Agree other before after :=
  ⟨confined.stages, confined.failures, confined.elsewhere other different⟩

theorem answer_eq (world : World) (call : Call) :
    world.answer call =
      match world.failure? call.kindOf with
      | some fault => (.error ((Report.bare fault).attach injected), world.record call)
      | none => (world.record call).perform call := rfl

/-- What a call about a resource is answered, and what becomes of the resource, depends on that
resource only. -/
theorem perform_agree {resource : Resource} {call : Call} {first second : World}
    (about : call.subject? = some resource) (agree : Agree resource first second) :
    (first.perform call).1 = (second.perform call).1 ∧
      Agree resource (first.perform call).2 (second.perform call).2 := by
  obtain ⟨stages, failures, same⟩ := agree
  cases call with
  | inspect id =>
    cases about
    have found : first.containers.get? id = second.containers.get? id := same
    simp only [perform, found]
    cases second.containers.get? id <;> exact ⟨rfl, stages, failures, same⟩
  | kill id =>
    cases about
    have found : first.containers.get? id = second.containers.get? id := same
    simp only [perform, found]
    cases second.containers.get? id with
    | none => exact ⟨rfl, stages, failures, same⟩
    | some container =>
      refine ⟨rfl, stages, failures, ?_⟩
      simp only [Same, Keyed.get?_insert, if_true]
  | remove id force volumes =>
    cases about
    have found : first.containers.get? id = second.containers.get? id := same
    simp only [perform, found]
    cases second.containers.get? id with
    | none => exact ⟨rfl, stages, failures, same⟩
    | some container =>
      dsimp only
      split
      · exact ⟨rfl, stages, failures, same⟩
      · refine ⟨rfl, stages, failures, ?_⟩
        simp only [Same, Keyed.get?_erase, if_true]
  | listNetworks id =>
    cases about
    have found : first.networks.get? id = second.networks.get? id := same
    simp only [perform, found]
    cases second.networks.get? id <;> exact ⟨rfl, stages, failures, same⟩
  | removeNetwork id =>
    cases about
    have found : first.networks.get? id = second.networks.get? id := same
    have present : first.networks.contains id = second.networks.contains id := by
      rw [Keyed.contains, Keyed.contains, found]
    simp only [perform, present]
    by_cases there : second.networks.contains id = true
    · rw [if_pos there, if_pos there]
      refine ⟨rfl, stages, failures, ?_⟩
      simp only [Same, Keyed.get?_erase, if_true]
    · rw [if_neg there, if_neg there]
      exact ⟨rfl, stages, failures, same⟩
  | removeImage name force =>
    cases about
    have found : first.images.get? name = second.images.get? name := same
    have present : first.images.contains name = second.images.contains name := by
      rw [Keyed.contains, Keyed.contains, found]
    simp only [perform, present]
    by_cases there : second.images.contains name = true
    · rw [if_pos there, if_pos there]
      refine ⟨rfl, stages, failures, ?_⟩
      simp only [Same, Keyed.get?_erase, if_true]
    · rw [if_neg there, if_neg there]
      exact ⟨rfl, stages, failures, same⟩
  | listContainers labels => cases about
  | prune kind labels => cases about

theorem confined_containers (world : World) {id : String} {containers : Keyed Container}
    (others : ∀ other, id ≠ other → containers.get? other = world.containers.get? other) :
    Confined (.container, id) world { world with containers := containers } := by
  refine ⟨rfl, rfl, ?_⟩
  rintro ⟨kind, other⟩ different
  cases kind with
  | container => exact (others other fun same => different (by rw [same])).symm
  | network => rfl
  | image => rfl

theorem confined_networks (world : World) {id : String} {networks : Keyed String}
    (others : ∀ other, id ≠ other → networks.get? other = world.networks.get? other) :
    Confined (.network, id) world { world with networks := networks } := by
  refine ⟨rfl, rfl, ?_⟩
  rintro ⟨kind, other⟩ different
  cases kind with
  | container => rfl
  | network => exact (others other fun same => different (by rw [same])).symm
  | image => rfl

theorem confined_images (world : World) {name : String} {images : Keyed Unit}
    (others : ∀ other, name ≠ other → images.get? other = world.images.get? other) :
    Confined (.image, name) world { world with images := images } := by
  refine ⟨rfl, rfl, ?_⟩
  rintro ⟨kind, other⟩ different
  cases kind with
  | container => rfl
  | network => rfl
  | image => exact (others other fun same => different (by rw [same])).symm

theorem perform_confined {resource : Resource} {call : Call} (about : call.subject? = some resource)
    (world : World) : Confined resource world (world.perform call).2 := by
  cases call with
  | inspect id =>
    simp only [perform]
    split <;> exact .refl _ world
  | kill id =>
    cases about
    simp only [perform]
    split
    · refine confined_containers world fun other different => ?_
      rw [Keyed.get?_insert, if_neg different]
    · exact .refl _ world
  | remove id force volumes =>
    cases about
    simp only [perform]
    split
    · split
      · exact .refl _ world
      · refine confined_containers world fun other different => ?_
        rw [Keyed.get?_erase, if_neg different]
    · exact .refl _ world
  | listNetworks id =>
    simp only [perform]
    split <;> exact .refl _ world
  | removeNetwork id =>
    cases about
    simp only [perform]
    split
    · refine confined_networks world fun other different => ?_
      rw [Keyed.get?_erase, if_neg different]
    · exact .refl _ world
  | removeImage name force =>
    cases about
    simp only [perform]
    split
    · refine confined_images world fun other different => ?_
      rw [Keyed.get?_erase, if_neg different]
    · exact .refl _ world
  | listContainers labels => cases about
  | prune kind labels => cases about

theorem record_agree (resource : Resource) (world : World) (call : Call) :
    Agree resource world (world.record call) := by
  obtain ⟨kind, id⟩ := resource
  cases kind <;> exact ⟨rfl, rfl, rfl⟩

theorem record_confined (resource : Resource) (world : World) (call : Call) :
    Confined resource world (world.record call) :=
  ⟨rfl, rfl, fun other _ => (record_agree other world call).same⟩

theorem answer_agree {resource : Resource} {call : Call} {first second : World}
    (about : call.subject? = some resource) (agree : Agree resource first second) :
    (first.answer call).1 = (second.answer call).1 ∧
      Agree resource (first.answer call).2 (second.answer call).2 := by
  have recorded : Agree resource (first.record call) (second.record call) :=
    ((record_agree resource first call).symm.trans agree).trans (record_agree resource second call)
  have sameFailure : first.failure? call.kindOf = second.failure? call.kindOf := by
    rw [failure?, failure?, agree.failures]
  rw [answer_eq, answer_eq, sameFailure]
  cases second.failure? call.kindOf with
  | some fault => exact ⟨rfl, recorded⟩
  | none => exact perform_agree about recorded

theorem answer_confined {resource : Resource} {call : Call} (about : call.subject? = some resource)
    (world : World) : Confined resource world (world.answer call).2 := by
  have recorded := record_confined resource world call
  rw [answer_eq]
  cases world.failure? call.kindOf with
  | some fault => exact recorded
  | none => exact recorded.trans (perform_confined about (world.record call))

theorem listed_of_answer {world : World} {id : String} {listed : List Engine.ListedNetwork}
    (answered : (world.answer (.listNetworks id)).1 = .ok listed) :
    ∀ network ∈ listed, network.id = id := by
  rw [answer_eq] at answered
  cases failure : world.failure? (Call.listNetworks id).kindOf with
  | some fault =>
    rw [failure] at answered
    cases answered
  | none =>
    rw [failure] at answered
    simp only [perform] at answered
    cases found : (world.record (.listNetworks id)).networks.get? id with
    | none =>
      rw [found] at answered
      cases answered
      simp
    | some name =>
      rw [found] at answered
      cases answered
      simp

end Engine.Simulated.World

/-! ## Procedures about one resource -/

/-- Whether a request is about one resource, or about none at all. -/
def Request.Concerns (resource : Resource) : Request → Prop
  | .call asked => asked.subject? = some resource
  | .log _ => True
  | .label id => resource = (.container, id)
  | .forget kind id => resource = (kind, id)
  | .holdings | .watched | .testament => False

/-- A listing for a network shows that network only. -/
def Request.Narrow (request : Request) (reply : request.Reply) : Prop :=
  match request, reply with
  | .call (.listNetworks id), .ok listed => ∀ network ∈ listed, network.id = id
  | _, _ => True

/-- All requests of a procedure are about one resource, as long as listings for networks are
narrow. -/
def Procedure.Concerns {α : Type} (resource : Resource) : Procedure α → Prop
  | .done _ => True
  | .ask request next =>
    request.Concerns resource ∧ ∀ reply, request.Narrow reply → (next reply).Concerns resource

namespace Procedure

variable {α β : Type} {resource : Resource}

theorem concerns_done (value : α) : (Procedure.done value).Concerns resource := trivial

theorem concerns_log (event : Journal.Event) : (Procedure.log event).Concerns resource :=
  ⟨trivial, fun _ _ => trivial⟩

theorem Concerns.bind {work : Procedure α} {next : α → Procedure β}
    (concerns : work.Concerns resource) (continued : ∀ value, (next value).Concerns resource) :
    (work.bind next).Concerns resource := by
  induction work with
  | done value => exact continued value
  | ask request rest ih =>
    exact ⟨concerns.1, fun reply narrow => ih reply (concerns.2 reply narrow)⟩

end Procedure

theorem concerns_swallow {α : Type} {resource : Resource} (answer : Except Engine.Report α)
    (severity : Journal.Severity) (what id : String) :
    (Removal.swallow answer severity what id).Concerns resource := by
  cases answer with
  | ok value => exact concerns_done _
  | error report => exact (concerns_log _).bind fun _ => concerns_done _

theorem concerns_stop (id label : String) :
    (Removal.stop id label).Concerns (.container, id) := by
  refine (concerns_log _).bind fun _ => ⟨rfl, fun answer _ => ?_⟩
  refine (concerns_swallow answer _ _ _).bind fun stopped => ?_
  cases stopped with
  | none => exact concerns_done _
  | some _ => exact concerns_log _

theorem concerns_delete (id label : String) :
    (Removal.delete id label).Concerns (.container, id) := by
  refine ⟨rfl, fun look _ => ?_⟩
  cases look with
  | error report => exact (concerns_log _).bind fun _ => concerns_done _
  | ok again =>
    refine (concerns_log _).bind fun _ => ⟨rfl, fun answer _ => ?_⟩
    refine (concerns_swallow answer _ _ _).bind fun removed => ?_
    cases removed with
    | none => exact concerns_done _
    | some _ => exact (concerns_log _).bind fun _ => concerns_done _

theorem concerns_container (id : String) (label : Option String) :
    (Removal.container id label).Concerns (.container, id) := by
  refine ⟨rfl, fun look _ => ?_⟩
  cases look with
  | error report =>
    simp only [bind_eq, bind_done]
    split
    · exact (concerns_log _).bind fun _ => concerns_done _
    · exact (concerns_log _).bind fun _ => concerns_done _
  | ok state =>
    simp only [bind_eq, bind_done]
    split
    · exact (concerns_stop id _).bind fun _ => concerns_delete id _
    · exact concerns_delete id _

theorem concerns_networks {id : String} (outcome : Outcome) {listed : List Engine.ListedNetwork}
    (narrow : ∀ network ∈ listed, network.id = id) :
    (Removal.networks id (fun removed => request (.forget .network removed)) outcome
      listed).Concerns (.network, id) := by
  induction listed generalizing outcome with
  | nil => exact concerns_done outcome
  | cons network rest ih =>
    have own : network.id = id := narrow network (.head _)
    have others : ∀ network ∈ rest, network.id = id := fun network member =>
      narrow network (.tail _ member)
    have asked : (Call.removeNetwork network.id).subject? = some (.network, id) := by
      rw [Call.subject?, own]
    have told : ((.network, id) : Resource) = (.network, network.id) := by rw [own]
    simp only [Removal.networks, bind_eq, call_eq, log_eq, request_eq, bind_ask, bind_done]
    refine ⟨asked, fun answer _ => ?_⟩
    cases answer with
    | ok value => exact ⟨told, fun _ _ => ⟨trivial, fun _ _ => ih .removed others⟩⟩
    | error report =>
      dsimp only
      split
      · exact ⟨trivial, fun _ _ => ih outcome others⟩
      · exact ⟨trivial, fun _ _ => ih .removeFailed others⟩

theorem concerns_network (id : String) :
    (Removal.network id fun removed => request (.forget .network removed)).Concerns
      (.network, id) := by
  refine ⟨rfl, fun answer narrow => ?_⟩
  cases answer with
  | error report => exact (concerns_log _).bind fun _ => concerns_done _
  | ok listed => exact concerns_networks .alreadyGone narrow

theorem concerns_image (name : String) : (Removal.image name).Concerns (.image, name) := by
  refine (concerns_log _).bind fun _ => ⟨rfl, fun answer _ => ?_⟩
  cases answer with
  | ok value => exact concerns_done _
  | error report =>
    simp only [bind_eq, bind_done]
    split
    · exact (concerns_log _).bind fun _ => concerns_done _
    · exact (concerns_log _).bind fun _ => concerns_done _

theorem concerns_giveUp (holding : Holding) :
    (Custody.giveUp holding).Concerns holding.resource := by
  obtain ⟨kind, id, label⟩ := holding
  cases kind with
  | container =>
    refine ⟨rfl, fun held _ => (concerns_container id _).bind fun outcome => ?_⟩
    exact ⟨rfl, fun _ _ => concerns_done outcome⟩
  | network => exact (concerns_network id).bind fun outcome => ⟨rfl, fun _ _ => concerns_done _⟩
  | image => exact (concerns_image id).bind fun outcome => ⟨rfl, fun _ _ => concerns_done _⟩

/-! ## Work about one resource -/

namespace Scene

open Engine.Simulated (engine)

variable {α β : Type} {resource : Resource}

structure Agree (resource : Resource) (first second : Scene World) : Prop where
  world : first.world.Agree resource second.world
  held : first.custody.inventory.find? resource.1 resource.2 =
    second.custody.inventory.find? resource.1 resource.2

structure Confined (resource : Resource) (before after : Scene World) : Prop where
  world : before.world.Confined resource after.world
  held : ∀ other, other ≠ resource →
    before.custody.inventory.find? other.1 other.2 = after.custody.inventory.find? other.1 other.2

variable {first second third scene : Scene World}

theorem Agree.refl (resource : Resource) (scene : Scene World) : Agree resource scene scene :=
  ⟨.refl resource scene.world, rfl⟩

theorem Agree.symm (agree : Agree resource first second) : Agree resource second first :=
  ⟨agree.world.symm, agree.held.symm⟩

theorem Agree.trans (earlier : Agree resource first second) (later : Agree resource second third) :
    Agree resource first third :=
  ⟨earlier.world.trans later.world, earlier.held.trans later.held⟩

theorem Confined.refl (resource : Resource) (scene : Scene World) : Confined resource scene scene :=
  ⟨.refl resource scene.world, fun _ _ => rfl⟩

theorem Confined.agree {other : Resource} (confined : Confined resource first second)
    (different : other ≠ resource) : Agree other first second :=
  ⟨confined.world.agree different, confined.held other different⟩

theorem narrow_reply (unstaged : scene.world.stages = .empty) (request : Request) :
    request.Narrow (reply engine request scene).1 := by
  cases request with
  | call call =>
    rw [reply_call_of_unstaged unstaged]
    cases call with
    | listNetworks id =>
      cases answered : (scene.world.answer (.listNetworks id)).1 with
      | error report => exact trivial
      | ok listed => exact World.listed_of_answer answered
    | _ => exact trivial
  | _ => exact trivial

theorem reply_agree {request : Request} (concerns : request.Concerns resource)
    (unstaged : first.world.stages = .empty) (agree : Agree resource first second) :
    (reply engine request first).1 = (reply engine request second).1 ∧
      Agree resource (reply engine request first).2 (reply engine request second).2 := by
  have unstagedToo : second.world.stages = .empty := agree.world.stages.symm.trans unstaged
  cases request with
  | call call =>
    rw [reply_call_of_unstaged unstaged, reply_call_of_unstaged unstagedToo]
    obtain ⟨sameAnswer, sameAfter⟩ := World.answer_agree concerns agree.world
    exact ⟨sameAnswer, sameAfter, agree.held⟩
  | log event => exact ⟨rfl, agree.world, agree.held⟩
  | label id =>
    cases concerns
    have labels := congrArg (Option.map Holding.label) agree.held
    rw [Inventory.map_label_find?, Inventory.map_label_find?] at labels
    exact ⟨labels, agree⟩
  | forget kind id =>
    cases concerns
    refine ⟨rfl, agree.world, ?_⟩
    simp only [reply, Custody.forget, Inventory.find?_erase, true_and, if_true]
  | holdings => exact absurd concerns id
  | watched => exact absurd concerns id
  | testament => exact absurd concerns id

theorem reply_confined {request : Request} (concerns : request.Concerns resource)
    (unstaged : scene.world.stages = .empty) :
    Confined resource scene (reply engine request scene).2 := by
  cases request with
  | call call =>
    rw [reply_call_of_unstaged unstaged]
    exact ⟨World.answer_confined concerns scene.world, fun _ _ => rfl⟩
  | forget kind id =>
    cases concerns
    refine ⟨.refl _ scene.world, fun other different => ?_⟩
    have elsewhere : ¬ (kind = other.1 ∧ id = other.2) := by
      rintro ⟨rfl, rfl⟩
      exact different rfl
    simp only [reply, Custody.forget, Inventory.find?_erase, if_neg elsewhere]
  | log event => exact ⟨.refl _ scene.world, fun _ _ => rfl⟩
  | label id => exact .refl resource scene
  | holdings => exact .refl resource scene
  | watched => exact .refl resource scene
  | testament => exact .refl resource scene

/-- Work about one resource goes the same way in all scenes in which that resource is the same. -/
theorem carryOut_agree {work : Procedure α} (concerns : work.Concerns resource)
    (unstaged : first.world.stages = .empty) (agree : Agree resource first second) :
    (first.carryOut engine work).1 = (second.carryOut engine work).1 ∧
      chronicle engine work first = chronicle engine work second ∧
      Agree resource (first.carryOut engine work).2 (second.carryOut engine work).2 := by
  induction work generalizing first second with
  | done value => exact ⟨rfl, rfl, agree⟩
  | ask request next ih =>
    have unstagedToo : second.world.stages = .empty := agree.world.stages.symm.trans unstaged
    obtain ⟨sameReply, sameAfter⟩ := reply_agree concerns.1 unstaged agree
    have unstagedLater : (reply engine request first).2.world.stages = .empty :=
      (reply_keeps_of_unstaged unstaged request).1.trans unstaged
    obtain ⟨sameValue, sameTale, sameFinally⟩ :=
      ih (reply engine request first).1 (concerns.2 _ (narrow_reply unstaged request))
        unstagedLater sameAfter
    rw [carryOut_ask, carryOut_ask, chronicle_ask, chronicle_ask,
      interruptions_of_unstaged unstaged, interruptions_of_unstaged unstagedToo, ← sameReply,
      sameTale]
    exact ⟨sameValue, rfl, sameFinally⟩

end Scene

end Reclaim
