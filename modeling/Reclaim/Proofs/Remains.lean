import Reclaim.Proofs.Holdings
import Reclaim.Proofs.Simulation

/-!
# What removals and sweeps leave

In a calm simulation every removal gets rid of what it is about and of nothing
else.  Drains and sweeps are made of removals, so they leave what passes the
sieves of all of these.
-/

set_option autoImplicit false

namespace Reclaim

open Engine (Call SweepKind ListedContainer)
open Engine.Simulated (World Container absent)
open Procedure

/-! ## Removals -/

theorem inspect_of_calm {world : World} (calm : world.Calm) (id : String) :
    world.answer (.inspect id) =
      match world.containers.get? id with
      | some container => (.ok container.state, world.record (.inspect id))
      | none => (.error (absent .container id), world.record (.inspect id)) := by
  rw [calm.answer_eq (by simp [Call.kindOf])]
  rfl

theorem stop_leads (id label : String) (world : World) :
    (Removal.stop id label).Leads world fun _ after => Besides id world after := by
  have killed := World.kill_besides world id
  simp only [Removal.stop, Removal.swallow, bind_eq, pure_eq, call_eq, log_eq, bind_ask, bind_done,
    leads_log, leads_call]
  cases (world.answer (.kill id)).1 with
  | ok value => simpa using killed
  | error report => simpa using killed

theorem delete_leads (id label : String) {world : World} (calm : world.Calm) :
    (Removal.delete id label).Leads world fun _ after =>
      Besides id world after ∧ after.containers.get? id = none := by
  simp only [Removal.delete, Removal.swallow, bind_eq, pure_eq, call_eq, log_eq, bind_ask,
    bind_done, leads_call]
  rw [inspect_of_calm calm]
  cases found : world.containers.get? id with
  | none =>
    intro _
    exact ⟨.record id world _, found⟩
  | some container =>
    have recorded : Besides id world (world.record (.inspect id)) := .record id world _
    have calmStill := calm.record (.inspect id)
    obtain ⟨besides, gone⟩ := World.forceRemove_besides calmStill id
    simp only [leads_log, leads_call]
    cases ((world.record (.inspect id)).answer (.forceRemove id)).1 with
    | ok value => simpa using ⟨recorded.trans besides, gone⟩
    | error report => simpa using ⟨recorded.trans besides, gone⟩

/-- In a calm simulation a container is gone once it has been given up, killed or not. -/
theorem container_leads (id : String) (label : Option String) {world : World}
    (calm : world.Calm) :
    (Removal.container id label).Leads world fun _ => Left (.without .container id) world := by
  simp only [Removal.container, bind_eq, pure_eq, call_eq, log_eq, bind_ask, bind_done, leads_call]
  rw [inspect_of_calm calm]
  have recorded : Besides id world (world.record (.inspect id)) := .record id world _
  have calmStill := calm.record (.inspect id)
  cases found : world.containers.get? id with
  | none =>
    intro _
    exact recorded.left found
  | some container =>
    dsimp only
    split
    · refine (stop_leads id _ _).bind ?_
      intro _ stopped besides
      have calmStopped : stopped.Calm := besides.calm calmStill
      refine (delete_leads id _ calmStopped).mono ?_
      rintro _ after ⟨deleting, gone⟩
      exact ((recorded.trans besides).trans deleting).left gone
    · refine (delete_leads id _ calmStill).mono ?_
      rintro _ after ⟨deleting, gone⟩
      exact (recorded.trans deleting).left gone

theorem removeNetwork_left (id : String) {world : World} (calm : world.Calm) :
    Left (.without .network id) world (world.answer (.removeNetwork id)).2 := by
  rw [calm.answer_eq (by simp [Call.kindOf])]
  simp only [World.perform]
  cases present : (world.record (.removeNetwork id)).networks.contains id with
  | true =>
    rw [if_pos rfl]
    exact ⟨fun _ => (filter_true _).symm, world.networks.get?_erase_eq_filter id,
      fun _ => (filter_true _).symm, rfl, rfl⟩
  | false =>
    rw [if_neg Bool.false_ne_true]
    exact ⟨fun _ => (filter_true _).symm, Keyed.get?_eq_filter_of_absent present,
      fun _ => (filter_true _).symm, rfl, rfl⟩

theorem removeImage_left (name : String) {world : World} (calm : world.Calm) :
    Left (.without .image name) world (world.answer (.removeImage name true)).2 := by
  rw [calm.answer_eq (by simp [Call.kindOf])]
  simp only [World.perform]
  cases present : (world.record (.removeImage name true)).images.contains name with
  | true =>
    rw [if_pos rfl]
    exact ⟨fun _ => (filter_true _).symm, fun _ => (filter_true _).symm,
      world.images.get?_erase_eq_filter name, rfl, rfl⟩
  | false =>
    rw [if_neg Bool.false_ne_true]
    exact ⟨fun _ => (filter_true _).symm, fun _ => (filter_true _).symm,
      Keyed.get?_eq_filter_of_absent present, rfl, rfl⟩

theorem listNetworks_of_calm {world : World} (calm : world.Calm) (id : String) :
    world.answer (.listNetworks id) =
      match world.networks.get? id with
      | some name => (.ok [⟨id, name⟩], world.record (.listNetworks id))
      | none => (.ok [], world.record (.listNetworks id)) := by
  rw [calm.answer_eq (by simp [Call.kindOf])]
  rfl

theorem network_leads (id : String) {world : World} (calm : world.Calm) :
    (Removal.network id fun removed => request (.forget .network removed)).Leads world
      fun _ => Left (.without .network id) world := by
  simp only [Removal.network, Removal.swallow, bind_eq, pure_eq, call_eq, log_eq, bind_ask,
    bind_done, leads_call]
  rw [listNetworks_of_calm calm]
  cases found : world.networks.get? id with
  | none =>
    have absent : world.networks.contains id = false := by simp [Keyed.contains, found]
    exact ⟨fun _ => (filter_true _).symm, Keyed.get?_eq_filter_of_absent absent,
      fun _ => (filter_true _).symm, rfl, rfl⟩
  | some name =>
    have left : Left (.without .network id) world
        ((world.record (.listNetworks id)).answer (.removeNetwork id)).2 :=
      World.left_of_record (removeNetwork_left id (calm.record _))
    simp only [bind_done, Removal.networks, bind_eq, pure_eq, request_eq, call_eq, log_eq, bind_ask,
      leads_call]
    cases ((world.record (.listNetworks id)).answer (.removeNetwork id)).1 with
    | ok value => simpa using left
    | error report =>
      dsimp only
      split <;> simpa using left

theorem image_leads (name : String) {world : World} (calm : world.Calm) :
    (Removal.image name).Leads world fun _ => Left (.without .image name) world := by
  have left := removeImage_left name calm
  simp only [Removal.image, bind_eq, pure_eq, call_eq, log_eq, bind_ask, bind_done, leads_log,
    leads_call]
  cases (world.answer (.removeImage name true)).1 with
  | ok value => exact left
  | error report =>
    dsimp only
    split <;> simpa using left

theorem giveUp_leads (holding : Holding) {world : World} (calm : world.Calm) :
    (Custody.giveUp holding).Leads world
      fun _ => Left (.without holding.kind holding.id) world := by
  obtain ⟨kind, id, label⟩ := holding
  cases kind with
  | container =>
    simp only [Custody.giveUp, Custody.stopContainer, bind_eq, pure_eq, request_eq, bind_ask,
      bind_done, leads_label]
    intro held
    refine (container_leads id _ calm).bind ?_
    intro outcome after left
    simpa using left
  | network =>
    simp only [Custody.giveUp, Custody.removeNetwork, bind_eq, pure_eq, request_eq, bind_ask,
      bind_done]
    refine (network_leads id calm).bind ?_
    intro outcome after left
    simpa using left
  | image =>
    simp only [Custody.giveUp, Custody.removeImage, bind_eq, pure_eq, request_eq, bind_ask,
      bind_done]
    refine (image_leads id calm).bind ?_
    intro outcome after left
    simpa using left

/-! ## Drains and sweeps -/

def Sieve.all : List Sieve → Sieve
  | [] => everything
  | sieve :: rest => sieve.both (all rest)

namespace Sieve

theorem container_all (sieves : List Sieve) (id : String) (container : Container) :
    (all sieves).container id container = sieves.all fun sieve => sieve.container id container := by
  induction sieves with
  | nil => rfl
  | cons sieve rest ih => rw [all, List.all_cons, ← ih]; rfl

theorem network_all (sieves : List Sieve) (id : String) :
    (all sieves).network id = sieves.all fun sieve => sieve.network id := by
  induction sieves with
  | nil => rfl
  | cons sieve rest ih => rw [all, List.all_cons, ← ih]; rfl

theorem image_all (sieves : List Sieve) (name : String) :
    (all sieves).image name = sieves.all fun sieve => sieve.image name := by
  induction sieves with
  | nil => rfl
  | cons sieve rest ih => rw [all, List.all_cons, ← ih]; rfl

end Sieve

theorem each_leads {β : Type} {work : β → Procedure Unit} {sieve : β → Sieve}
    (step : ∀ item world, world.Calm → (work item).Leads world fun _ => Left (sieve item) world)
    (items : List β) {world : World} (calm : world.Calm) :
    (each work items).Leads world fun _ => Left (.all (items.map sieve)) world := by
  induction items generalizing world with
  | nil => exact .refl world
  | cons item rest ih =>
    refine (step item world calm).bind ?_
    intro _ after left
    refine (ih (left.calm calm)).mono ?_
    intro _ final later
    exact left.trans later

theorem drain_leads (held : List Holding) {world : World} (calm : world.Calm) :
    (Custody.drain held).Leads world fun _ =>
      Left (.all (held.map fun holding => .without holding.kind holding.id)) world := by
  refine each_leads ?_ held calm
  intro holding state calmThen
  refine (giveUp_leads holding calmThen).bind ?_
  intro outcome after left
  simpa using left

/-- What a sweep of one kind for a selector passes over. -/
def Sieve.unswept (kind : SweepKind) (selector : Selector) : Sieve :=
  { everything with
    container := fun _ container =>
      kind != .containers || selector.labelFilters.isEmpty ||
        !container.carriesAll selector.labelFilters }

theorem Left.congr {first second : Sieve} {before after : World} (left : Left first before after)
    (containers : ∀ id container, before.containers.get? id = some container →
      first.container id container = second.container id container)
    (networks : first.network = second.network) (images : first.image = second.image) :
    Left second before after where
  containers id := by
    rw [left.containers]
    cases found : before.containers.get? id with
    | none => rfl
    | some container => simp [Option.filter, containers id container found]
  networks := networks ▸ left.networks
  images := images ▸ left.images
  stages := left.stages
  failures := left.failures

def Engine.Simulated.World.carriers (world : World) (labels : List String) : List ListedContainer :=
  (world.containers.entries.filter fun entry => entry.2.carriesAll labels).map
    fun entry => ⟨entry.1, entry.2.image⟩

theorem listContainers_of_calm {world : World} (calm : world.Calm) (labels : List String) :
    world.answer (.listContainers labels) =
      (.ok (world.carriers labels), world.record (.listContainers labels)) := by
  rw [calm.answer_eq (by simp [Call.kindOf])]
  rfl

theorem prune_of_calm {world : World} (calm : world.Calm) (kind : SweepKind)
    (labels : List String) :
    world.answer (.prune kind labels) = (.ok (), world.record (.prune kind labels)) := by
  rw [calm.answer_eq (by simp [Call.kindOf])]
  rfl

theorem all_ne_carriers {world : World} {id : String} {container : Container}
    (found : world.containers.get? id = some container) (labels : List String) :
    (world.carriers labels).all (fun listed => !decide (listed.id = id)) =
      !container.carriesAll labels := by
  have member := Keyed.get?_eq_some_iff.mp found
  rw [Bool.eq_iff_iff, List.all_eq_true]
  constructor
  · intro unlisted
    cases carries : container.carriesAll labels with
    | false => rfl
    | true =>
      have listed : ⟨id, container.image⟩ ∈ world.carriers labels :=
        List.mem_map_of_mem (f := fun entry : String × Container =>
          (⟨entry.1, entry.2.image⟩ : ListedContainer))
          (List.mem_filter.mpr ⟨member, carries⟩)
      simpa using unlisted _ listed
  · intro spared listed inListing
    obtain ⟨entry, inEntries, rfl⟩ := List.mem_map.mp inListing
    obtain ⟨inWorld, carries⟩ := List.mem_filter.mp inEntries
    cases same : decide (entry.1 = id) with
    | false => rfl
    | true =>
      rw [← of_decide_eq_true same] at member
      rw [Keyed.eq_of_mem_of_mem inWorld member] at carries
      rw [carries] at spared
      cases spared

theorem containers_leads (listed : List ListedContainer) {world : World} (calm : world.Calm) :
    (Sweep.containers listed).Leads world fun _ =>
      Left (.all (listed.map fun container => .without .container container.id)) world := by
  refine each_leads ?_ listed calm
  intro container state calmThen
  refine (container_leads container.id _ calmThen).bind ?_
  intro outcome after left
  exact left

theorem kind_leads (kind : SweepKind) (selector : Selector) {world : World} (calm : world.Calm) :
    (Sweep.kind kind selector).Leads world fun _ => Left (.unswept kind selector) world := by
  simp only [Sweep.kind, Removal.swallow, bind_eq, pure_eq, call_eq, log_eq, bind_ask, bind_done]
  split
  next unlabelled =>
    rw [leads_log]
    refine (Left.refl world).congr ?_ rfl rfl
    intro id container found
    simp [Sieve.everything, Sieve.unswept, unlabelled]
  next labelled =>
    rw [leads_log]
    cases kind with
    | containers =>
      dsimp only
      rw [leads_call, listContainers_of_calm calm]
      -- The listing is made before the first removal; what it names goes, whatever else goes too.
      refine (containers_leads _ (calm.record _)).mono ?_
      intro _ after left
      refine (World.left_of_record left).congr ?_ ?_ ?_
      · intro id container found
        rw [Sieve.container_all, List.all_map]
        refine (all_ne_carriers found selector.labelFilters).trans ?_
        simp [Sieve.unswept, labelled]
      · funext id
        simp [Sieve.network_all, Sieve.without, Sieve.unswept, Sieve.everything]
      · funext name
        simp [Sieve.image_all, Sieve.without, Sieve.unswept, Sieve.everything]
    | _ =>
      dsimp only
      rw [leads_call, prune_of_calm calm]
      exact World.left_of_record (.refl _)

theorem testament_leads (selectors : List Selector) {world : World} (calm : world.Calm) :
    (Sweep.testament selectors).Leads world fun _ =>
      Left (.all (SweepKind.all.map fun kind => .all (selectors.map (.unswept kind)))) world := by
  refine each_leads ?_ SweepKind.all calm
  intro kind state calmThen
  refine each_leads ?_ selectors calmThen
  intro selector later calmLater
  exact kind_leads kind selector calmLater

end Reclaim
