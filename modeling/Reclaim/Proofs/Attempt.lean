import Reclaim.Proofs.Chronicle

/-!
# Attempts to give a resource up

What one attempt can look like, whatever the engine answers: the calls that a
removal makes, what it lets go of, and how it ends.  `giveUp_ensures` says
that giving up a holding is such an attempt, and `drain_ensures` that giving up
several is one attempt for each of them, in order.  What is let go of and why
can be read off what happens (`Orderly.forgets_iff`).
-/

set_option autoImplicit false

namespace Reclaim

open Engine (Call ContainerState ListedNetwork)
open Procedure

def Moment.finished? : Moment → Option (ResourceKind × String)
  | .answered (.log (.stepFinished kind id _)) _ => some (kind, id)
  | .acted _ | .answered _ _ => none

def finished (tale : List Moment) : List (ResourceKind × String) :=
  tale.filterMap Moment.finished?

@[simp] theorem finished_append (first second : List Moment) :
    finished (first ++ second) = finished first ++ finished second :=
  List.filterMap_append

def Moment.plain : Moment → Bool
  | .answered (.forget _ _) _ | .answered (.log (.stepFinished _ _ _)) _ => false
  | .acted _ | .answered _ _ => true

theorem Moment.forgets_of_plain {moment : Moment} (plain : moment.plain = true)
    (kind : ResourceKind) (id : String) : moment.forgets kind id = false := by
  cases moment with
  | acted act => rfl
  | answered request reply => cases request <;> first | rfl | cases plain

theorem Moment.finished?_of_plain {moment : Moment} (plain : moment.plain = true) :
    moment.finished? = none := by
  cases moment with
  | acted act => rfl
  | answered request reply =>
    cases request with
    | log event => cases event <;> first | rfl | cases plain
    | _ => rfl

@[simp] theorem all_plain_acted (acts : List HolderAct) :
    (acts.map Moment.acted).all Moment.plain = true := by
  induction acts with
  | nil => rfl
  | cons act rest ih => exact ih

def Deleted (id : String) (tale : List Moment) : Prop :=
  Moment.answered (.call (.removeNetwork id)) (.ok ()) ∈ tale

theorem deleted_iff {id : String} {tale : List Moment} :
    Deleted id tale ↔ ⟨.removeNetwork id, .ok ()⟩ ∈ exchanges tale := by
  constructor
  · exact fun deleted => List.mem_filterMap.mpr ⟨_, deleted, rfl⟩
  · intro member
    obtain ⟨moment, inTale, told⟩ := List.mem_filterMap.mp member
    cases moment with
    | acted act => cases told
    | answered request reply =>
      cases request with
      | call call =>
        cases told
        exact inTale
      | _ => cases told

/-- Nothing is let go of but networks that were deleted, and nothing is reported as finished. -/
structure Contained (tale : List Moment) : Prop where
  deleted : ∀ moment ∈ tale, ∀ kind id, moment.forgets kind id = true →
    kind = .network ∧ Deleted id tale
  unfinished : finished tale = []

def Moment.deletes : Moment → Bool
  | .answered (.call (.removeNetwork _)) (.ok _) => true
  | .acted _ | .answered _ _ => false

theorem Moment.eq_of_deletes {moment : Moment} (deletes : moment.deletes = true) :
    ∃ id, moment = .answered (.call (.removeNetwork id)) (.ok ()) := by
  cases moment with
  | acted act => cases deletes
  | answered request reply =>
    cases request with
    | call asked =>
      cases asked with
      | removeNetwork id =>
        cases reply with
        | ok value => exact ⟨id, rfl⟩
        | error report => cases deletes
      | _ => cases deletes
    | _ => cases deletes

theorem any_deletes_acted (acts : List HolderAct) :
    (acts.map Moment.acted).any Moment.deletes = false := by
  induction acts with
  | nil => rfl
  | cons act rest ih => exact ih

theorem any_deletes_of_calls {tale : List Moment}
    (undeleted : ∀ id, .removeNetwork id ∉ calls tale) : tale.any Moment.deletes = false := by
  refine List.any_eq_false.mpr fun moment member deletes => ?_
  obtain ⟨id, rfl⟩ := Moment.eq_of_deletes deletes
  have exchanged : ⟨.removeNetwork id, .ok ()⟩ ∈ exchanges tale := deleted_iff.mp member
  exact undeleted id (List.mem_map_of_mem exchanged)

/-- A network is let go of as soon as it has been deleted; and what is reported as finished has just
been let go of. -/
inductive Orderly : List Moment → Prop where
  | none : Orderly []
  | plain {moment : Moment} {rest : List Moment} (plain : moment.plain = true)
      (undeleted : moment.deletes = false) (orderly : Orderly rest) : Orderly (moment :: rest)
  | deleted {id : String} {rest : List Moment} (orderly : Orderly rest) :
      Orderly (.answered (.call (.removeNetwork id)) (.ok ()) ::
        .answered (.forget .network id) () :: rest)
  | finished {kind : ResourceKind} {id : String} {outcome : Outcome} {rest : List Moment}
      (orderly : Orderly rest) :
      Orderly (.answered (.forget kind id) () ::
        .answered (.log (.stepFinished kind id outcome)) () :: rest)

namespace Orderly

variable {tale first second : List Moment}

theorem append (earlier : Orderly first) (later : Orderly second) : Orderly (first ++ second) := by
  induction earlier with
  | none => exact later
  | plain plain undeleted orderly ih => exact .plain plain undeleted ih
  | deleted orderly ih => exact .deleted ih
  | finished orderly ih => exact .finished ih

theorem of_plain (plain : tale.all Moment.plain = true)
    (undeleted : tale.any Moment.deletes = false) : Orderly tale := by
  induction tale with
  | nil => exact .none
  | cons moment rest ih =>
    rw [List.all_cons, Bool.and_eq_true] at plain
    rw [List.any_cons, Bool.or_eq_false_iff] at undeleted
    exact .plain plain.1 undeleted.1 (ih plain.2 undeleted.2)

/-- A resource is let go of if the attempt to give it up comes to its end, or it is a network that
is deleted. -/
theorem forgets_iff (orderly : Orderly tale) (kind : ResourceKind) (id : String) :
    tale.any (Moment.forgets kind id) = true ↔
      (kind, id) ∈ Reclaim.finished tale ∨ (kind = .network ∧ Deleted id tale) := by
  induction orderly with
  | none => simp [Reclaim.finished, Deleted]
  | @plain moment rest plain undeleted orderly ih =>
    have remembered : moment.forgets kind id = false := Moment.forgets_of_plain plain kind id
    have unfinished : Reclaim.finished (moment :: rest) = Reclaim.finished rest :=
      List.filterMap_cons_none (Moment.finished?_of_plain plain)
    have same : Deleted id (moment :: rest) ↔ Deleted id rest := by
      refine ⟨fun deleted => (List.mem_cons.mp deleted).resolve_left ?_, List.mem_cons_of_mem _⟩
      rintro rfl
      cases undeleted
    rw [unfinished, same, ← ih, List.any_cons, remembered, Bool.false_or]
  | @deleted network rest orderly ih =>
    have unfinished : Reclaim.finished (.answered (.call (.removeNetwork network)) (.ok ()) ::
        .answered (.forget .network network) () :: rest) = Reclaim.finished rest := rfl
    have same : Deleted id (.answered (.call (.removeNetwork network)) (.ok ()) ::
        .answered (.forget .network network) () :: rest) ↔ network = id ∨ Deleted id rest := by
      constructor
      · rintro (_ | ⟨_, _ | ⟨_, later⟩⟩)
        · exact Or.inl rfl
        · exact Or.inr later
      · rintro (rfl | later)
        · exact .head _
        · exact .tail _ (.tail _ later)
    rw [unfinished, same, List.any_cons, List.any_cons, Bool.or_eq_true, Bool.or_eq_true, ih]
    simp only [Moment.forgets, decide_eq_true_eq]
    grind
  | @finished other target outcome rest orderly ih =>
    have ended : Reclaim.finished (.answered (.forget other target) () ::
        .answered (.log (.stepFinished other target outcome)) () :: rest) =
          (other, target) :: Reclaim.finished rest := rfl
    have same : Deleted id (.answered (.forget other target) () ::
        .answered (.log (.stepFinished other target outcome)) () :: rest) ↔ Deleted id rest := by
      constructor
      · rintro (_ | ⟨_, _ | ⟨_, later⟩⟩)
        exact later
      · exact fun later => .tail _ (.tail _ later)
    rw [ended, same, List.any_cons, List.any_cons, Bool.or_eq_true, Bool.or_eq_true, ih,
      List.mem_cons]
    simp only [Moment.forgets, decide_eq_true_eq, Prod.mk.injEq]
    grind

end Orderly

/-- What happens in an attempt to give a resource up, before it comes to its end. -/
structure Underway (tale : List Moment) : Prop where
  orderly : Orderly tale
  unfinished : finished tale = []

namespace Underway

variable {tale first second : List Moment}

theorem of_plain (plain : tale.all Moment.plain = true)
    (undeleted : tale.any Moment.deletes = false) : Underway tale := by
  refine ⟨.of_plain plain undeleted, List.filterMap_eq_nil_iff.mpr fun moment member => ?_⟩
  exact Moment.finished?_of_plain (List.all_eq_true.mp plain moment member)

theorem append (before : Underway first) (after : Underway second) : Underway (first ++ second) :=
  ⟨before.orderly.append after.orderly, by simp [before.unfinished, after.unfinished]⟩

theorem contained (underway : Underway tale) : Contained tale := by
  refine ⟨fun moment member kind id forgets => ?_, underway.unfinished⟩
  have letGo : tale.any (Moment.forgets kind id) = true :=
    List.any_eq_true.mpr ⟨moment, member, forgets⟩
  rcases (underway.orderly.forgets_iff kind id).mp letGo with ended | deleted
  · rw [underway.unfinished] at ended
    cases ended
  · exact deleted

end Underway

/-! ## Containers -/

/-- What happens between the two looks at a container, as the first of them shows it. -/
def Stops (id : String) (state : ContainerState) (stops : List Exchange) : Prop :=
  if state.running then ∃ answer, stops = [⟨.kill id, answer⟩] else stops = []

/-- How looking at a container again and deleting it can go. -/
inductive Deletes (id : String) : List Exchange → Outcome → Prop where
  | vanished {report : Engine.Report} : Deletes id [⟨.inspect id, .error report⟩] .alreadyGone
  | removed {again : ContainerState} :
      Deletes id [⟨.inspect id, .ok again⟩, ⟨.forceRemove id, .ok ()⟩] .removed
  | failed {again : ContainerState} {report : Engine.Report} :
      Deletes id [⟨.inspect id, .ok again⟩, ⟨.forceRemove id, .error report⟩] .removeFailed

/-- How the removal of a container can go. -/
inductive ContainerWalk (id : String) : List Exchange → Outcome → Prop where
  | gone {report : Engine.Report} (missing : report.isNotFound = true) :
      ContainerWalk id [⟨.inspect id, .error report⟩] .alreadyGone
  | unclear {report : Engine.Report} (present : report.isNotFound = false) :
      ContainerWalk id [⟨.inspect id, .error report⟩] .gaveUp
  | found {state : ContainerState} {stops deletion : List Exchange} {outcome : Outcome}
      (stopped : Stops id state stops) (deletes : Deletes id deletion outcome) :
      ContainerWalk id (⟨.inspect id, .ok state⟩ :: (stops ++ deletion)) outcome

theorem ContainerWalk.calls {id : String} {made : List Exchange} {outcome : Outcome}
    (walk : ContainerWalk id made outcome) {exchange : Exchange} (member : exchange ∈ made) :
    exchange.call = .inspect id ∨ exchange.call = .kill id ∨ exchange.call = .forceRemove id := by
  cases walk with
  | gone missing =>
    rw [List.mem_singleton.mp member]
    exact Or.inl rfl
  | unclear present =>
    rw [List.mem_singleton.mp member]
    exact Or.inl rfl
  | found stopped deletes =>
    rcases List.mem_cons.mp member with rfl | member
    · exact Or.inl rfl
    · rcases List.mem_append.mp member with inStops | inDeletion
      · unfold Stops at stopped
        split at stopped
        · obtain ⟨answer, rfl⟩ := stopped
          rw [List.mem_singleton.mp inStops]
          exact Or.inr (Or.inl rfl)
        · rw [stopped] at inStops
          cases inStops
      · cases deletes with
        | vanished =>
          rw [List.mem_singleton.mp inDeletion]
          exact Or.inl rfl
        | removed =>
          obtain rfl | rfl := by simpa using inDeletion
          · exact Or.inl rfl
          · exact Or.inr (Or.inr rfl)
        | failed =>
          obtain rfl | rfl := by simpa using inDeletion
          · exact Or.inl rfl
          · exact Or.inr (Or.inr rfl)

theorem stop_ensures (id label : String) :
    (Removal.stop id label).Ensures fun tale _ =>
      (∃ answer, exchanges tale = [⟨.kill id, answer⟩]) ∧ tale.all Moment.plain = true := by
  simp only [Removal.stop, Removal.swallow, bind_eq, pure_eq, call_eq, log_eq, bind_ask, bind_done,
    ensures_call, ensures_log]
  intro _ acts answer
  cases answer with
  | ok value =>
    simp only [bind_done, ensures_log]
    intro _
    exact ⟨⟨.ok value, by simp⟩, by simp [Moment.plain]⟩
  | error report =>
    simp only [bind_ask, bind_done, ensures_log]
    intro _
    exact ⟨⟨.error report, by simp⟩, by simp [Moment.plain]⟩

theorem delete_ensures (id label : String) :
    (Removal.delete id label).Ensures fun tale outcome =>
      Deletes id (exchanges tale) outcome ∧ tale.all Moment.plain = true := by
  simp only [Removal.delete, Removal.swallow, bind_eq, pure_eq, call_eq, log_eq, bind_ask,
    bind_done, ensures_call]
  intro acts look
  cases look with
  | error report =>
    rw [ensures_log]
    intro _
    exact ⟨by simpa using Deletes.vanished, by simp [Moment.plain]⟩
  | ok again =>
    simp only [ensures_log, ensures_call]
    intro _ more answer
    cases answer with
    | ok value =>
      cases value
      simp only [bind_done, ensures_log]
      intro _
      exact ⟨by simpa using Deletes.removed, by simp [Moment.plain]⟩
    | error report =>
      simp only [bind_ask, bind_done, ensures_log]
      intro _
      exact ⟨by simpa using Deletes.failed, by simp [Moment.plain]⟩

theorem container_ensures (id : String) (label : Option String) :
    (Removal.container id label).Ensures fun tale outcome =>
      ContainerWalk id (exchanges tale) outcome ∧ tale.all Moment.plain = true := by
  simp only [Removal.container, bind_eq, pure_eq, call_eq, log_eq, bind_ask, bind_done,
    ensures_call]
  intro acts look
  cases look with
  | error report =>
    dsimp only
    cases missing : report.isNotFound with
    | true =>
      rw [if_pos rfl, ensures_log]
      intro _
      exact ⟨by simpa using ContainerWalk.gone missing, by simp [Moment.plain]⟩
    | false =>
      rw [if_neg Bool.false_ne_true, ensures_log]
      intro _
      exact ⟨by simpa using ContainerWalk.unclear missing, by simp [Moment.plain]⟩
  | ok state =>
    dsimp only
    cases running : state.running with
    | true =>
      rw [if_pos rfl]
      refine (stop_ensures id _).bind ?_
      rintro stopping _ ⟨⟨answer, killed⟩, stopPlain⟩
      refine (delete_ensures id _).mono ?_
      rintro deleting outcome ⟨deletes, deletePlain⟩
      have stopped : Stops id state [⟨.kill id, answer⟩] := by simp [Stops, running]
      refine ⟨?_, by simp [Moment.plain, stopPlain, deletePlain]⟩
      simpa [killed] using ContainerWalk.found stopped deletes
    | false =>
      rw [if_neg Bool.false_ne_true]
      refine (delete_ensures id _).mono ?_
      rintro deleting outcome ⟨deletes, deletePlain⟩
      have stopped : Stops id state [] := by simp [Stops, running]
      refine ⟨?_, by simp [Moment.plain, deletePlain]⟩
      simpa using ContainerWalk.found stopped deletes

/-! ## Networks and images -/

def listedIn : Except Engine.Report (List ListedNetwork) → List ListedNetwork
  | .ok networks => networks
  | .error _ => []

def deletion (network : ListedNetwork) : Call := .removeNetwork network.id

theorem Underway.acted (acts : List HolderAct) : Underway (acts.map .acted) :=
  .of_plain (all_plain_acted acts) (any_deletes_acted acts)

theorem Underway.deletion (id : String) (acts : List HolderAct) :
    Underway (acts.map .acted ++
      [.answered (.call (.removeNetwork id)) (.ok ()), .answered (.forget .network id) ()]) :=
  (Underway.acted acts).append ⟨.deleted .none, rfl⟩

theorem Underway.undeleted (id : String) (acts : List HolderAct) (report : Engine.Report)
    (event : Journal.Event) (plain : Moment.plain (.answered (.log event) ()) = true) :
    Underway (acts.map .acted ++
      [.answered (.call (.removeNetwork id)) (.error report), .answered (.log event) ()]) := by
  refine (Underway.acted acts).append (.of_plain ?_ rfl)
  rw [List.all_cons, List.all_cons, plain]
  rfl

theorem networks_ensures (id : String) (outcome : Outcome) (listed : List ListedNetwork) :
    (Removal.networks id (fun removed => request (.forget .network removed)) outcome
      listed).Ensures fun tale _ => calls tale = listed.map deletion ∧ Underway tale := by
  induction listed generalizing outcome with
  | nil => exact ⟨rfl, .of_plain rfl rfl⟩
  | cons network rest ih =>
    simp only [Removal.networks, bind_eq, request_eq, call_eq, log_eq, bind_ask, bind_done,
      ensures_call]
    intro acts answer
    -- After a deletion the network is let go of; after a failure there is only the report.
    cases answer with
    | ok value =>
      cases value
      simp only [ensures_forget, ensures_log]
      intro _ _
      refine (ih .removed).mono ?_
      rintro tale final ⟨called, underway⟩
      constructor
      · simpa [calls, deletion] using called
      · have reported : Underway [.answered (.log (.removedNetwork id)) ()] := .of_plain rfl rfl
        have whole := (Underway.deletion network.id acts).append (reported.append underway)
        simpa only [List.append_assoc, List.cons_append, List.nil_append] using whole
    | error report =>
      dsimp only
      split
      · rw [ensures_log]
        intro _
        refine (ih outcome).mono ?_
        rintro tale final ⟨called, underway⟩
        constructor
        · simpa [calls, deletion] using called
        · have whole :=
            (Underway.undeleted network.id acts report (.networkGone id) rfl).append underway
          simpa only [List.append_assoc, List.cons_append, List.nil_append] using whole
      · rw [ensures_log]
        intro _
        refine (ih .removeFailed).mono ?_
        rintro tale final ⟨called, underway⟩
        constructor
        · simpa [calls, deletion] using called
        · have whole := (Underway.undeleted network.id acts report (.failure .trace
            "error removing network; it may not have been removed" network.name report)
            rfl).append underway
          simpa only [List.append_assoc, List.cons_append, List.nil_append] using whole

/-- The ways in which the removal of the networks for an id can go. -/
def NetworkWalk (id : String) (made : List Exchange) : Prop :=
  ∃ answer deletions, made = ⟨.listNetworks id, answer⟩ :: deletions ∧
    deletions.map Exchange.call = (listedIn answer).map deletion

theorem network_ensures (id : String) :
    (Removal.network id fun removed => request (.forget .network removed)).Ensures fun tale _ =>
      NetworkWalk id (exchanges tale) ∧ Underway tale := by
  simp only [Removal.network, Removal.swallow, bind_eq, pure_eq, call_eq, log_eq, bind_ask,
    bind_done, ensures_call]
  intro acts answer
  cases answer with
  | ok listed =>
    refine (networks_ensures id .alreadyGone listed).mono ?_
    rintro tale final ⟨called, underway⟩
    refine ⟨⟨.ok listed, exchanges tale, by simp, called⟩, ?_⟩
    have asked : Underway
        (acts.map .acted ++ [.answered (.call (.listNetworks id)) (.ok listed)]) :=
      (Underway.acted acts).append (.of_plain rfl rfl)
    simpa only [List.append_assoc, List.cons_append, List.nil_append] using asked.append underway
  | error report =>
    simp only [bind_ask, bind_done, ensures_log]
    intro _
    exact ⟨⟨.error report, [], by simp, rfl⟩, (Underway.acted acts).append (.of_plain rfl rfl)⟩

theorem image_ensures (name : String) :
    (Removal.image name).Ensures fun tale _ =>
      calls tale = [.removeImage name true] ∧ tale.all Moment.plain = true := by
  simp only [Removal.image, bind_eq, pure_eq, call_eq, log_eq, bind_ask, bind_done, ensures_call,
    ensures_log]
  intro _ acts answer
  cases answer with
  | ok value => exact ⟨by simp [calls], by simp [Moment.plain]⟩
  | error report =>
    dsimp only
    split
    · rw [ensures_log]
      intro _
      exact ⟨by simp [calls], by simp [Moment.plain]⟩
    · rw [ensures_log]
      intro _
      exact ⟨by simp [calls], by simp [Moment.plain]⟩

/-! ## Attempts -/

/-- The calls that belong to one attempt to give a holding up. -/
def Holding.Walk (holding : Holding) (made : List Exchange) : Prop :=
  match holding.kind with
  | .container => ∃ outcome, ContainerWalk holding.id made outcome
  | .network => NetworkWalk holding.id made
  | .image => made.map Exchange.call = [.removeImage holding.id true]

/-- One attempt to give a holding up.  At its end the holding is let go of and reported as
finished; before that only networks that were deleted are let go of. -/
structure Attempt (holding : Holding) (tale : List Moment) : Prop where
  walk : holding.Walk (exchanges tale)
  ends : ∃ body outcome, Contained body ∧
    tale = body ++ [.answered (.forget holding.kind holding.id) (),
      .answered (.log (.stepFinished holding.kind holding.id outcome)) ()]

theorem ContainerWalk.underway {id : String} {tale : List Moment} {outcome : Outcome}
    (walk : ContainerWalk id (exchanges tale) outcome) (plain : tale.all Moment.plain = true) :
    Underway tale := by
  refine .of_plain plain (any_deletes_of_calls fun network member => ?_)
  obtain ⟨exchange, made, called⟩ := List.mem_map.mp member
  rcases walk.calls made with same | same | same <;> cases called.symm.trans same

theorem giveUp_ensures (holding : Holding) :
    (Custody.giveUp holding).Ensures fun tale _ =>
      ∃ body, Underway body ∧ holding.Walk (exchanges body) ∧
        tale = body ++ [.answered (.forget holding.kind holding.id) ()] := by
  obtain ⟨kind, id, label⟩ := holding
  cases kind with
  | container =>
    simp only [Custody.giveUp, Custody.stopContainer, bind_eq, pure_eq, request_eq, bind_ask,
      bind_done, ensures_label]
    intro held
    refine (container_ensures id _).bind ?_
    rintro tale outcome ⟨walk, plain⟩
    rw [ensures_forget]
    intro _
    have looked : Underway [.answered (.label id) held] := .of_plain rfl rfl
    exact ⟨.answered (.label id) held :: tale, looked.append (walk.underway plain),
      ⟨outcome, walk⟩, rfl⟩
  | network =>
    simp only [Custody.giveUp, Custody.removeNetwork, bind_eq, pure_eq, request_eq, bind_ask,
      bind_done]
    refine (network_ensures id).bind ?_
    rintro tale outcome ⟨walk, underway⟩
    rw [ensures_forget]
    intro _
    exact ⟨tale, underway, walk, rfl⟩
  | image =>
    simp only [Custody.giveUp, Custody.removeImage, bind_eq, pure_eq, request_eq, bind_ask,
      bind_done]
    refine (image_ensures id).bind ?_
    rintro tale outcome ⟨called, plain⟩
    rw [ensures_forget]
    intro _
    refine ⟨tale, .of_plain plain (any_deletes_of_calls fun network member => ?_), called, rfl⟩
    rw [called] at member
    simp at member

/-- One attempt after another, for each of some holdings in order. -/
inductive Attempts : List Holding → List Moment → Prop where
  | none : Attempts [] []
  | next {holding : Holding} {rest : List Holding} {part later : List Moment}
      (attempt : Attempt holding part) (attempts : Attempts rest later) :
      Attempts (holding :: rest) (part ++ later)

theorem drain_ensures (held : List Holding) :
    (Custody.drain held).Ensures fun tale _ => Attempts held tale ∧ Orderly tale := by
  induction held with
  | nil => exact ⟨.none, .none⟩
  | cons holding rest ih =>
    simp only [Custody.drain, each, bind_eq, log_eq] at ih ⊢
    rw [bind_assoc]
    refine (giveUp_ensures holding).bind ?_
    rintro tale outcome ⟨body, underway, walk, rfl⟩
    simp only [bind_ask, bind_done, ensures_log]
    intro _
    refine ih.mono ?_
    rintro later _ ⟨attempts, orderly⟩
    have attempt : Attempt holding (body ++ [.answered (.forget holding.kind holding.id) (),
        .answered (.log (.stepFinished holding.kind holding.id outcome)) ()]) :=
      ⟨by simpa using walk, body, outcome, underway.contained, rfl⟩
    exact ⟨by simpa using Attempts.next attempt attempts,
      by simpa using underway.orderly.append (.finished orderly)⟩

end Reclaim
