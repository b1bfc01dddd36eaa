import Reclaim.Proofs.Attempt

/-!
# What a drain does to an inventory

A drain works through the resources that are held when it begins.  Other
holders may register and take over resources all the while; the main statement
says what is held at its end, whatever the engine answers and whatever the
others do.
-/

set_option autoImplicit false

namespace Reclaim

open Engine (Call)
open Procedure

/-- The calls that serve to give a holding up; networks only as far as a listing for it showed
them. -/
def Holding.Needs (holding : Holding) (tale : List Moment) (call : Call) : Prop :=
  match holding.kind with
  | .container =>
    call = .inspect holding.id ∨ call = .kill holding.id ∨ call = .forceRemove holding.id
  | .network =>
    call = .listNetworks holding.id ∨ ∃ networks network,
      Moment.answered (.call (.listNetworks holding.id)) (.ok networks) ∈ tale ∧
        network ∈ networks ∧ call = .removeNetwork network.id
  | .image => call = .removeImage holding.id true

theorem mem_of_mem_exchanges {exchange : Exchange} {tale : List Moment}
    (member : exchange ∈ exchanges tale) :
    Moment.answered (.call exchange.call) exchange.answer ∈ tale := by
  obtain ⟨moment, inTale, found⟩ := List.mem_filterMap.mp member
  cases moment with
  | acted act => cases found
  | answered request reply =>
    cases request with
    | call call =>
      cases found
      exact inTale
    | _ => cases found

theorem Attempt.needs {holding : Holding} {tale : List Moment} (attempt : Attempt holding tale)
    {call : Call} (member : call ∈ calls tale) : holding.Needs tale call := by
  obtain ⟨exchange, made, rfl⟩ := List.mem_map.mp member
  have walk := attempt.walk
  obtain ⟨kind, id, label⟩ := holding
  cases kind with
  | container =>
    obtain ⟨outcome, walk⟩ := walk
    exact walk.calls made
  | network =>
    obtain ⟨answer, deletions, whole, called⟩ := walk
    have listing : ⟨.listNetworks id, answer⟩ ∈ exchanges tale := by simp [whole]
    rw [whole] at made
    rcases List.mem_cons.mp made with rfl | deleting
    · exact Or.inl rfl
    · have inListing := List.mem_map_of_mem (f := Exchange.call) deleting
      rw [called] at inListing
      obtain ⟨network, listed, same⟩ := List.mem_map.mp inListing
      cases answer with
      | error report => cases listed
      | ok networks =>
        exact Or.inr ⟨networks, network, mem_of_mem_exchanges listing, listed, same.symm⟩
  | image =>
    have called : exchange.call ∈ (exchanges tale).map Exchange.call := member
    rw [walk] at called
    exact List.mem_singleton.mp called

theorem Holding.Needs.mono {holding : Holding} {part tale : List Moment} {call : Call}
    (needs : holding.Needs part call) (within : part ⊆ tale) : holding.Needs tale call := by
  obtain ⟨kind, id, label⟩ := holding
  cases kind with
  | container => exact needs
  | network =>
    rcases needs with listing | ⟨networks, network, answered, listed, same⟩
    · exact Or.inl listing
    · exact Or.inr ⟨networks, network, within answered, listed, same⟩
  | image => exact needs

/-! ## What one attempt leaves behind -/

theorem Attempt.finished_eq {holding : Holding} {tale : List Moment}
    (attempt : Attempt holding tale) : finished tale = [(holding.kind, holding.id)] := by
  obtain ⟨body, outcome, contained, rfl⟩ := attempt.ends
  rw [finished_append, contained.unfinished]
  rfl

theorem Attempt.forgets {holding : Holding} {tale : List Moment} (attempt : Attempt holding tale)
    {moment : Moment} (member : moment ∈ tale) {kind : ResourceKind} {id : String}
    (forgets : moment.forgets kind id = true) :
    (holding.kind = kind ∧ holding.id = id) ∨ (kind = .network ∧ Deleted id tale) := by
  obtain ⟨body, outcome, contained, rfl⟩ := attempt.ends
  rcases List.mem_append.mp member with inBody | atEnd
  · obtain ⟨network, gone⟩ := contained.deleted moment inBody kind id forgets
    exact Or.inr ⟨network, List.mem_append_left _ gone⟩
  · obtain rfl | rfl := by simpa using atEnd
    · exact Or.inl (of_decide_eq_true forgets)
    · cases forgets

theorem Attempt.contains_after {holding : Holding} {tale : List Moment}
    (attempt : Attempt holding tale) (custody : Custody) :
    (tale.foldl Custody.after custody).inventory.contains holding.kind holding.id = false := by
  obtain ⟨body, outcome, -, rfl⟩ := attempt.ends
  simp [Custody.contains_after, Moment.takes, Moment.releases, Moment.forgets]

/-! ## What all attempts leave behind -/

theorem Attempts.finished_eq {held : List Holding} {tale : List Moment}
    (attempts : Attempts held tale) :
    finished tale = held.map fun holding => (holding.kind, holding.id) := by
  induction attempts with
  | none => rfl
  | next attempt attempts ih =>
    rw [finished_append, attempt.finished_eq, ih]
    rfl

theorem Attempts.needs {held : List Holding} {tale : List Moment}
    (attempts : Attempts held tale) {call : Call} (member : call ∈ calls tale) :
    ∃ holding ∈ held, holding.Needs tale call := by
  induction attempts with
  | none => cases member
  | next attempt attempts ih =>
    rw [calls_append] at member
    rcases List.mem_append.mp member with inPart | later
    · exact ⟨_, .head _, (attempt.needs inPart).mono (List.subset_append_left _ _)⟩
    · obtain ⟨holding, listed, needs⟩ := ih later
      exact ⟨holding, .tail _ listed, needs.mono (List.subset_append_right _ _)⟩

theorem Attempts.forgets {held : List Holding} {tale : List Moment}
    (attempts : Attempts held tale) {moment : Moment} (member : moment ∈ tale)
    {kind : ResourceKind} {id : String} (forgets : moment.forgets kind id = true) :
    (∃ holding ∈ held, holding.kind = kind ∧ holding.id = id) ∨
      (kind = .network ∧ Deleted id tale) := by
  induction attempts with
  | none => cases member
  | next attempt attempts ih =>
    rcases List.mem_append.mp member with inPart | later
    · rcases attempt.forgets inPart forgets with own | ⟨network, gone⟩
      · exact Or.inl ⟨_, .head _, own⟩
      · exact Or.inr ⟨network, List.mem_append_left _ gone⟩
    · rcases ih later with ⟨holding, listed, own⟩ | ⟨network, gone⟩
      · exact Or.inl ⟨holding, .tail _ listed, own⟩
      · exact Or.inr ⟨network, List.mem_append_right _ gone⟩

theorem Attempts.split {held : List Holding} {tale : List Moment} (attempts : Attempts held tale)
    {holding : Holding} (member : holding ∈ held) :
    ∃ early part late, Attempt holding part ∧ tale = early ++ part ++ late := by
  induction attempts with
  | none => cases member
  | @next first rest part later attempt attempts ih =>
    rcases List.mem_cons.mp member with rfl | inRest
    · exact ⟨[], part, later, attempt, rfl⟩
    · obtain ⟨early, middle, late, found, rfl⟩ := ih inRest
      exact ⟨part ++ early, middle, late, found, by simp⟩

/-- Of what was given up only that is held later which was registered again after its attempt. -/
theorem Attempts.taken_again {held : List Holding} {tale : List Moment}
    (attempts : Attempts held tale) {holding : Holding} (member : holding ∈ held)
    (custody : Custody)
    (still : (tale.foldl Custody.after custody).inventory.contains holding.kind holding.id = true) :
    ∃ early outcome late, tale = early ++
        .answered (.log (.stepFinished holding.kind holding.id outcome)) () :: late ∧
      ∃ moment ∈ late, moment.takes holding.kind holding.id = true := by
  -- When its own attempt ends the holding is lost, so what is held later was taken later.
  obtain ⟨early, part, late, attempt, rfl⟩ := attempts.split member
  have lost := attempt.contains_after (early.foldl Custody.after custody)
  rw [List.foldl_append, List.foldl_append] at still
  have again : ∃ moment ∈ late, moment.takes holding.kind holding.id = true := by
    rcases Custody.contains_or_takes late _ still with kept | again
    · rw [lost] at kept
      cases kept
    · exact again
  obtain ⟨body, outcome, -, rfl⟩ := attempt.ends
  exact ⟨early ++ body ++ [.answered (.forget holding.kind holding.id) ()], outcome, late,
    by simp, again⟩

/-! ## The drain -/

theorem drain_or_nothing_ensures (held : List Holding) :
    (if held.isEmpty then Procedure.log .nothingHeld
      else Procedure.ask (.log (.draining held.length)) fun _ => Custody.drain held).Ensures
        fun tale _ => ∃ event later, Moment.plain (.answered (.log event) ()) = true ∧
          Attempts held later ∧ Orderly later ∧ tale = .answered (.log event) () :: later := by
  cases nothing : held.isEmpty with
  | true =>
    rw [if_pos rfl, log_eq, ensures_log]
    intro _
    rw [List.isEmpty_iff.mp nothing]
    exact ⟨_, [], rfl, .none, .none, rfl⟩
  | false =>
    rw [if_neg Bool.false_ne_true, ensures_log]
    intro _
    refine (drain_ensures held).mono ?_
    rintro later _ ⟨attempts, orderly⟩
    exact ⟨_, later, rfl, attempts, orderly, rfl⟩

theorem cleanup_chronicle {ω : Type} (engine : Engine ω) (scene : Scene ω) :
    ∃ event later, Moment.finished? (.answered (.log event) ()) = none ∧
      Attempts scene.custody.inventory.holdings later ∧
      Scene.chronicle engine Custody.cleanup scene =
        .answered .holdings scene.custody.inventory.holdings ::
          .answered (.log event) () :: later := by
  obtain ⟨event, later, plain, attempts, -, told⟩ :=
    (drain_or_nothing_ensures scene.custody.inventory.holdings).holds engine scene
  exact ⟨event, later, Moment.finished?_of_plain plain, attempts, congrArg _ told⟩

theorem finished_cleanup {ω : Type} (engine : Engine ω) (scene : Scene ω) :
    finished (Scene.chronicle engine Custody.cleanup scene) =
      scene.custody.inventory.holdings.map fun holding => (holding.kind, holding.id) := by
  obtain ⟨event, later, unfinished, attempts, told⟩ := cleanup_chronicle engine scene
  rw [told, finished, List.filterMap_cons_none rfl, List.filterMap_cons_none unfinished]
  exact attempts.finished_eq

/-- What was held when a drain began and is held at its end was registered again meanwhile, once
its own attempt had ended. -/
theorem taken_again_of_held {ω : Type} {engine : Engine ω} {scene : Scene ω} {kind : ResourceKind}
    {id : String} (held : scene.custody.inventory.contains kind id = true)
    (still : (scene.carryOut engine Custody.cleanup).2.custody.inventory.contains kind id = true) :
    ∃ early outcome late,
      Scene.chronicle engine Custody.cleanup scene =
        early ++ .answered (.log (.stepFinished kind id outcome)) () :: late ∧
      ∃ moment ∈ late, moment.takes kind id = true := by
  obtain ⟨holding, listed, rfl, rfl⟩ := Inventory.contains_iff_listed.mp held
  obtain ⟨event, later, -, attempts, told⟩ := cleanup_chronicle engine scene
  rw [Scene.custody_carryOut, told] at still
  obtain ⟨early, outcome, late, split, again⟩ :=
    attempts.taken_again listed scene.custody still
  refine ⟨.answered .holdings scene.custody.inventory.holdings ::
    .answered (.log event) () :: early, outcome, late, ?_, again⟩
  rw [told, split]
  rfl

theorem needs_of_mem_calls {ω : Type} {engine : Engine ω} {scene : Scene ω} {call : Call}
    (member : call ∈ calls (Scene.chronicle engine Custody.cleanup scene)) :
    ∃ holding ∈ scene.custody.inventory.holdings,
      holding.Needs (Scene.chronicle engine Custody.cleanup scene) call := by
  obtain ⟨event, later, -, attempts, told⟩ := cleanup_chronicle engine scene
  rw [told] at member ⊢
  have inLater : call ∈ calls later := member
  obtain ⟨holding, listed, needs⟩ := attempts.needs inLater
  refine ⟨holding, listed, needs.mono ?_⟩
  intro moment inTale
  exact .tail _ (.tail _ inTale)

/-- In a drain only what was held at its beginning is let go of, and networks that were deleted. -/
theorem cleanup_forgets {ω : Type} {engine : Engine ω} {scene : Scene ω} {moment : Moment}
    (member : moment ∈ Scene.chronicle engine Custody.cleanup scene) {kind : ResourceKind}
    {id : String} (forgets : moment.forgets kind id = true) :
    scene.custody.inventory.contains kind id = true ∨
      (kind = .network ∧ Deleted id (Scene.chronicle engine Custody.cleanup scene)) := by
  obtain ⟨event, later, -, attempts, told⟩ := cleanup_chronicle engine scene
  rw [told] at member ⊢
  rcases List.mem_cons.mp member with rfl | member
  · cases forgets
  · rcases List.mem_cons.mp member with rfl | inLater
    · cases forgets
    · rcases attempts.forgets inLater forgets with listed | ⟨network, gone⟩
      · exact Or.inl (Inventory.contains_iff_listed.mpr listed)
      · exact Or.inr ⟨network, .tail _ (.tail _ gone)⟩

/-- What is registered during a drain is held at its end, unless it had been held before, somebody
took it over, or it is a network that was deleted. -/
theorem contains_of_registered {ω : Type} {engine : Engine ω} {scene : Scene ω}
    {early late : List Moment} {holding : Holding}
    (split : Scene.chronicle engine Custody.cleanup scene =
      early ++ Moment.acted (.hold holding) :: late)
    (absent : scene.custody.inventory.contains holding.kind holding.id = false)
    (unreleased : ∀ moment ∈ late, moment.releases holding.kind holding.id = false)
    (undeleted : ¬ (holding.kind = .network ∧
      Deleted holding.id (Scene.chronicle engine Custody.cleanup scene))) :
    (scene.carryOut engine Custody.cleanup).2.custody.inventory.contains
      holding.kind holding.id = true := by
  have unforgotten : ∀ moment ∈ late, moment.forgets holding.kind holding.id = false := by
    intro moment inLate
    cases forgets : moment.forgets holding.kind holding.id with
    | false => rfl
    | true =>
      have member : moment ∈ Scene.chronicle engine Custody.cleanup scene := by
        rw [split]
        exact List.mem_append_right _ (.tail _ inLate)
      rcases cleanup_forgets member forgets with held | deleted
      · rw [absent] at held
        cases held
      · exact absurd deleted undeleted
  have taken : ((early.foldl Custody.after scene.custody).after
      (.acted (.hold holding))).inventory.contains holding.kind holding.id = true := by
    simp [Custody.contains_after, Moment.takes]
  rw [Scene.custody_carryOut, split, List.foldl_append, List.foldl_cons]
  exact Custody.contains_foldl_of_kept late _ taken unreleased unforgotten

/-- A drain gives up what is held when it begins, and nothing else.  It makes one attempt for each
of these resources, containers before networks before images.  Afterwards one of them is held only
if it was registered again once its attempt had ended.  What was not held and was registered
meanwhile is held still, unless somebody took it over or it is a network that was deleted.  No call
is made but for what was held, and for the networks that were listed for it. -/
theorem cleanup_gives_up_its_snapshot {ω : Type} (engine : Engine ω) (scene : Scene ω) :
    let before := scene.custody.inventory
    let held := before.holdings
    let tale := Scene.chronicle engine Custody.cleanup scene
    let after := (scene.carryOut engine Custody.cleanup).2.custody.inventory
    (∀ kind id, before.contains kind id = true ↔
      ∃ holding ∈ held, holding.kind = kind ∧ holding.id = id) ∧
    held.Pairwise Holding.Precedes ∧
    (∃ event later, tale = .answered .holdings held :: .answered (.log event) () :: later ∧
      Attempts held later) ∧
    finished tale = held.map (fun holding => (holding.kind, holding.id)) ∧
    (∀ kind id, before.contains kind id = true → after.contains kind id = true →
      ∃ early outcome late,
        tale = early ++ .answered (.log (.stepFinished kind id outcome)) () :: late ∧
          ∃ moment ∈ late, moment.takes kind id = true) ∧
    (∀ early holding late, tale = early ++ .acted (.hold holding) :: late →
      before.contains holding.kind holding.id = false →
      (∀ moment ∈ late, moment.releases holding.kind holding.id = false) →
      ¬ (holding.kind = .network ∧ Deleted holding.id tale) →
      after.contains holding.kind holding.id = true) ∧
    (∀ call ∈ calls tale, ∃ holding ∈ held, holding.Needs tale call) := by
  intro before held tale after
  obtain ⟨event, later, -, attempts, told⟩ := cleanup_chronicle engine scene
  refine ⟨fun kind id => Inventory.contains_iff_listed, before.holdings_ordered,
    ⟨event, later, told, attempts⟩, finished_cleanup engine scene, ?_, ?_, ?_⟩
  · intro kind id wasHeld still
    exact taken_again_of_held wasHeld still
  · intro early holding late split absent unreleased undeleted
    exact contains_of_registered split absent unreleased undeleted
  · intro call member
    exact needs_of_mem_calls member

end Reclaim
