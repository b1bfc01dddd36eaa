import Reclaim.Proofs.Renewal

/-!
# What the removal of a container comes to

A removal looks at the container, stops it if it was seen running, looks at it
again, and deletes it only if the second look succeeds.  Which calls are made
is settled by the answers alone, and so is the outcome
(`container_keeps_to_its_walk`).  A container is reported as gone by a look
that says so, but also by a second look that fails for any other reason
(`gone_or_out_of_sight`).
-/

set_option autoImplicit false

namespace Reclaim

open Engine (ContainerState Report)
open Procedure

/-! ## Looks and removals -/

def Exchange.look? : Exchange → Option (Except Report ContainerState)
  | ⟨.inspect _, answer⟩ => some answer
  | _ => none

def looks (made : List Exchange) : List (Except Report ContainerState) :=
  made.filterMap Exchange.look?

def Exchange.removal? : Exchange → Option (Except Report Unit)
  | ⟨.remove _ _ _, answer⟩ => some answer
  | _ => none

def removals (made : List Exchange) : List (Except Report Unit) :=
  made.filterMap Exchange.removal?

@[simp] theorem looks_append (first second : List Exchange) :
    looks (first ++ second) = looks first ++ looks second :=
  List.filterMap_append

@[simp] theorem removals_append (first second : List Exchange) :
    removals (first ++ second) = removals first ++ removals second :=
  List.filterMap_append

section Walk

variable {id : String} {state : ContainerState} {made stops : List Exchange} {outcome : Outcome}

theorem Stops.calls (stopped : Stops id state stops) :
    stops.map Exchange.call = if state.running then [.kill id] else [] := by
  unfold Stops at stopped
  split at stopped
  next running =>
    obtain ⟨answer, rfl⟩ := stopped
    simp [running]
  next standing => simp [stopped, standing]

theorem Stops.eq_nil_or (stopped : Stops id state stops) :
    stops = [] ∨ ∃ answer, stops = [⟨.kill id, answer⟩] := by
  unfold Stops at stopped
  split at stopped
  · exact .inr stopped
  · exact .inl stopped

theorem Stops.looks_eq_nil (stopped : Stops id state stops) : looks stops = [] := by
  rcases stopped.eq_nil_or with rfl | ⟨answer, rfl⟩ <;> rfl

theorem Stops.removals_eq_nil (stopped : Stops id state stops) : removals stops = [] := by
  rcases stopped.eq_nil_or with rfl | ⟨answer, rfl⟩ <;> rfl

theorem ContainerWalk.shape (walk : ContainerWalk id made outcome) :
    ∃ look later, made = ⟨.inspect id, look⟩ :: later ∧
      match look with
      | .error _ => later = []
      | .ok state => ∃ stops again deletions,
          later = stops ++ ⟨.inspect id, again⟩ :: deletions ∧
          stops.map Exchange.call = (if state.running then [.kill id] else []) ∧
          deletions.map Exchange.call = (if again.isOk then [.forceRemove id] else []) := by
  cases walk with
  | gone missing => exact ⟨_, [], rfl, rfl⟩
  | unclear present => exact ⟨_, [], rfl, rfl⟩
  | @found state stops deletion _ stopped deletes =>
    refine ⟨_, _, rfl, stops, ?_⟩
    cases deletes with
    | vanished => exact ⟨_, _, rfl, stopped.calls, rfl⟩
    | removed => exact ⟨_, _, rfl, stopped.calls, rfl⟩
    | failed => exact ⟨_, _, rfl, stopped.calls, rfl⟩

/-- What the looks show and what the deletion is answered, with the outcome that follows. -/
theorem ContainerWalk.evidence (walk : ContainerWalk id made outcome) :
    (∃ report, looks made = [.error report] ∧ removals made = [] ∧
        outcome = if report.isNotFound then .alreadyGone else .gaveUp) ∨
      (∃ state report, looks made = [.ok state, .error report] ∧ removals made = [] ∧
        outcome = .alreadyGone) ∨
      ∃ state again answer, looks made = [.ok state, .ok again] ∧ removals made = [answer] ∧
        outcome = if answer.isOk then .removed else .removeFailed := by
  cases walk with
  | @gone report missing => exact .inl ⟨report, rfl, rfl, by simp [missing]⟩
  | @unclear report present => exact .inl ⟨report, rfl, rfl, by simp [present]⟩
  | @found state stops deletion _ stopped deletes =>
    have seen : looks (⟨.inspect id, .ok state⟩ :: (stops ++ deletion)) =
        .ok state :: looks deletion := by
      change .ok state :: looks (stops ++ deletion) = _
      rw [looks_append, stopped.looks_eq_nil, List.nil_append]
    have deleted : removals (⟨.inspect id, .ok state⟩ :: (stops ++ deletion)) =
        removals deletion := by
      change removals (stops ++ deletion) = _
      rw [removals_append, stopped.removals_eq_nil, List.nil_append]
    rw [seen, deleted]
    cases deletes with
    | @vanished report => exact .inr (.inl ⟨state, report, rfl, rfl, rfl⟩)
    | @removed again => exact .inr (.inr ⟨state, again, .ok (), rfl, rfl, rfl⟩)
    | @failed again report => exact .inr (.inr ⟨state, again, .error report, rfl, rfl, rfl⟩)

/-- Each outcome is told by the looks or by the deletion. -/
theorem ContainerWalk.outcome_iff (walk : ContainerWalk id made outcome) :
    (outcome = .gaveUp ↔ ∃ report, looks made = [.error report] ∧ report.isNotFound = false) ∧
      (outcome = .removed ↔ removals made = [.ok ()]) ∧
      (outcome = .removeFailed ↔ ∃ report, removals made = [.error report]) ∧
      (outcome = .alreadyGone ↔
        (∃ report, looks made = [.error report] ∧ report.isNotFound = true) ∨
          ∃ state report, looks made = [.ok state, .error report]) := by
  rcases walk.evidence with ⟨report, seen, answered, rfl⟩ | ⟨state, report, seen, answered, rfl⟩ |
    ⟨state, again, answer, seen, answered, rfl⟩
  · cases missing : report.isNotFound <;> simp [seen, answered, missing]
  · simp [seen, answered]
  · cases answer <;> simp [seen, answered, Except.isOk, Except.toBool]

end Walk

namespace Scene

variable {ω : Type} (engine : Engine ω) (scene : Scene ω) (id : String) (label : Option String)

theorem walk_container :
    ContainerWalk id (exchanges (chronicle engine (Removal.container id label) scene))
      (scene.carryOut engine (Removal.container id label)).1 :=
  ((container_ensures id label).holds engine scene).1

/-- The first look shows what the engine answers in the scene where the removal begins. -/
theorem first_look : ∃ later, exchanges (chronicle engine (Removal.container id label) scene) =
    ⟨.inspect id, (engine (.inspect id) scene.world).answer⟩ :: later := by
  simp only [Removal.container, bind_eq, call_eq, bind_ask, chronicle_ask, exchanges_append,
    exchanges_acted, List.nil_append, exchanges_cons_call]
  exact ⟨_, rfl⟩

end Scene

open Scene

/-- A removal looks at its container once, and does nothing more if that fails.  Otherwise it stops
the container exactly if it was seen running, looks at it again whatever came of that, and deletes
it with its volumes exactly if the second look succeeds.  It gives up exactly if the first look
fails for another reason than the absence of the container; it has removed the container exactly if
the deletion succeeded; and only a deletion that fails makes it report one. -/
theorem container_keeps_to_its_walk {ω : Type} (engine : Engine ω) (scene : Scene ω) (id : String)
    (label : Option String) :
    let made := exchanges (chronicle engine (Removal.container id label) scene)
    let outcome := (scene.carryOut engine (Removal.container id label)).1
    let look := (engine (.inspect id) scene.world).answer
    (∃ later, made = ⟨.inspect id, look⟩ :: later ∧
      match look with
      | .error _ => later = []
      | .ok state => ∃ stops again deletions,
          later = stops ++ ⟨.inspect id, again⟩ :: deletions ∧
          stops.map Exchange.call = (if state.running then [.kill id] else []) ∧
          deletions.map Exchange.call = (if again.isOk then [.forceRemove id] else [])) ∧
    (outcome = .gaveUp ↔ ∃ report, look = .error report ∧ report.isNotFound = false) ∧
    (outcome = .removed ↔ removals made = [.ok ()]) ∧
    (outcome = .removeFailed → ∃ report, removals made = [.error report]) := by
  intro made outcome look
  have walk : ContainerWalk id made outcome := walk_container engine scene id label
  obtain ⟨others, begun⟩ : ∃ others, made = ⟨.inspect id, look⟩ :: others :=
    first_look engine scene id label
  -- The first look of the walk is what the engine answers at the beginning.
  obtain ⟨first, later, split, rest⟩ := walk.shape
  obtain ⟨same, -⟩ := List.cons.inj (split.symm.trans begun)
  cases same
  obtain ⟨gaveUp_iff, removed_iff, removeFailed_iff, -⟩ := walk.outcome_iff
  refine ⟨⟨later, split, rest⟩, ?_, removed_iff, removeFailed_iff.mp⟩
  rw [gaveUp_iff]
  have seen : looks made = look :: looks later := by
    rw [split]
    rfl
  constructor
  · rintro ⟨report, only, present⟩
    rw [seen] at only
    exact ⟨report, (List.cons.inj only).1, present⟩
  · rintro ⟨report, failed, present⟩
    rw [failed] at rest seen
    rw [rest] at seen
    exact ⟨report, seen, present⟩

/-- A container is reported as gone whenever a first look says so, and whenever a second look fails
for whatever reason; no deletion is tried then.  Otherwise it is reported as gone, if at all, only
when its deletion is answered by its absence. -/
theorem gone_or_out_of_sight {ω : Type} (engine : Engine ω) (scene : Scene ω) (id : String)
    (label : Option String) :
    let made := exchanges (chronicle engine (Removal.container id label) scene)
    let outcome := (scene.carryOut engine (Removal.container id label)).1
    let unseen := (∃ report, looks made = [.error report] ∧ report.isNotFound = true) ∨
      ∃ state report, looks made = [.ok state, .error report]
    (unseen → outcome = .alreadyGone ∧ removals made = []) ∧
    (outcome = .alreadyGone →
      unseen ∨ ∃ report, removals made = [.error report] ∧ report.isNotFound = true) := by
  intro made outcome unseen
  have walk : ContainerWalk id made outcome := walk_container engine scene id label
  obtain ⟨-, -, -, alreadyGone_iff⟩ := walk.outcome_iff
  constructor
  · intro failed
    refine ⟨alreadyGone_iff.mpr failed, ?_⟩
    rcases walk.evidence with ⟨-, -, untried, -⟩ | ⟨-, -, -, untried, -⟩ |
      ⟨state, again, answer, seen, -⟩
    · exact untried
    · exact untried
    · rcases failed with ⟨report, other, -⟩ | ⟨before, report, other⟩ <;>
        cases seen.symm.trans other
  · intro gone
    exact .inl (alreadyGone_iff.mp gone)

/-! ### A container that cannot be seen -/

def Exchange.tellsMissing (exchange : Exchange) : Bool :=
  match exchange.answer with
  | .ok _ => false
  | .error report => report.isNotFound

namespace Bequest

open Engine.Simulated (Container World engine)

def stopped : Container := ⟨"redis:7", false, .empty⟩

/-- A scene with a container that can be looked at once and not again. -/
def flickering : Scene World :=
  .opening custody { World.empty with
    containers := Keyed.empty.insert "c1" stopped
    stages := Keyed.empty.insert "c1"
      [[], [.edit (.fail .inspect (.transport "inspect" "daemon busy"))]] }

/-- The container is reported as gone.  Nothing has told of its absence, and it is still there. -/
theorem out_of_sight_taken_for_gone :
    (flickering.carryOut engine (Removal.container "c1" none)).1 = .alreadyGone ∧
      (∀ exchange ∈ exchanges (chronicle engine (Removal.container "c1" none) flickering),
        exchange.tellsMissing = false) ∧
      (flickering.carryOut engine (Removal.container "c1" none)).2.world.containers.get? "c1" =
        some stopped := by
  refine ⟨?_, ?_, ?_⟩ <;> decide +kernel

end Bequest

end Reclaim
