import Reclaim.Proofs.Handover
import Reclaim.Proofs.Locality
import Reclaim.Proofs.Stamps
import Reclaim.Proofs.Sweeps

/-!
# Confluence of the walks of a sweep

The containers of a listing may be given up at the same time.  `Together` says
what comes of several procedures whose requests are answered in some order; in a
simulation that plays no stages it makes no difference in which, as long as they
are about different resources (`Together.alone`).  So the walks for a listing
always go as if they were made one after another, and leave the same behind
(`walks_confluent`).
-/

set_option autoImplicit false

namespace Reclaim

open Engine (Call ListedContainer)
open Engine.Simulated (World)
open Procedure

/-! ## Several procedures at the same time -/

theorem Procedure.bind_unit (work : Procedure Unit) : (work.bind fun _ => .done ()) = work := by
  induction work with
  | done value => rfl
  | ask request next ih => simp only [bind_ask, ih]

namespace Scene

variable {ω α : Type}

def told (engine : Engine ω) (scene : Scene ω) (work : Procedure α) : List Moment × α :=
  (chronicle engine work scene, (scene.carryOut engine work).1)

/-- Several procedures are carried out at the same time, request by request in any order.  For each
of them it is noted what happens to it, and its value. -/
inductive Together (engine : Engine ω) :
    List (Procedure α) → Scene ω → List (List Moment × α) → Scene ω → Prop where
  | done (values : List α) (scene : Scene ω) :
      Together engine (values.map .done) scene (values.map fun value => ([], value)) scene
  /-- One of the procedures has its next request answered. -/
  | ask {before after : List (Procedure α)} {request : Request}
      {next : request.Reply → Procedure α} {scene final : Scene ω}
      {early late : List (List Moment × α)} {tale : List Moment} {value : α}
      (aligned : early.length = before.length)
      (rest : Together engine (before ++ next (reply engine request scene).1 :: after)
        (reply engine request scene).2 (early ++ (tale, value) :: late) final) :
      Together engine (before ++ .ask request next :: after) scene
        (early ++ ((scene.interruptions engine request).map .acted ++
          .answered request (reply engine request scene).1 :: tale, value) :: late) final

def inTurn (engine : Engine ω) :
    List (Procedure α) → Scene ω → List (List Moment × α) × Scene ω
  | [], scene => ([], scene)
  | work :: rest, scene =>
    let later := inTurn engine rest (scene.carryOut engine work).2
    (scene.told engine work :: later.1, later.2)

variable {engine : Engine ω} {scene final : Scene ω} {works : List (Procedure α)}
  {made : List (List Moment × α)}

theorem Together.finished (together : Together engine works scene made final) (value : α) :
    Together engine (.done value :: works) scene (([], value) :: made) final := by
  induction together with
  | done values scene => exact .done (value :: values) scene
  | ask aligned rest ih =>
    exact @Together.ask _ _ _ (.done value :: _) _ _ _ _ _ (([], value) :: _) _ _ _
      (congrArg Nat.succ aligned) ih

/-- One of the procedures may be carried out before the others are begun. -/
theorem Together.first (work : Procedure α)
    (together : Together engine works (scene.carryOut engine work).2 made final) :
    Together engine (work :: works) scene (scene.told engine work :: made) final := by
  induction work generalizing scene with
  | done value => exact together.finished value
  | ask request next ih => exact @Together.ask _ _ _ [] _ _ _ _ _ [] _ _ _ rfl (ih _ together)

theorem together_inTurn (engine : Engine ω) (works : List (Procedure α)) (scene : Scene ω) :
    Together engine works scene (inTurn engine works scene).1 (inTurn engine works scene).2 := by
  induction works generalizing scene with
  | nil => exact .done [] scene
  | cons work rest ih => exact .first work (ih (scene.carryOut engine work).2)

theorem inTurn_map {β : Type} (engine : Engine ω) (work : β → Procedure α) (items : List β)
    (scene : Scene ω) :
    ((inTurn engine (items.map work) scene).1.map Prod.fst).flatten =
        chronicle engine (each (fun item => (work item).bind fun _ => .done ()) items) scene ∧
      (inTurn engine (items.map work) scene).2 =
        (scene.carryOut engine
          (each (fun item => (work item).bind fun _ => .done ()) items)).2 := by
  induction items generalizing scene with
  | nil => exact ⟨rfl, rfl⟩
  | cons item rest ih =>
    obtain ⟨sameTale, sameScene⟩ := ih (scene.carryOut engine (work item)).2
    simp only [List.map_cons, inTurn, each, bind_assoc, bind_done, chronicle_bind, carryOut_bind,
      List.flatten_cons, sameTale, sameScene, told, and_self]

end Scene

/-! ## Procedures about different resources -/

namespace Scene

open Engine.Simulated (engine)

variable {α : Type} {scene final : Scene World} {made : List (List Moment × α)}

/-- What happens to one resource makes no difference to procedures about others. -/
theorem unaffected {resource : Resource} {after : Scene World}
    (confined : Confined resource scene after) (unstaged : scene.world.stages = .empty)
    {jobs : List (Resource × Procedure α)} (concerns : ∀ job ∈ jobs, job.2.Concerns job.1)
    (others : resource ∉ jobs.map Prod.fst) :
    ∀ job ∈ jobs, after.told engine job.2 = scene.told engine job.2 ∧
      Agree job.1 (scene.carryOut engine job.2).2 (after.carryOut engine job.2).2 := by
  intro job member
  have different : job.1 ≠ resource := by
    rintro rfl
    exact others (List.mem_map_of_mem member)
  obtain ⟨sameValue, sameTale, agree⟩ :=
    carryOut_agree (concerns job member) unstaged (confined.agree different)
  refine ⟨?_, agree⟩
  rw [told, told, sameValue, sameTale]

/-- Of several procedures about different resources each goes as if it were the only one, in
whatever order their requests are answered. -/
theorem Together.alone {jobs : List (Resource × Procedure α)}
    (together : Together engine (jobs.map Prod.snd) scene made final)
    (concerns : ∀ job ∈ jobs, job.2.Concerns job.1)
    (distinct : (jobs.map Prod.fst).Nodup) (unstaged : scene.world.stages = .empty) :
    made = jobs.map (fun job => scene.told engine job.2) ∧
      (∀ job ∈ jobs, Agree job.1 (scene.carryOut engine job.2).2 final) ∧
      ∀ other, other ∉ jobs.map Prod.fst → Agree other scene final := by
  generalize same : jobs.map Prod.snd = works at together
  induction together generalizing jobs with
  | done values scene =>
    refine ⟨?_, ?_, fun other _ => .refl other scene⟩
    · have whole := congrArg (List.map (scene.told engine)) same
      rw [List.map_map, List.map_map] at whole
      exact whole.symm
    · intro job member
      have finished : job.2 ∈ values.map Procedure.done :=
        same ▸ List.mem_map_of_mem (f := Prod.snd) member
      obtain ⟨value, -, done⟩ := List.mem_map.mp finished
      rw [← done]
      exact .refl job.1 scene
  | @ask before after request next scene final early late tale value aligned rest ih =>
    obtain ⟨sooner, others, rfl, rfl, sameOthers⟩ := List.map_eq_append_iff.mp same
    obtain ⟨⟨resource, work⟩, later, rfl, rfl, rfl⟩ := List.map_eq_cons_iff.mp sameOthers
    obtain ⟨concernsSooner, concernsRest⟩ := List.forall_mem_append.mp concerns
    obtain ⟨begun, concernsLater⟩ := List.forall_mem_cons.mp concernsRest
    have begun : (Procedure.ask request next).Concerns resource := begun
    -- The request is about the resource of its own procedure; the other procedures find theirs as
    -- they were.
    have confined := reply_confined begun.1 unstaged
    have others : resource ∉ (sooner ++ later).map Prod.fst := by
      rw [List.map_append, List.map_cons, List.perm_middle.nodup_iff, ← List.map_append] at distinct
      exact (List.nodup_cons.mp distinct).1
    have unaffected := List.forall_mem_append.mp (unaffected confined unstaged
      (List.forall_mem_append.mpr ⟨concernsSooner, concernsLater⟩) others)
    have unstagedLater : (reply engine request scene).2.world.stages = .empty :=
      (reply_keeps_of_unstaged unstaged request).1.trans unstaged
    obtain ⟨made, agree, elsewhere⟩ := @ih
      (sooner ++ (resource, next (reply engine request scene).1) :: later)
      (List.forall_mem_append.mpr ⟨concernsSooner, List.forall_mem_cons.mpr
        (And.intro (begun.2 _ (narrow_reply unstaged request)) concernsLater)⟩)
      (by simpa using distinct) unstagedLater (by simp)
    refine ⟨?_, ?_, ?_⟩
    · rw [List.map_append, List.map_cons] at made
      obtain ⟨sameEarly, sameRest⟩ := List.append_inj made (by simpa using aligned)
      obtain ⟨sameMiddle, sameLate⟩ := List.cons.inj sameRest
      obtain ⟨rfl, rfl⟩ := Prod.mk.inj sameMiddle
      rw [List.map_append, List.map_cons, sameEarly, sameLate,
        List.map_congr_left fun job member => (unaffected.1 job member).1,
        List.map_congr_left fun job member => (unaffected.2 job member).1]
      rfl
    · obtain ⟨agreeSooner, agreeRest⟩ := List.forall_mem_append.mp agree
      obtain ⟨agreeOwn, agreeLater⟩ := List.forall_mem_cons.mp agreeRest
      refine List.forall_mem_append.mpr ⟨?_, List.forall_mem_cons.mpr ⟨agreeOwn, ?_⟩⟩
      · intro job member
        exact (unaffected.1 job member).2.trans (agreeSooner job member)
      · intro job member
        exact (unaffected.2 job member).2.trans (agreeLater job member)
    · intro other unconcerned
      have elsewhereNow : Agree other scene (reply engine request scene).2 := by
        refine confined.agree ?_
        rintro rfl
        exact unconcerned (List.mem_map_of_mem (f := Prod.fst) (List.mem_append_right _ (.head _)))
      exact elsewhereNow.trans (elsewhere other (by simpa using unconcerned))

theorem each_alone {β : Type} {work : β → Procedure Unit} {about : β → Resource}
    (concerns : ∀ item, (work item).Concerns (about item)) {items : List β}
    (distinct : items.Pairwise fun earlier later => about earlier ≠ about later)
    (unstaged : scene.world.stages = .empty) :
    chronicle engine (each work items) scene =
        items.flatMap (fun item => chronicle engine (work item) scene) ∧
      (∀ item ∈ items, Agree (about item) (scene.carryOut engine (work item)).2
        (scene.carryOut engine (each work items)).2) ∧
      ∀ other, (∀ item ∈ items, about item ≠ other) →
        Agree other scene (scene.carryOut engine (each work items)).2 := by
  let jobs : List (Resource × Procedure Unit) := items.map fun item => (about item, work item)
  have works : jobs.map Prod.snd = items.map work := List.map_map
  have resources : jobs.map Prod.fst = items.map about := List.map_map
  have together := together_inTurn engine (items.map work) scene
  obtain ⟨sameTale, sameScene⟩ := inTurn_map engine work items scene
  simp only [bind_unit] at sameTale sameScene
  rw [sameScene, ← works] at together
  obtain ⟨made, agree, elsewhere⟩ := together.alone (List.forall_mem_map.mpr fun item _ =>
    concerns item) (resources ▸ List.pairwise_map.mpr distinct) unstaged
  rw [works] at made
  refine ⟨?_, List.forall_mem_map.mp agree, fun other unconcerned => elsewhere other ?_⟩
  · rw [← sameTale, made, List.map_map, List.map_map, List.flatMap_def]
    rfl
  · rw [resources]
    intro member
    obtain ⟨item, listed, same⟩ := List.mem_map.mp member
    exact unconcerned item listed same

/-- The order in which the requests of procedures about different resources are answered makes no
difference. -/
theorem Together.confluent {jobs : List (Resource × Procedure α)} {other : Scene World}
    {others : List (List Moment × α)}
    (first : Together engine (jobs.map Prod.snd) scene made final)
    (second : Together engine (jobs.map Prod.snd) scene others other)
    (concerns : ∀ job ∈ jobs, job.2.Concerns job.1)
    (distinct : (jobs.map Prod.fst).Nodup) (unstaged : scene.world.stages = .empty) :
    others = made ∧ ∀ resource, Agree resource other final := by
  obtain ⟨firstMade, firstAgree, firstElsewhere⟩ := first.alone concerns distinct unstaged
  obtain ⟨secondMade, secondAgree, secondElsewhere⟩ := second.alone concerns distinct unstaged
  refine ⟨secondMade.trans firstMade.symm, fun resource => ?_⟩
  by_cases listed : resource ∈ jobs.map Prod.fst
  · obtain ⟨job, member, rfl⟩ := List.mem_map.mp listed
    exact (secondAgree job member).symm.trans (firstAgree job member)
  · exact (secondElsewhere resource listed).symm.trans (firstElsewhere resource listed)

end Scene

/-! ## The walks for a listing -/

namespace Sweep

/-- Asks for the containers that carry all labels of a selector.  There are none to be given up
where that is refused or fails. -/
def listing (selector : Selector) : Procedure (List ListedContainer) := do
  let labels := selector.labelFilters
  if labels.isEmpty then
    Procedure.log (.sweepRefused .containers)
    return []
  else
    Procedure.log (.sweeping .containers labels)
    let answer ← Procedure.call (.listContainers labels)
    let listed ← Removal.swallow answer .warn "failed to list containers for pruning"
      (String.intercalate "," labels)
    return listed.getD []

def removal (container : ListedContainer) : Procedure Outcome :=
  Removal.container container.id (some container.image)

theorem kind_containers (selector : Selector) :
    Sweep.kind .containers selector = (listing selector).bind containers := by
  simp only [Sweep.kind, listing, bind_eq, pure_eq, log_eq, call_eq]
  split
  · rfl
  · simp only [bind_ask, bind_done, bind_assoc]
    refine congrArg _ (funext fun _ => congrArg _ (funext fun answer => ?_))
    refine congrArg _ (funext fun listed => ?_)
    cases listed <;> rfl

end Sweep

namespace Scene

open Engine.Simulated (engine)

variable {scene : Scene World}

/-- What the simulation lists, if it lists anything, are the containers that carry the labels. -/
theorem listed_of_unstaged (unstaged : scene.world.stages = .empty) (selector : Selector) :
    (scene.carryOut engine (Sweep.listing selector)).1 = [] ∨
      (scene.carryOut engine (Sweep.listing selector)).1 =
        scene.world.carriers selector.labelFilters := by
  simp only [Sweep.listing, bind_eq, pure_eq, log_eq, call_eq]
  split
  · exact Or.inl rfl
  · simp only [bind_ask, bind_done]
    rw [carryOut_ask]
    let noted : Scene World := scene.report [.sweeping .containers selector.labelFilters]
    change (noted.carryOut engine _).1 = [] ∨ (noted.carryOut engine _).1 = _
    have unstagedYet : noted.world.stages = .empty := unstaged
    rw [carryOut_ask, reply_call_of_unstaged unstagedYet, World.answer_eq]
    cases noted.world.failure? (Call.listContainers selector.labelFilters).kindOf with
    | some fault => exact Or.inl rfl
    | none => exact Or.inr rfl

theorem nodup_listing (unstaged : scene.world.stages = .empty) (selector : Selector) :
    ((scene.carryOut engine (Sweep.listing selector)).1.map ListedContainer.id).Nodup := by
  rcases listed_of_unstaged unstaged selector with nothing | carriers
  · rw [nothing]
    exact .nil
  · rw [carriers]
    exact nodup_carriers scene.world selector.labelFilters

/-- The walks for a listing may be made at the same time, request by request in any order.  In a
simulation that plays no stages, whatever it was told to fail, each of them goes as it does when
they are made one after another in the order of the listing, and comes to the same outcome; and the
same containers, networks and images are left.  One after another is how a sweep makes them. -/
theorem walks_confluent (unstaged : scene.world.stages = .empty) (selector : Selector) :
    let listed := (scene.carryOut engine (Sweep.listing selector)).1
    let start := (scene.carryOut engine (Sweep.listing selector)).2
    let swept := (scene.carryOut engine (Sweep.kind .containers selector)).2
    let made := (inTurn engine (listed.map Sweep.removal) start).1
    Together engine (listed.map Sweep.removal) start made swept ∧
    chronicle engine (Sweep.kind .containers selector) scene =
      chronicle engine (Sweep.listing selector) scene ++ (made.map Prod.fst).flatten ∧
    ∀ others final, Together engine (listed.map Sweep.removal) start others final →
      others = made ∧ final.world.containers = swept.world.containers ∧
        final.world.networks = swept.world.networks ∧ final.world.images = swept.world.images := by
  intro listed start swept made
  obtain ⟨sameTale, sameScene⟩ := inTurn_map engine Sweep.removal listed start
  have whole : swept = (inTurn engine (listed.map Sweep.removal) start).2 := by
    rw [sameScene]
    change (scene.carryOut engine (Sweep.kind .containers selector)).2 = _
    rw [Sweep.kind_containers, carryOut_bind]
    rfl
  have one : Together engine (listed.map Sweep.removal) start made swept := by
    rw [whole]
    exact together_inTurn engine (listed.map Sweep.removal) start
  refine ⟨one, ?_, ?_⟩
  · rw [sameTale, Sweep.kind_containers, chronicle_bind]
    rfl
  · intro others final another
    let jobs : List (Resource × Procedure Outcome) :=
      listed.map fun container => ((.container, container.id), Sweep.removal container)
    have works : jobs.map Prod.snd = listed.map Sweep.removal := List.map_map
    have concerns : ∀ job ∈ jobs, job.2.Concerns job.1 := by
      intro job member
      obtain ⟨container, -, rfl⟩ := List.mem_map.mp member
      exact concerns_container container.id (some container.image)
    have distinct : (jobs.map Prod.fst).Nodup := by
      have apart := List.pairwise_map.mp (nodup_listing unstaged selector)
      rw [List.map_map]
      refine List.pairwise_map.mpr (apart.imp ?_)
      intro first second different same
      exact different (Prod.mk.inj same).2
    have unstagedYet : start.world.stages = .empty :=
      (carryOut_of_unstaged (Sweep.listing selector) unstaged).1
    rw [← works] at one another
    obtain ⟨sameMade, agree⟩ := one.confluent another concerns distinct unstagedYet
    exact ⟨sameMade, World.eq_of_same fun resource => (agree resource).world.same⟩

end Scene

namespace Bequest

open Scene
open Engine.Simulated (engine)

/-- A scene with two containers that carry the label asked for, one of them running, and a third
one.  No container can be stopped. -/
def unstoppable : Scene World :=
  opening custody { World.empty with
    containers :=
      ((Keyed.empty.insert "a" ⟨"redis:7", true, Keyed.empty.insert "team" "blue"⟩).insert
        "b" ⟨"redis:7", false, Keyed.empty.insert "team" "blue"⟩).insert
        "c" ⟨"redis:7", true, Keyed.empty.insert "team" "red"⟩
    failures := [(.kill, .transport "kill" "permission denied")] }

/-- In whatever order the two are walked, both are deleted, one of them after a failure to stop it,
and the third is left. -/
theorem walks_confluent_unstoppable :
    unstoppable.world.stages = .empty ∧
      (unstoppable.carryOut engine (Sweep.listing custody.selector)).1 =
        [⟨"a", "redis:7"⟩, ⟨"b", "redis:7"⟩] ∧
      ∀ made final, Together engine ([⟨"a", "redis:7"⟩, ⟨"b", "redis:7"⟩].map Sweep.removal)
          (unstoppable.carryOut engine (Sweep.listing custody.selector)).2 made final →
        made.map (fun told => (calls told.1, told.2)) =
          [([.inspect "a", .kill "a", .inspect "a", .forceRemove "a"], .removed),
            ([.inspect "b", .inspect "b", .forceRemove "b"], .removed)] ∧
        final.world.containers.keys = ["c"] := by
  have listed : (unstoppable.carryOut engine (Sweep.listing custody.selector)).1 =
      [⟨"a", "redis:7"⟩, ⟨"b", "redis:7"⟩] := by
    decide +kernel
  have confluent := @walks_confluent unstoppable rfl custody.selector
  rw [listed] at confluent
  obtain ⟨-, -, same⟩ := confluent
  refine ⟨rfl, listed, fun made final together => ?_⟩
  obtain ⟨sameMade, sameContainers, -⟩ := same made final together
  rw [sameMade, sameContainers]
  decide +kernel

end Bequest

end Reclaim
