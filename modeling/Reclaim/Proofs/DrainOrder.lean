import Reclaim.Proofs.Confluence
import Reclaim.Proofs.Quiet

/-!
# The order of a drain

A drain comes to the holdings in the order in which they are listed.  In a
simulation that plays no stages this order is of no consequence: in whatever
order the same holdings are listed, each of them comes to the same outcome by
the same calls, and the same is left (`order_immaterial`).
-/

set_option autoImplicit false

namespace Reclaim

open Engine.Simulated (World)
open Procedure

/-! ## Outcomes -/

/-- The outcome that a moment reports, and for which resource. -/
def Moment.verdict? : Moment → Option (Resource × Outcome)
  | .answered (.log (.stepFinished kind id outcome)) _ => some ((kind, id), outcome)
  | .acted _ | .answered _ _ => none

def verdicts (tale : List Moment) : List (Resource × Outcome) := tale.filterMap Moment.verdict?

theorem map_verdicts (tale : List Moment) : (verdicts tale).map Prod.fst = finished tale := by
  rw [verdicts, finished, List.map_filterMap]
  congr
  funext moment
  cases moment with
  | acted act => rfl
  | answered request reply =>
    cases request with
    | log event => cases event <;> rfl
    | _ => rfl

/-! ## Drains of a listing -/

namespace Custody

def giveUpAll (listed : List Holding) : Procedure Unit :=
  if listed.isEmpty then .log .nothingHeld
  else .ask (.log (.draining listed.length)) fun _ => drain listed

theorem cleanup_eq : cleanup = .ask .holdings giveUpAll := rfl

def step (holding : Holding) : Procedure Unit :=
  (giveUp holding).bind fun outcome => .log (.stepFinished holding.kind holding.id outcome)

theorem concerns_step (holding : Holding) : (step holding).Concerns holding.resource :=
  (concerns_giveUp holding).bind fun _ => concerns_log _

def announcement (listed : List Holding) : Journal.Event :=
  if listed.isEmpty then .nothingHeld else .draining listed.length

theorem giveUpAll_eq (listed : List Holding) :
    giveUpAll listed = .ask (.log (announcement listed)) fun _ => each step listed := by
  cases listed with
  | nil => rfl
  | cons holding rest => rfl

theorem announcement_of_perm {first second : List Holding} (same : first.Perm second) :
    announcement first = announcement second := by
  rw [announcement, announcement, same.isEmpty_eq, same.length_eq]

end Custody

theorem Inventory.eq_of_find? {first second : Inventory}
    (same : ∀ kind id, first.find? kind id = second.find? kind id) : first = second := by
  have containers : first.containers = second.containers := by
    refine Keyed.eq_of_get? fun id => ?_
    have labels := congrArg (Option.map Holding.label) (same .container id)
    rwa [map_label_find?, map_label_find?] at labels
  have present {map other : Keyed Unit} {id : String} {holding : Holding}
      (alike : (map.get? id).map (fun _ => holding) = (other.get? id).map fun _ => holding) :
      map.get? id = other.get? id := by
    cases inFirst : map.get? id <;> cases inSecond : other.get? id <;>
      first | rfl | (rw [inFirst, inSecond] at alike; cases alike)
  have networks : first.networks = second.networks :=
    Keyed.eq_of_get? fun id => present (same .network id)
  have images : first.images = second.images :=
    Keyed.eq_of_get? fun id => present (same .image id)
  cases first
  cases second
  simp_all

namespace Scene

open Engine.Simulated (engine)

variable {scene : Scene World} {first second : List Holding}

/-- Two drains that come to the same holdings in different orders agree on everything: what happens
in the one happens in the other, if not in the same order. -/
theorem agree_of_perm (unstaged : scene.world.stages = .empty) (same : first.Perm second)
    (distinct : first.Pairwise fun earlier later => earlier.resource ≠ later.resource) :
    (chronicle engine (Custody.giveUpAll first) scene).Perm
        (chronicle engine (Custody.giveUpAll second) scene) ∧
      ∀ resource, Agree resource (scene.carryOut engine (Custody.giveUpAll first)).2
        (scene.carryOut engine (Custody.giveUpAll second)).2 := by
  let noted : Scene World := scene.report [Custody.announcement second]
  have distinctToo := (same.pairwise_iff fun different => Ne.symm different).mp distinct
  have unstagedYet : noted.world.stages = .empty := unstaged
  obtain ⟨firstTale, firstAgree, firstElsewhere⟩ :=
    each_alone Custody.concerns_step distinct unstagedYet
  obtain ⟨secondTale, secondAgree, secondElsewhere⟩ :=
    each_alone Custody.concerns_step distinctToo unstagedYet
  rw [Custody.giveUpAll_eq, Custody.giveUpAll_eq, Custody.announcement_of_perm same]
  constructor
  · refine List.Perm.cons _ ?_
    change (chronicle engine (each Custody.step first) noted).Perm
      (chronicle engine (each Custody.step second) noted)
    rw [firstTale, secondTale]
    exact same.flatMap_right _
  · intro resource
    change Agree resource (noted.carryOut engine (each Custody.step first)).2
      (noted.carryOut engine (each Custody.step second)).2
    -- A resource is about what its own step leaves of it, or as it was.
    by_cases listed : ∃ holding ∈ first, holding.resource = resource
    · obtain ⟨holding, member, rfl⟩ := listed
      exact (firstAgree holding member).symm.trans (secondAgree holding (same.mem_iff.mp member))
    · have absent : ∀ holding ∈ first, holding.resource ≠ resource :=
        fun holding member about => listed ⟨holding, member, about⟩
      exact (firstElsewhere resource absent).symm.trans
        (secondElsewhere resource fun holding member => absent holding (same.mem_iff.mpr member))

theorem finished_giveUpAll (listed : List Holding) :
    finished (chronicle engine (Custody.giveUpAll listed) scene) =
      listed.map Holding.resource := by
  obtain ⟨event, later, plain, attempts, -, told⟩ :=
    (drain_or_nothing_ensures listed).holds engine scene
  change chronicle engine (Custody.giveUpAll listed) scene = _ at told
  rw [told, finished, List.filterMap_cons_none (Moment.finished?_of_plain plain)]
  exact attempts.finished_eq

theorem custody_of_unstaged {α : Type} (unstaged : scene.world.stages = .empty)
    (work : Procedure α) :
    (scene.carryOut engine work).2.custody =
      { scene.custody with inventory := (scene.carryOut engine work).2.custody.inventory } := by
  rw [custody_carryOut]
  exact Custody.foldl_after_of_nobody _ _ (carryOut_of_unstaged work unstaged).2.2.2

theorem custody_eq_of_agree {α β : Type} (unstaged : scene.world.stages = .empty)
    {work : Procedure α} {other : Procedure β}
    (agree : ∀ resource, Agree resource (scene.carryOut engine work).2
      (scene.carryOut engine other).2) :
    (scene.carryOut engine work).2.custody = (scene.carryOut engine other).2.custody := by
  have inventory : (scene.carryOut engine work).2.custody.inventory =
      (scene.carryOut engine other).2.custody.inventory :=
    Inventory.eq_of_find? fun kind id => (agree (kind, id)).held
  rw [custody_of_unstaged unstaged work, custody_of_unstaged unstaged other, inventory]

end Scene

open Engine.Simulated (engine)

/-- A drain gives up all that is listed when it begins.  In a simulation that plays no stages,
whatever it was told to fail, it makes no difference in which order that is listed.  Nothing is held
afterwards, the custody is the same otherwise, and so are the containers, networks and images that
are left; each holding has one outcome, the same in all orders, and the same exchanges are made
equally often. -/
theorem order_immaterial {scene : Scene World} (unstaged : scene.world.stages = .empty)
    {first second : List Holding} (sameFirst : first.Perm scene.custody.inventory.holdings)
    (sameSecond : second.Perm scene.custody.inventory.holdings) :
    let one := (scene.carryOut engine (Custody.giveUpAll first)).2
    let other := (scene.carryOut engine (Custody.giveUpAll second)).2
    let oneTale := Scene.chronicle engine (Custody.giveUpAll first) scene
    let otherTale := Scene.chronicle engine (Custody.giveUpAll second) scene
    Custody.cleanup = .ask .holdings Custody.giveUpAll ∧
    (one.custody = { scene.custody with inventory := .empty } ∧ other.custody = one.custody) ∧
    (other.world.containers = one.world.containers ∧ other.world.networks = one.world.networks ∧
      other.world.images = one.world.images) ∧
    ((verdicts oneTale).map Prod.fst = first.map Holding.resource ∧
      (verdicts otherTale).Perm (verdicts oneTale)) ∧
    (exchanges otherTale).Perm (exchanges oneTale) := by
  intro one other oneTale otherTale
  have distinct {listed : List Holding} (same : listed.Perm scene.custody.inventory.holdings) :
      listed.Pairwise fun earlier later => earlier.resource ≠ later.resource :=
    (same.pairwise_iff fun different => Ne.symm different).mpr
      scene.custody.inventory.distinct_resources
  obtain ⟨sameTale, agree⟩ := Scene.agree_of_perm unstaged (sameSecond.trans sameFirst.symm)
    (distinct sameSecond)
  -- The drain itself takes one of the orders, and leaves nothing held.
  obtain ⟨-, agreeCleanup⟩ := Scene.agree_of_perm unstaged sameFirst (distinct sameFirst)
  have emptied : one.custody = { scene.custody with inventory := .empty } := by
    have nobody := (Scene.carryOut_of_unstaged Custody.cleanup unstaged).2.2.2
    have drained := Scene.cleanup_empties_of_nobody nobody
    have whole := Scene.custody_of_unstaged unstaged Custody.cleanup
    rw [drained] at whole
    exact (Scene.custody_eq_of_agree unstaged agreeCleanup).trans whole
  refine ⟨Custody.cleanup_eq, ⟨emptied, Scene.custody_eq_of_agree unstaged agree⟩,
    World.eq_of_same fun resource => (agree resource).world.same, ⟨?_, sameTale.filterMap _⟩,
    sameTale.filterMap _⟩
  rw [map_verdicts]
  exact Scene.finished_giveUpAll first

namespace Bequest

open Scene

/-- A scene with two containers, a network and an image that are held.  No container can be stopped,
and no network can be deleted. -/
def jammed : Scene World :=
  (opening custody { World.empty with
    containers := (Keyed.empty.insert "a" ⟨"redis:7", true, .empty⟩).insert
      "b" ⟨"redis:7", false, .empty⟩
    networks := Keyed.empty.insert "n1" "backend"
    images := Keyed.empty.insert "app:dev" ()
    failures := [(.kill, .transport "kill" "permission denied"),
      (.removeNetwork, .transport "network rm" "in use")] }).actAll
      [.hold ⟨.container, "a", "redis:7"⟩, .hold ⟨.container, "b", "redis:7"⟩,
        .hold (.unlabelled .network "n1"), .hold (.unlabelled .image "app:dev")]

/-- The other way round each of them comes to the same outcome, and the same is left. -/
theorem order_immaterial_jammed :
    jammed.world.stages = .empty ∧
      jammed.custody.inventory.holdings.reverse.Perm jammed.custody.inventory.holdings ∧
      (verdicts (chronicle engine (Custody.giveUpAll jammed.custody.inventory.holdings.reverse)
        jammed)).Perm
        [((.container, "a"), .removed), ((.container, "b"), .removed),
          ((.network, "n1"), .removeFailed), ((.image, "app:dev"), .removed)] ∧
      (jammed.carryOut engine (Custody.giveUpAll
        jammed.custody.inventory.holdings.reverse)).2.world.networks.keys = ["n1"] := by
  have reversed := jammed.custody.inventory.holdings.reverse_perm
  obtain ⟨-, -, ⟨-, sameNetworks, -⟩, ⟨-, sameVerdicts⟩, -⟩ :=
    @order_immaterial jammed rfl _ _ (.refl _) reversed
  have forwards : verdicts (chronicle engine (Custody.giveUpAll jammed.custody.inventory.holdings)
      jammed) =
      [((.container, "a"), .removed), ((.container, "b"), .removed),
        ((.network, "n1"), .removeFailed), ((.image, "app:dev"), .removed)] := by
    decide +kernel
  rw [forwards] at sameVerdicts
  refine ⟨rfl, reversed, sameVerdicts, ?_⟩
  rw [sameNetworks]
  decide +kernel

end Bequest

end Reclaim
