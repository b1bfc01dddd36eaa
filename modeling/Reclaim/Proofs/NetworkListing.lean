import Reclaim.Engine.Scripted
import Reclaim.Proofs.Client
import Reclaim.Proofs.Handover
import Reclaim.Proofs.Renewal
import Reclaim.Proofs.Utf8

/-!
# Listings of networks

The giving up of a network deletes what the engine lists for its id, all of it.
How many networks that are depends on the engine alone: behind a client program
a listing has as many entries as its output has records
(`networks_deleted_singly_iff`).
-/

set_option autoImplicit false

namespace Reclaim

open Engine (Call CommandResult ListedNetwork Shell)
open Procedure

/-- Whether an engine never lists more than one network for an id. -/
def Engine.ListsOne {ω : Type} (engine : Engine ω) : Prop :=
  ∀ id world networks, (engine (.listNetworks id) world).answer = .ok networks →
    networks.length ≤ 1

/-! ## What is deleted -/

theorem Attempt.length_shown_le {holding : Holding} {tale : List Moment}
    (attempt : Attempt holding tale)
    (single : ∀ exchange ∈ exchanges tale, exchange.networks.length ≤ 1) :
    (shownNetworks (exchanges tale)).length ≤ if holding.kind = .network then 1 else 0 := by
  by_cases network : holding.kind = .network
  · have walk := attempt.walk
    obtain ⟨kind, target, label⟩ := holding
    cases network
    obtain ⟨answer, member, shown, -⟩ := NetworkWalk.shown walk
    rw [if_pos rfl, shown, List.length_map]
    cases answer with
    | error report => exact Nat.zero_le 1
    | ok networks => exact single _ member
  · rw [if_neg network, attempt.shown_eq_nil network]
    exact Nat.le_refl 0

theorem Attempts.length_shown_le {held : List Holding} {tale : List Moment}
    (attempts : Attempts held tale)
    (single : ∀ exchange ∈ exchanges tale, exchange.networks.length ≤ 1) :
    (shownNetworks (exchanges tale)).length ≤
      held.countP fun holding => holding.kind = .network := by
  induction attempts with
  | none => exact Nat.le_refl 0
  | @next holding rest part later attempt attempts ih =>
    rw [exchanges_append, List.forall_mem_append] at single
    have first := attempt.length_shown_le single.1
    have others := ih single.2
    rw [exchanges_append, shownNetworks_append, List.length_append, List.countP_cons]
    simp only [decide_eq_true_eq]
    omega

theorem Inventory.countP_networks (inventory : Inventory) :
    (inventory.holdings.countP fun holding => holding.kind = .network) =
      inventory.networks.size := by
  simp [holdings, List.countP_map, Function.comp_def, Holding.unlabelled, Keyed.size, Keyed.keys]

namespace Scene

variable {ω α : Type} {engine : Engine ω} {scene : Scene ω}

theorem answered_of_mem {work : Procedure α} {exchange : Exchange}
    (member : exchange ∈ exchanges (chronicle engine work scene)) :
    ∃ world, (engine exchange.call world).answer = exchange.answer := by
  induction work generalizing scene with
  | done value => cases member
  | ask request next ih =>
    rw [chronicle_ask, exchanges_append, exchanges_acted, List.nil_append] at member
    cases request with
    | call call =>
      rcases List.mem_cons.mp member with rfl | later
      · exact ⟨scene.world, rfl⟩
      · exact ih _ later
    | _ => exact ih _ member

/-- The giving up of a network deletes what the engine lists for its id, in order. -/
theorem deletedNetworks_removeNetwork (engine : Engine ω) (scene : Scene ω) (id : String) :
    deletedNetworks (calls (chronicle engine (Custody.removeNetwork id) scene)) =
      (listedIn (engine (.listNetworks id) scene.world).answer).map ListedNetwork.id := by
  obtain ⟨body, -, walk, told⟩ :=
    (giveUp_ensures (.unlabelled .network id)).holds engine scene
  obtain ⟨answer, deletions, whole, called⟩ : NetworkWalk id (exchanges body) := walk
  have given : Custody.giveUp (.unlabelled .network id) = Custody.removeNetwork id := rfl
  have made : exchanges (chronicle engine (Custody.removeNetwork id) scene) =
      ⟨.listNetworks id, answer⟩ :: deletions := by
    rw [← given, told, exchanges_append, whole]
    simp
  have asked : ∃ later, exchanges (chronicle engine (Custody.removeNetwork id) scene) =
      ⟨.listNetworks id, (engine (.listNetworks id) scene.world).answer⟩ :: later := by
    simp only [Custody.removeNetwork, Removal.network, bind_eq, call_eq, bind_ask, chronicle_ask,
      exchanges_append, exchanges_acted, List.nil_append, exchanges_cons_call]
    exact ⟨_, rfl⟩
  obtain ⟨later, asked⟩ := asked
  rw [made] at asked
  cases asked
  rw [calls, made, List.map_cons, called]
  exact deletedNetworks_deletions _

/-- A drain deletes what it is shown, and no more than one network for each that is held if the
engine never shows more. -/
theorem deletedNetworks_cleanup (engine : Engine ω) (scene : Scene ω) :
    deletedNetworks (calls (chronicle engine Custody.cleanup scene)) =
        shownNetworks (exchanges (chronicle engine Custody.cleanup scene)) ∧
      (engine.ListsOne →
        (deletedNetworks (calls (chronicle engine Custody.cleanup scene))).length ≤
          scene.custody.inventory.networks.size) := by
  have answered {exchange : Exchange}
      (member : exchange ∈ exchanges (chronicle engine Custody.cleanup scene)) :=
    answered_of_mem member
  obtain ⟨event, later, -, attempts, told⟩ := cleanup_chronicle engine scene
  rw [told] at answered ⊢
  refine ⟨attempts.deletedNetworks_eq, fun single => ?_⟩
  have bounded : ∀ exchange ∈ exchanges later, exchange.networks.length ≤ 1 := by
    intro exchange member
    obtain ⟨world, same⟩ := answered member
    obtain ⟨call, answer⟩ := exchange
    cases call with
    | listNetworks id =>
      cases answer with
      | error report => exact Nat.zero_le 1
      | ok networks => exact single id world networks same
    | _ => exact Nat.zero_le 1
  have length := attempts.length_shown_le bounded
  rw [Inventory.countP_networks, ← attempts.deletedNetworks_eq] at length
  exact length

end Scene

/-! ## What is listed -/

namespace Engine.Client

variable {ω : Type} {shell : Shell ω} {program : String}

theorem listNetworks_eq_ok_iff {id : String} {world : ω} {networks : List ListedNetwork} :
    (engine shell program (.listNetworks id) world).answer = .ok networks ↔
      ∃ result rows, Runs shell program (.listNetworks id) world result ∧
        result.ending = .exited 0 ∧
        List.Forall₂ (fun line row => networkLayout.decode line = .ok row)
          (recordLines (Text.Utf8.lenientChars result.stdout)) rows ∧
        networks = rows.map networkOfRow := by
  rw [answer_eq_ok_iff]
  simp only [readOutput, map_eq_ok_iff, decodeLines_eq_ok_iff]
  constructor
  · rintro ⟨result, runs, succeeded, rows, decoded, same⟩
    exact ⟨result, rows, runs, succeeded, decoded, same⟩
  · rintro ⟨result, rows, runs, succeeded, decoded, same⟩
    exact ⟨result, runs, succeeded, rows, decoded, same⟩

/-- A client program lists one network at most for an id if no output of its listings that makes
sense has more records. -/
theorem listsOne_iff :
    (engine shell program).ListsOne ↔ ∀ id world result rows,
      Runs shell program (.listNetworks id) world result → result.ending = .exited 0 →
      List.Forall₂ (fun line row => networkLayout.decode line = .ok row)
        (recordLines (Text.Utf8.lenientChars result.stdout)) rows →
      (recordLines (Text.Utf8.lenientChars result.stdout)).length ≤ 1 := by
  constructor
  · intro single id world result rows runs succeeded decoded
    have answered := listNetworks_eq_ok_iff.mpr ⟨result, rows, runs, succeeded, decoded, rfl⟩
    have bounded := single id world _ answered
    rwa [List.length_map, ← decoded.length_eq] at bounded
  · intro few id world networks answered
    obtain ⟨result, rows, runs, succeeded, decoded, rfl⟩ := listNetworks_eq_ok_iff.mp answered
    rw [List.length_map, ← decoded.length_eq]
    exact few id world result rows runs succeeded decoded

end Engine.Client

open Engine.Client in
/-- A client program keeps to one network for an id exactly if no output of its listings that makes
sense has more than one record; nothing else bounds what is deleted.  Giving up a network deletes
all that is listed for it, and a drain deletes all that it is shown: as many networks as are held
at most if the client keeps to one, and as many as it likes otherwise. -/
theorem networks_deleted_singly_iff {ω : Type} (shell : Shell ω) (program : String) :
    ((engine shell program).ListsOne ↔ ∀ id world result rows,
      Runs shell program (.listNetworks id) world result → result.ending = .exited 0 →
      List.Forall₂ (fun line row => networkLayout.decode line = .ok row)
        (recordLines (Text.Utf8.lenientChars result.stdout)) rows →
      (recordLines (Text.Utf8.lenientChars result.stdout)).length ≤ 1) ∧
    (∀ (scene : Scene ω) id,
      deletedNetworks (calls (Scene.chronicle (engine shell program)
          (Custody.removeNetwork id) scene)) =
        (listedIn (engine shell program (.listNetworks id) scene.world).answer).map
          ListedNetwork.id) ∧
    ∀ scene : Scene ω,
      let tale := Scene.chronicle (engine shell program) Custody.cleanup scene
      deletedNetworks (calls tale) = shownNetworks (exchanges tale) ∧
        ((engine shell program).ListsOne →
          (deletedNetworks (calls tale)).length ≤ scene.custody.inventory.networks.size) :=
  ⟨listsOne_iff, Scene.deletedNetworks_removeNetwork _, Scene.deletedNetworks_cleanup _⟩

/-! ### An id that begins another one -/

namespace Bequest

open Engine.Client Engine.Scripted Text.Utf8

def oneLine : String := "\x7b\"ID\":\"n1\",\"Name\":\"one\"\x7d"

def tenLine : String := "\x7b\"ID\":\"n10\",\"Name\":\"ten\"\x7d"

/-- A listing in which another network comes up that has the id at the beginning of its own. -/
def kindred : CommandResult := ⟨encode (oneLine ++ "\n" ++ tenLine ++ "\n"), [], .exited 0⟩

def kindredShell : Shell (List Reply) := shell "docker" fun _ => "not found"

def crossed : Scene (List Reply) :=
  .opening (custody.hold ⟨.network, "n1", ""⟩) [⟨["network", "ls"], none, kindred, false⟩]

theorem runs_kindred :
    Runs kindredShell "docker" (.listNetworks "n1") crossed.world kindred := by
  refine ⟨?_, rfl⟩
  decide +kernel

theorem listed_kindred :
    (engine kindredShell "docker" (.listNetworks "n1") crossed.world).answer =
      .ok [⟨"n1", "one"⟩, ⟨"n10", "ten"⟩] := by
  refine listNetworks_eq_ok_iff.mpr ⟨kindred,
    [[("ID", .text "n1"), ("Name", .text "one")], [("ID", .text "n10"), ("Name", .text "ten")]],
    runs_kindred, rfl, ?_, by decide +kernel⟩
  have lines : recordLines (oneLine ++ "\n" ++ tenLine ++ "\n").toList =
      [oneLine.toList, tenLine.toList] := by decide +kernel
  rw [kindred, lenientChars_encode, lines]
  exact .cons (by decide +kernel) (.cons (by decide +kernel) .nil)

theorem holdings_crossed :
    crossed.custody.inventory.holdings = [.unlabelled .network "n1"] := by
  decide +kernel

theorem calls_cleanup_crossed :
    calls (Scene.chronicle (engine kindredShell "docker") Custody.cleanup crossed) =
      calls (Scene.chronicle (engine kindredShell "docker") (Custody.removeNetwork "n1")
        (crossed.report [.draining 1])) := by
  simp [Custody.cleanup, Scene.chronicle_ask, Scene.interruptions, Scene.reply, holdings_crossed,
    Custody.drain, each, Custody.giveUp, Holding.unlabelled, Scene.chronicle_bind, calls,
    exchanges, List.filterMap_cons, Moment.exchange?]

/-- A network that nobody ever registered is deleted. -/
theorem second_network_deleted :
    (engine kindredShell "docker" (.listNetworks "n1") crossed.world).answer =
        .ok [⟨"n1", "one"⟩, ⟨"n10", "ten"⟩] ∧
      crossed.custody.inventory.holdings = [.unlabelled .network "n1"] ∧
      deletedNetworks (calls (Scene.chronicle (engine kindredShell "docker")
        (Custody.removeNetwork "n1") crossed)) = ["n1", "n10"] ∧
      deletedNetworks (calls (Scene.chronicle (engine kindredShell "docker")
        Custody.cleanup crossed)) = ["n1", "n10"] := by
  have world : (crossed.report [.draining 1]).world = crossed.world := rfl
  refine ⟨listed_kindred, holdings_crossed, ?_, ?_⟩
  · rw [Scene.deletedNetworks_removeNetwork, listed_kindred]
    rfl
  · rw [calls_cleanup_crossed, Scene.deletedNetworks_removeNetwork, world, listed_kindred]
    rfl

def steadyShell : Shell Unit where
  run _ _ world := (.ok ⟨encode (oneLine ++ "\n"), [], .exited 0⟩, world)

def steady : Scene Unit := .opening (custody.hold ⟨.network, "n1", ""⟩) ()

theorem networks_deleted_singly_steady :
    (engine steadyShell "docker").ListsOne ∧
      (deletedNetworks (calls (Scene.chronicle (engine steadyShell "docker") Custody.cleanup
        steady))).length ≤ steady.custody.inventory.networks.size := by
  obtain ⟨promise, -, drained⟩ := networks_deleted_singly_iff steadyShell "docker"
  have single : (engine steadyShell "docker").ListsOne := by
    refine promise.mpr fun id world result rows runs succeeded decoded => ?_
    cases runs.ran
    have lines : recordLines (oneLine ++ "\n").toList = [oneLine.toList] := by decide +kernel
    rw [lenientChars_encode, lines]
    exact Nat.le_refl 1
  obtain ⟨-, bounded⟩ := drained steady
  exact ⟨single, bounded single⟩

end Bequest

end Reclaim
