import Reclaim.Proofs.NetworkOutcome

/-!
# What is held after the removal of a network

The removal of a network lets go of the id that it was asked for, and of each
network that the engine says is deleted: the id may be a short form of theirs.
A custody in which the networks are let go of as they are deleted, and the id
at the end, is what such a removal leaves (`removeNetwork_lets_go`), whatever
is answered and whatever other holders do meanwhile.
-/

set_option autoImplicit false

namespace Reclaim

open Procedure

def Moment.isAct : Moment → Bool
  | .acted _ => true
  | .answered _ _ => false

def others (tale : List Moment) : List Moment := tale.filter Moment.isAct

namespace Custody

/-- What a moment leaves of a custody in which networks are held until they are deleted. -/
def following (custody : Custody) : Moment → Custody
  | .acted act => custody.after (.acted act)
  | .answered (.call (.removeNetwork id)) (.ok _) => custody.forget .network id
  | .answered _ _ => custody

theorem after_of_plain {moment : Moment} (plain : moment.plain = true)
    (undeleted : moment.deletes = false) (custody : Custody) :
    custody.after moment = custody.following moment := by
  cases moment with
  | acted act => rfl
  | answered request reply =>
    cases request with
    | call asked =>
      cases asked with
      | removeNetwork id =>
        cases reply with
        | ok value => cases undeleted
        | error report => rfl
      | _ => rfl
    | forget kind id => cases plain
    | _ => rfl

/-- As long as nothing comes to its end, the networks that are deleted are what is let go of. -/
theorem foldl_after_of_underway {tale : List Moment} (underway : Underway tale)
    (custody : Custody) : tale.foldl after custody = tale.foldl following custody := by
  obtain ⟨orderly, unfinished⟩ := underway
  induction orderly generalizing custody with
  | none => rfl
  | plain plain undeleted orderly ih =>
    rw [finished, List.filterMap_cons_none (Moment.finished?_of_plain plain)] at unfinished
    rw [List.foldl_cons, List.foldl_cons, after_of_plain plain undeleted, ih _ unfinished]
  -- The one custody changes with the deletion, the other one with what is let go of right after it.
  | deleted orderly ih => exact ih _ unfinished
  | finished orderly ih => cases unfinished

section

variable {kind : ResourceKind} {id : String} {first second : Custody}

theorem find?_act_congr (act : HolderAct)
    (same : first.inventory.find? kind id = second.inventory.find? kind id) :
    (first.after (.acted act)).inventory.find? kind id =
      (second.after (.acted act)).inventory.find? kind id := by
  cases act <;> simp [after, hold, forget, markWatched, bequeath, inventory_attach,
    Inventory.find?_insert, Inventory.find?_erase, same]

theorem find?_answered {request : Request} {reply : request.Reply}
    (unforgotten : (Moment.answered request reply).forgets kind id = false) (custody : Custody) :
    (custody.after (.answered request reply)).inventory.find? kind id =
      custody.inventory.find? kind id := by
  cases request with
  | forget other target =>
    have different : ¬ (other = kind ∧ target = id) := of_decide_eq_false unforgotten
    simp [after, forget, Inventory.find?_erase, different]
  | _ => rfl

theorem find?_foldl_of_unforgotten {tale : List Moment}
    (unforgotten : ∀ moment ∈ tale, moment.forgets kind id = false)
    (same : first.inventory.find? kind id = second.inventory.find? kind id) :
    (tale.foldl after first).inventory.find? kind id =
      ((others tale).foldl after second).inventory.find? kind id := by
  induction tale generalizing first second with
  | nil => exact same
  | cons moment rest ih =>
    have later := fun moment member => unforgotten moment (List.mem_cons_of_mem _ member)
    cases moment with
    | acted act => exact ih later (find?_act_congr act same)
    | answered request reply =>
      exact ih later ((find?_answered (unforgotten _ (.head _)) first).trans same)

end

/-- What is let go of is held no longer, unless another holder registers it. -/
theorem find?_foldl_of_forgotten {kind : ResourceKind} {id : String} {tale : List Moment}
    (forgotten : tale.any (Moment.forgets kind id) = true) (alone : others tale = [])
    (custody : Custody) : (tale.foldl after custody).inventory.find? kind id = none := by
  have undisturbed : ∀ moment ∈ tale,
      moment.takes kind id = false ∧ moment.releases kind id = false := by
    intro moment member
    have answered := List.filter_eq_nil_iff.mp alone moment member
    cases moment with
    | acted act => exact absurd rfl answered
    | answered request reply => exact ⟨rfl, rfl⟩
  have gone : (tale.foldl after custody).inventory.contains kind id = false := by
    simp [contains_foldl_of_undisturbed tale custody undisturbed, forgotten]
  rwa [← Inventory.isSome_find?, Option.isSome_eq_false_iff, Option.isNone_iff_eq_none] at gone

end Custody

namespace Scene

variable {ω : Type} (engine : Engine ω) (scene : Scene ω) (id : String)

theorem chronicle_removeNetwork :
    chronicle engine (Custody.removeNetwork id) scene =
      chronicle engine (Removal.network id fun removed => request (.forget .network removed))
        scene ++ [.answered (.forget .network id) ()] := by
  rw [Custody.removeNetwork, bind_eq, chronicle_bind]
  rfl

theorem outcome_removeNetwork :
    (scene.carryOut engine (Custody.removeNetwork id)).1 =
      (scene.carryOut engine
        (Removal.network id fun removed => request (.forget .network removed))).1 := by
  rw [Custody.removeNetwork, bind_eq, carryOut_bind]
  rfl

theorem underway_removeNetwork :
    ∃ body, Underway body ∧ chronicle engine (Custody.removeNetwork id) scene =
      body ++ [.answered (.forget .network id) ()] :=
  ⟨_, ((network_ensures id).holds engine scene).2, chronicle_removeNetwork engine scene id⟩

/-- What is let go of is the id, and the networks that were deleted. -/
theorem forgets_removeNetwork_iff (kind : ResourceKind) (target : String) :
    (chronicle engine (Custody.removeNetwork id) scene).any (Moment.forgets kind target) = true ↔
      kind = .network ∧ (target = id ∨
        Deleted target (chronicle engine (Custody.removeNetwork id) scene)) := by
  obtain ⟨body, underway, split⟩ := underway_removeNetwork engine scene id
  have deleted : Deleted target (body ++ [.answered (.forget .network id) ()]) ↔
      Deleted target body := by
    simp [Deleted]
  have before : body.any (Moment.forgets kind target) = true ↔
      kind = .network ∧ Deleted target body := by
    simpa [underway.unfinished] using underway.orderly.forgets_iff kind target
  have last : Moment.forgets kind target (.answered (.forget .network id) ()) = true ↔
      .network = kind ∧ id = target :=
    decide_eq_true_iff
  rw [split, deleted, List.any_append, Bool.or_eq_true, before, List.any_cons, List.any_nil,
    Bool.or_false, last]
  constructor
  · rintro (⟨rfl, gone⟩ | ⟨rfl, rfl⟩)
    · exact ⟨rfl, .inr gone⟩
    · exact ⟨rfl, .inl rfl⟩
  · rintro ⟨rfl, rfl | gone⟩
    · exact .inr ⟨rfl, rfl⟩
    · exact .inl ⟨rfl, gone⟩

theorem calls_removeNetwork :
    match (engine (.listNetworks id) scene.world).answer with
    | .error _ =>
      calls (chronicle engine (Custody.removeNetwork id) scene) = [.listNetworks id] ∧
        (scene.carryOut engine (Custody.removeNetwork id)).1 = .gaveUp
    | .ok listed =>
      calls (chronicle engine (Custody.removeNetwork id) scene) =
        .listNetworks id :: listed.map deletion := by
  have listing := network_listed engine scene id silent_forget
  have called : calls (chronicle engine (Custody.removeNetwork id) scene) =
      (exchanges (chronicle engine (Removal.network id
        fun removed => request (.forget .network removed)) scene)).map Exchange.call := by
    simp [chronicle_removeNetwork, calls]
  rw [called, outcome_removeNetwork]
  cases answered : (engine (.listNetworks id) scene.world).answer with
  | error report =>
    rw [answered] at listing
    rw [listing.1]
    exact ⟨rfl, listing.2⟩
  | ok listed =>
    rw [answered] at listing
    obtain ⟨fates, rfl, exchanged, -⟩ := listing
    rw [exchanged, Reclaim.account, List.map_cons, List.map_map]
    simp [deletion, Fate.exchange]

end Scene

open Scene

/-- The removal of a network lists once.  If that fails it gives up, and otherwise it deletes each
of the listed networks, in order, whatever is answered.  What it leaves of a custody is that each
network is let go of when it has been deleted, and the id itself at the end; all else that is held
is left to the other holders.  So if there are none at work, the id and the deleted networks are
held no longer, and all else is held as before. -/
theorem removeNetwork_lets_go {ω : Type} (engine : Engine ω) (scene : Scene ω) (id : String) :
    let tale := chronicle engine (Custody.removeNetwork id) scene
    let outcome := (scene.carryOut engine (Custody.removeNetwork id)).1
    let after := (scene.carryOut engine (Custody.removeNetwork id)).2.custody
    (match (engine (.listNetworks id) scene.world).answer with
      | .error _ => calls tale = [.listNetworks id] ∧ outcome = .gaveUp
      | .ok listed => calls tale = .listNetworks id :: listed.map deletion) ∧
    after = (tale.foldl Custody.following scene.custody).forget .network id ∧
    (∀ kind target, ¬ (kind = .network ∧ (target = id ∨ Deleted target tale)) →
      after.inventory.find? kind target =
        ((others tale).foldl Custody.after scene.custody).inventory.find? kind target) ∧
    (others tale = [] → ∀ kind target holding,
      after.inventory.find? kind target = some holding ↔
        scene.custody.inventory.find? kind target = some holding ∧
          ¬ (kind = .network ∧ (target = id ∨ Deleted target tale))) := by
  intro tale outcome after
  have letGo : ∀ kind target, tale.any (Moment.forgets kind target) = true ↔
      kind = .network ∧ (target = id ∨ Deleted target tale) :=
    forgets_removeNetwork_iff engine scene id
  have left : after = tale.foldl Custody.after scene.custody :=
    custody_carryOut engine (Custody.removeNetwork id) scene
  have spared : ∀ kind target, ¬ (kind = .network ∧ (target = id ∨ Deleted target tale)) →
      after.inventory.find? kind target =
        ((others tale).foldl Custody.after scene.custody).inventory.find? kind target := by
    intro kind target kept
    rw [← letGo, Bool.not_eq_true, List.any_eq_false] at kept
    rw [left]
    exact Custody.find?_foldl_of_unforgotten
      (fun moment member => Bool.eq_false_iff.mpr (kept moment member)) rfl
  refine ⟨calls_removeNetwork engine scene id, ?_, spared, ?_⟩
  · obtain ⟨body, underway, split⟩ := underway_removeNetwork engine scene id
    have parts : tale = body ++ [.answered (.forget .network id) ()] := split
    rw [left, parts, List.foldl_append, List.foldl_append,
      Custody.foldl_after_of_underway underway]
    rfl
  · intro alone kind target holding
    by_cases gone : kind = .network ∧ (target = id ∨ Deleted target tale)
    · have absent : after.inventory.find? kind target = none := by
        rw [left]
        exact Custody.find?_foldl_of_forgotten ((letGo kind target).mpr gone) alone _
      rw [absent]
      exact ⟨nofun, fun held => absurd gone held.2⟩
    · rw [spared kind target gone, alone]
      exact (and_iff_left gone).symm

/-! ### A removal among other things that are held -/

namespace Bequest

def entangled : Custody :=
  (((custody.hold ⟨.container, "n1", "redis:7"⟩).hold (.unlabelled .network "n1")).hold
    (.unlabelled .network "n10")).hold (.unlabelled .network "n2")

/-- A network is deleted, another one is in use, and the first one comes up once more. -/
def repeated : List Fate :=
  [⟨⟨"n10", "ten"⟩, .ok ()⟩, ⟨⟨"n2", "two"⟩, .error (.bare (.transport "network rm" "in use"))⟩,
    ⟨⟨"n10", "ten"⟩, .error (.bare (.notFound .network "n10"))⟩]

theorem removeNetwork_lets_go_repeated :
    let scene : Scene (List Fate) := .opening entangled repeated
    let after := (scene.carryOut Engine.dealt (Custody.removeNetwork "n1")).2.custody.inventory
    others (chronicle Engine.dealt (Custody.removeNetwork "n1") scene) = [] ∧
      after.find? .container "n1" = some ⟨.container, "n1", "redis:7"⟩ ∧
      after.find? .network "n2" = some (.unlabelled .network "n2") ∧
      after.find? .network "n1" = none ∧ after.find? .network "n10" = none := by
  intro scene after
  have alone : others (chronicle Engine.dealt (Custody.removeNetwork "n1") scene) = [] := rfl
  have exchanged : exchanges (chronicle Engine.dealt (Custody.removeNetwork "n1") scene) =
      account "n1" repeated := rfl
  have kept := (removeNetwork_lets_go Engine.dealt scene "n1").2.2.2 alone
  refine ⟨alone, (kept _ _ _).mpr ⟨by decide, ?_⟩, (kept _ _ _).mpr ⟨by decide, ?_⟩, ?_, ?_⟩
  · simp
  · simp [deleted_iff, exchanged, account, repeated, Fate.exchange]
  · exact Option.eq_none_iff_forall_ne_some.mpr fun holding held =>
      ((kept _ _ _).mp held).2 ⟨rfl, .inl rfl⟩
  · refine Option.eq_none_iff_forall_ne_some.mpr fun holding held =>
      ((kept _ _ _).mp held).2 ⟨rfl, .inr ?_⟩
    simp [deleted_iff, exchanged, account, repeated, Fate.exchange]

end Bequest

end Reclaim
