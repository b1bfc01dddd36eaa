import Reclaim.Engine.Client
import Reclaim.Proofs.Drain
import Reclaim.Proofs.ExitCleanup

/-!
# Work that nobody interrupts

Other holders of a custody can act only while a call is on its way.  Where none
of them does, the custody is changed by the work itself and by nothing else: a
drain leaves nothing held, and nothing but the inventory is different in the
end.  With a quiet engine this is so for every procedure, whatever the engine
answers.
-/

set_option autoImplicit false

namespace Reclaim

/-- An engine during whose calls no other holder acts. -/
def Engine.Quiet {ω : Type} (engine : Engine ω) : Prop :=
  ∀ call world, (engine call world).acts = []

theorem Engine.Client.quiet {ω : Type} (shell : Shell ω) (program : String) :
    (engine shell program).Quiet := by
  intro call world
  unfold engine
  dsimp only
  split
  · rfl
  · split <;> rfl

theorem Custody.foldl_after_of_nobody (tale : List Moment) (custody : Custody)
    (nobody : ∀ act, Moment.acted act ∉ tale) :
    tale.foldl after custody =
      { custody with inventory := (tale.foldl after custody).inventory } := by
  induction tale generalizing custody with
  | nil => rfl
  | cons moment rest ih =>
    have later := ih (custody.after moment) fun act member => nobody act (.tail _ member)
    cases moment with
    | acted act => exact absurd (.head _) (nobody act)
    | answered request reply =>
      rw [List.foldl_cons, later]
      cases request <;> rfl

namespace Scene

variable {ω α : Type} {engine : Engine ω} {scene : Scene ω}

theorem held_of_nobody {work : Procedure α}
    (nobody : ∀ act, Moment.acted act ∉ chronicle engine work scene)
    {kind : ResourceKind} {id : String}
    (still : (scene.carryOut engine work).2.custody.inventory.contains kind id = true) :
    scene.custody.inventory.contains kind id = true := by
  rw [custody_carryOut] at still
  rcases Custody.contains_or_takes _ _ still with before | ⟨moment, member, takes⟩
  · exact before
  · cases moment with
    | acted act => exact absurd member (nobody act)
    | answered request reply => cases takes

/-- A drain that nobody interrupts leaves nothing held. -/
theorem cleanup_empties_of_nobody
    (nobody : ∀ act, Moment.acted act ∉ chronicle engine Custody.cleanup scene) :
    (scene.carryOut engine Custody.cleanup).2.custody.inventory = .empty := by
  apply Inventory.eq_empty_of_contains
  intro kind id
  cases still : (scene.carryOut engine Custody.cleanup).2.custody.inventory.contains kind id with
  | false => rfl
  | true =>
    have held := held_of_nobody nobody still
    -- Only another holder could have registered it again after its attempt.
    obtain ⟨early, outcome, late, split, moment, again, takes⟩ := taken_again_of_held held still
    cases moment with
    | acted act =>
      refine absurd ?_ (nobody act)
      rw [split]
      simp [again]
    | answered request reply => cases takes

theorem exitCleanup_empties_of_nobody
    (nobody : ∀ act, Moment.acted act ∉ chronicle engine Custody.exitCleanup scene) :
    (scene.carryOut engine Custody.exitCleanup).2.custody.inventory = .empty := by
  rw [chronicle_exitCleanup] at nobody
  have emptied : (scene.drained engine).custody.inventory = .empty := by
    apply cleanup_empties_of_nobody
    intro act member
    exact nobody act (List.mem_append_left _ (.tail _ member))
  rw [carryOut_exitCleanup]
  apply Inventory.eq_empty_of_contains
  intro kind id
  cases still : ((scene.drained engine).carryOut engine (remainder
      (scene.drained engine).custody.watched)).2.custody.inventory.contains kind id with
  | false => rfl
  | true =>
    have nobodyLater : ∀ act, Moment.acted act ∉ chronicle engine
        (remainder (scene.drained engine).custody.watched) (scene.drained engine) :=
      fun act member => nobody act (List.mem_append_right _ (.tail _ member))
    have held := held_of_nobody nobodyLater still
    rw [emptied] at held
    cases kind <;> cases held

/-! ## Quiet engines -/

theorem nobody_acts (quiet : engine.Quiet) (work : Procedure α) (scene : Scene ω)
    (act : HolderAct) : Moment.acted act ∉ chronicle engine work scene := by
  induction work generalizing scene with
  | done value => exact List.not_mem_nil
  | ask request next ih =>
    have undisturbed : scene.interruptions engine request = [] := by
      cases request with
      | call call => exact quiet call scene.world
      | _ => rfl
    intro member
    rw [chronicle_ask, undisturbed] at member
    rcases List.mem_cons.mp member with same | later
    · cases same
    · exact ih _ _ later

/-- With a quiet engine the journal has no influence on what happens. -/
theorem chronicle_journal (quiet : engine.Quiet) (work : Procedure α) (scene : Scene ω)
    (journal : List Entry) :
    chronicle engine work { scene with journal := journal } = chronicle engine work scene := by
  induction work generalizing scene journal with
  | done value => rfl
  | ask request next ih =>
    have same : ∃ later, reply engine request { scene with journal := journal } =
        ((reply engine request scene).1,
          { (reply engine request scene).2 with journal := later }) := by
      cases request with
      | call call =>
        simp only [reply, takeTurn, quiet call scene.world]
        exact ⟨_, rfl⟩
      | _ => exact ⟨_, rfl⟩
    obtain ⟨later, same⟩ := same
    rw [chronicle_ask, chronicle_ask, same]
    exact congrArg _ (congrArg _ (ih _ _ later))

theorem custody_of_quiet (quiet : engine.Quiet) (work : Procedure α) (scene : Scene ω) :
    (scene.carryOut engine work).2.custody =
      { scene.custody with inventory := (scene.carryOut engine work).2.custody.inventory } := by
  rw [custody_carryOut]
  exact Custody.foldl_after_of_nobody _ _ (nobody_acts quiet work scene)

theorem watched_of_quiet (quiet : engine.Quiet) (work : Procedure α) (scene : Scene ω) :
    (scene.carryOut engine work).2.custody.watched = scene.custody.watched := by
  rw [custody_of_quiet quiet]

theorem testament_of_quiet (quiet : engine.Quiet) (work : Procedure α) (scene : Scene ω) :
    (scene.carryOut engine work).2.custody.testament = scene.custody.testament := by
  rw [custody_of_quiet quiet]

theorem draining_eq (quiet : engine.Quiet) (scene : Scene ω) :
    scene.draining engine =
      .answered (.log .exitCleanup) () :: chronicle engine Custody.cleanup scene :=
  congrArg _ (chronicle_journal quiet Custody.cleanup scene _)

theorem custody_drained_of_quiet (quiet : engine.Quiet) (scene : Scene ω) :
    (scene.drained engine).custody = (scene.carryOut engine Custody.cleanup).2.custody := by
  rw [custody_drained, draining_eq quiet, custody_carryOut]
  rfl

theorem exchanges_cleanup_of_empty (nothing : scene.custody.inventory = .empty) :
    exchanges (chronicle engine Custody.cleanup scene) = [] := by
  obtain ⟨event, later, -, attempts, told⟩ := cleanup_chronicle engine scene
  rw [nothing] at attempts
  rw [told]
  cases attempts
  rfl

end Scene

end Reclaim
