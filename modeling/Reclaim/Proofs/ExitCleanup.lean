import Reclaim.Proofs.Chronicle

/-!
# The shape of an exit cleanup

First everything that is held is drained; then it is looked up whether a
watchdog has taken over, and if none has the testament is swept for.  What
other holders do during the drain counts for both decisions.
-/

set_option autoImplicit false

namespace Reclaim.Scene

open Procedure

variable {ω : Type} (engine : Engine ω) (scene : Scene ω)

/-- The scene in which an exit cleanup looks whether a watchdog has taken over. -/
def drained : Scene ω := ((scene.report [.exitCleanup]).carryOut engine Custody.cleanup).2

def draining : List Moment :=
  .answered (.log .exitCleanup) () ::
    chronicle engine Custody.cleanup (scene.report [.exitCleanup])

theorem custody_drained :
    (scene.drained engine).custody = (scene.draining engine).foldl Custody.after scene.custody :=
  custody_carryOut engine Custody.cleanup (scene.report [.exitCleanup])

/-- What an exit cleanup does once it is known whether a watchdog has taken over. -/
def remainder (watched : Bool) : Procedure Unit :=
  if watched then .log .watchdogTakesOver
  else .ask .testament Sweep.testament

theorem exitCleanup_eq :
    Custody.exitCleanup = .ask (.log .exitCleanup) fun _ =>
      Custody.cleanup.bind fun _ => .ask .watched remainder := rfl

theorem carryOut_exitCleanup :
    (scene.carryOut engine Custody.exitCleanup).2 =
      ((scene.drained engine).carryOut engine
        (remainder (scene.drained engine).custody.watched)).2 := by
  rw [exitCleanup_eq, carryOut_ask, carryOut_bind, carryOut_ask]
  rfl

theorem chronicle_exitCleanup :
    chronicle engine Custody.exitCleanup scene =
      scene.draining engine ++
        .answered .watched (scene.drained engine).custody.watched ::
          chronicle engine (remainder (scene.drained engine).custody.watched)
            (scene.drained engine) := by
  rw [exitCleanup_eq, chronicle_ask, chronicle_bind, chronicle_ask]
  rfl

end Reclaim.Scene
