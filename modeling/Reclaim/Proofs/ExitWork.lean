import Mathlib.Logic.Function.Iterate
import Reclaim.Proofs.Handover
import Reclaim.Proofs.Runs

/-!
# Exit work

The first registration installs the exit work, and nothing installs it again.
From then on it waits in the exit queue until the queue is fired or discarded,
so it is run by the queue at most once, whatever is registered before, between
and meanwhile (`exit_work_once`).

The hook of a scene is the part that decides this: the latch of the custody and
the exit queue.  Like a custody, it is determined by what happens, moment by
moment, if the firing and the discarding of the queue are counted in.
-/

set_option autoImplicit false

namespace Reclaim

/-- A moment, or something that happens to the exit queue. -/
inductive Incident where
  | moment (moment : Moment)
  /-- The queue is fired: all that waits is taken out, in order to be run. -/
  | fired
  /-- The queue runs the exit work, as follows. -/
  | ran
  | discarded

namespace Incident

def moment? : Incident → Option Moment
  | .moment told => some told
  | .fired | .ran | .discarded => none

def registers : Incident → Bool
  | .moment (.acted (.hold _)) => true
  | .moment _ | .fired | .ran | .discarded => false

def empties : Incident → Bool
  | .fired | .discarded => true
  | .moment _ | .ran => false

def isRan : Incident → Bool
  | .ran => true
  | .moment _ | .fired | .discarded => false

end Incident

/-- Whether the exit work has been installed, and the queue that it waits in. -/
structure Hook where
  armed : Bool
  exits : ExitQueue Unit

namespace Hook

def idle : Hook := ⟨false, .empty⟩

def arm (hook : Hook) : Hook :=
  if hook.armed then hook else ⟨true, hook.exits.install ()⟩

/-- What an incident leaves of a hook. -/
def after (hook : Hook) : Incident → Hook
  | .moment (.acted (.hold _)) => hook.arm
  | .moment _ | .ran => hook
  | .fired | .discarded => { hook with exits := hook.exits.emptied }

theorem after_of_registers {incident : Incident} (registers : incident.registers = true)
    (hook : Hook) : hook.after incident = hook.arm := by
  cases incident with
  | moment moment =>
    cases moment with
    | acted act =>
      cases act with
      | hold holding => rfl
      | _ => cases registers
    | answered request reply => cases registers
  | _ => cases registers

theorem after_of_empties {incident : Incident} (empties : incident.empties = true)
    (hook : Hook) : hook.after incident = { hook with exits := hook.exits.emptied } := by
  cases incident with
  | fired | discarded => rfl
  | moment _ | ran => cases empties

theorem after_of_idle {incident : Incident} (unregistered : incident.registers = false)
    (kept : incident.empties = false) (hook : Hook) : hook.after incident = hook := by
  cases incident with
  | moment moment =>
    cases moment with
    | acted act =>
      cases act with
      | hold holding => cases unregistered
      | _ => rfl
    | answered request reply => rfl
  | ran => rfl
  | fired | discarded => cases kept

end Hook

/-! ## The hook of a scene -/

namespace Scene

variable {ω α : Type}

def hook (scene : Scene ω) : Hook := ⟨scene.custody.armed, scene.exits⟩

theorem hook_attach (scene : Scene ω) (stream : Wire.Stream) :
    (scene.attach stream).2.hook = scene.hook := by
  obtain ⟨watched, connection, same⟩ := scene.custody.attach_eq stream
  rw [hook, custody_attach, exits_attach, same]
  rfl

theorem hook_arm (scene : Scene ω) : scene.arm.hook = scene.hook.arm := by
  by_cases armed : scene.hook.armed = true
  · have latched : scene.custody.armed = true := armed
    rw [Hook.arm, if_pos armed, arm, if_pos latched]
  · have unlatched : ¬ scene.custody.armed = true := armed
    rw [Hook.arm, if_neg armed, arm, if_neg unlatched]
    rfl

theorem hook_act (scene : Scene ω) (act : HolderAct) :
    (scene.act act).hook = scene.hook.after (.moment (.acted act)) := by
  cases act with
  | hold holding => exact hook_arm scene
  | attach stream => exact hook_attach scene stream
  | _ => rfl

theorem hook_actAll (scene : Scene ω) (acts : List HolderAct) :
    (scene.actAll acts).hook =
      (acts.map fun act => Incident.moment (.acted act)).foldl Hook.after scene.hook := by
  induction acts generalizing scene with
  | nil => rfl
  | cons act rest ih =>
    have later := ih (scene.act act)
    rw [hook_act] at later
    exact later

theorem hook_reply (engine : Engine ω) (request : Request) (scene : Scene ω) :
    (reply engine request scene).2.hook =
      ((scene.interruptions engine request).map fun act => Incident.moment (.acted act)).foldl
        Hook.after scene.hook := by
  cases request with
  | call call => exact hook_actAll { scene with world := (engine call scene.world).world } _
  | _ => rfl

theorem hook_carryOut (engine : Engine ω) (work : Procedure α) (scene : Scene ω) :
    (scene.carryOut engine work).2.hook =
      ((chronicle engine work scene).map .moment).foldl Hook.after scene.hook := by
  induction work generalizing scene with
  | done value => rfl
  | ask request next ih =>
    rw [carryOut_ask, ih, hook_reply, chronicle_ask, List.map_append, List.map_map,
      List.foldl_append]
    rfl

end Scene

/-! ## Runs -/

namespace Scene

variable {ω : Type}

/-- What happens while the queue runs the exit work, once for each callback. -/
def firingCourse (engine : Engine ω) : List Unit → Scene ω → List Incident
  | [], _ => []
  | _ :: rest, scene =>
    .ran :: ((chronicle engine Custody.exitCleanup scene).map .moment ++
      firingCourse engine rest (scene.carryOut engine Custody.exitCleanup).2)

def incidents (engine : Engine ω) (network : Wire.Network) (scene : Scene ω)
    (instruction : Instruction) : List Incident :=
  match instruction with
  | .fire =>
    .fired :: firingCourse engine scene.exits.pending { scene with exits := scene.exits.emptied }
  | .discard => [.discarded]
  | other => (scene.account engine network other).map .moment

def course (engine : Engine ω) : Scene ω → List (Wire.Network × Instruction) → List Incident :=
  gather engine fun scene step => scene.incidents engine step.1 step.2

variable {engine : Engine ω}

theorem course_cons (step : Wire.Network × Instruction)
    (rest : List (Wire.Network × Instruction)) (scene : Scene ω) :
    scene.course engine (step :: rest) =
      scene.incidents engine step.1 step.2 ++
        (scene.follow engine step.1 step.2).2.course engine rest := rfl

theorem filterMap_moment? (tale : List Moment) :
    (tale.map Incident.moment).filterMap Incident.moment? = tale := by
  rw [List.filterMap_map]
  exact List.filterMap_some

theorem moments_firingCourse (pending : List Unit) (scene : Scene ω) :
    (firingCourse engine pending scene).filterMap Incident.moment? =
      firings engine pending scene := by
  induction pending generalizing scene with
  | nil => rfl
  | cons callback rest ih =>
    rw [firingCourse, firings, List.filterMap_cons_none rfl, List.filterMap_append,
      filterMap_moment?, ih]

theorem moments_incidents (network : Wire.Network) (scene : Scene ω)
    (instruction : Instruction) :
    (scene.incidents engine network instruction).filterMap Incident.moment? =
      scene.account engine network instruction := by
  cases instruction with
  | fire => exact moments_firingCourse _ _
  | discard => rfl
  | _ => exact filterMap_moment? _

theorem moments_course (steps : List (Wire.Network × Instruction)) (scene : Scene ω) :
    (scene.course engine steps).filterMap Incident.moment? = scene.recount engine steps := by
  induction steps generalizing scene with
  | nil => rfl
  | cons step rest ih =>
    have later := ih (scene.follow engine step.1 step.2).2
    rw [course_cons, recount, gather, List.filterMap_append, moments_incidents]
    exact congrArg _ later

theorem hook_firingCourse (pending : List Unit) (scene : Scene ω) :
    (pending.foldl (fun scene _ => (scene.carryOut engine Custody.exitCleanup).2) scene).hook =
      (firingCourse engine pending scene).foldl Hook.after scene.hook := by
  induction pending generalizing scene with
  | nil => rfl
  | cons callback rest ih =>
    rw [List.foldl_cons, ih, firingCourse, List.foldl_cons, List.foldl_append, hook_carryOut]
    rfl

theorem hook_follow (network : Wire.Network) (scene : Scene ω) (instruction : Instruction) :
    (scene.follow engine network instruction).2.hook =
      (scene.incidents engine network instruction).foldl Hook.after scene.hook := by
  cases instruction with
  | act act => exact hook_act scene act
  | stopContainer id label => exact hook_carryOut engine (Custody.stopContainer id label) scene
  | removeNetwork id => exact hook_carryOut engine (Custody.removeNetwork id) scene
  | cleanup => exact hook_carryOut engine _ scene
  | bequeath selector => rfl
  | bequeathLabels labels =>
    simp only [follow, incidents, account]
    cases Selector.ofLabels labels with
    | error fault => rfl
    | ok selector => rfl
  | sweep selector => exact hook_carryOut engine _ scene
  | attach stream => exact hook_attach scene stream
  | dial address =>
    simp only [follow, incidents, account, dial]
    cases Wire.dial network scene.custody.patience address with
    | error fault => rfl
    | ok opened => exact hook_attach (scene.report [.connected opened.1]) opened.2
  | exitCleanup => exact hook_carryOut engine _ scene
  | fire => exact hook_firingCourse _ { scene with exits := scene.exits.emptied }
  | discard => rfl

theorem hook_pursue (steps : List (Wire.Network × Instruction)) (scene : Scene ω) :
    (scene.pursue engine steps).hook =
      (scene.course engine steps).foldl Hook.after scene.hook := by
  induction steps generalizing scene with
  | nil => rfl
  | cons step rest ih =>
    rw [course_cons, List.foldl_append, ← hook_follow]
    exact ih (scene.follow engine step.1 step.2).2

end Scene

/-! ## What becomes of the hook -/

def Registered (course : List Incident) : Prop :=
  ∃ incident ∈ course, incident.registers = true

/-- Since the first registration, the queue has been neither fired nor discarded. -/
def Waiting (course : List Incident) : Prop :=
  ∃ early first late, course = early ++ first :: late ∧ ¬ Registered early ∧
    first.registers = true ∧ ∀ incident ∈ late, incident.empties = false

theorem not_registered_nil : ¬ Registered [] := by
  rintro ⟨incident, member, -⟩
  cases member

theorem registered_cons {incident : Incident} {rest : List Incident} :
    Registered (incident :: rest) ↔ incident.registers = true ∨ Registered rest := by
  simp [Registered]

theorem first_registration (course : List Incident) :
    ¬ Registered course ∨
      ∃ early first late, course = early ++ first :: late ∧ ¬ Registered early ∧
        first.registers = true := by
  induction course with
  | nil => exact Or.inl not_registered_nil
  | cons incident rest ih =>
    cases registers : incident.registers with
    | true => exact Or.inr ⟨[], incident, rest, rfl, not_registered_nil, registers⟩
    | false =>
      have unregistered {later : List Incident} (none : ¬ Registered later) :
          ¬ Registered (incident :: later) := by
        rw [registered_cons, registers]
        exact not_or.mpr ⟨Bool.false_ne_true, none⟩
      rcases ih with nothing | ⟨early, first, late, rfl, none, isFirst⟩
      · exact Or.inl (unregistered nothing)
      · exact Or.inr ⟨incident :: early, first, late, rfl, unregistered none, isFirst⟩

namespace Hook

def installed (waits : Bool) : Hook := ⟨true, ⟨if waits then [()] else [], 1⟩⟩

theorem arm_idle : idle.arm = installed true := rfl

theorem foldl_after_idle {course : List Incident} (unregistered : ¬ Registered course) :
    course.foldl after idle = idle := by
  induction course with
  | nil => rfl
  | cons incident rest ih =>
    rw [registered_cons, not_or, Bool.not_eq_true] at unregistered
    -- Emptying a queue in which nothing waits changes nothing either.
    have untouched : idle.after incident = idle := by
      cases empties : incident.empties with
      | true => exact after_of_empties empties idle
      | false => exact after_of_idle unregistered.1 empties idle
    rw [List.foldl_cons, untouched]
    exact ih unregistered.2

/-- What has been installed is not installed again, and waits until the queue is emptied. -/
theorem foldl_after_installed (course : List Incident) (waits : Bool) :
    course.foldl after (installed waits) =
      installed (waits && !course.any Incident.empties) := by
  induction course generalizing waits with
  | nil => simp
  | cons incident rest ih =>
    rw [List.foldl_cons, List.any_cons]
    cases empties : incident.empties with
    | true =>
      have emptied : (installed waits).after incident = installed false :=
        after_of_empties empties _
      rw [emptied, ih]
      simp
    | false =>
      have kept : (installed waits).after incident = installed waits := by
        cases registers : incident.registers with
        | true => exact after_of_registers registers _
        | false => exact after_of_idle registers empties _
      rw [kept, ih]
      simp

theorem foldl_after_of_first {early late : List Incident} {first : Incident}
    (unregistered : ¬ Registered early) (registers : first.registers = true) :
    (early ++ first :: late).foldl after idle = installed (!late.any Incident.empties) := by
  rw [List.foldl_append, foldl_after_idle unregistered, List.foldl_cons,
    after_of_registers registers, arm_idle, foldl_after_installed, Bool.true_and]

end Hook

/-- Exactly one installation if something has been registered, and none otherwise. -/
theorem installs_iff (course : List Incident) :
    (Registered course → (course.foldl Hook.after .idle).exits.installs = 1) ∧
      (¬ Registered course → (course.foldl Hook.after .idle).exits.installs = 0) := by
  constructor
  · intro registered
    rcases first_registration course with nothing | ⟨early, first, late, rfl, none, isFirst⟩
    · exact absurd registered nothing
    · rw [Hook.foldl_after_of_first none isFirst]
      rfl
  · intro unregistered
    rw [Hook.foldl_after_idle unregistered]
    rfl

/-- What waits is the exit work, from the first registration until the queue is emptied. -/
theorem pending_iff (course : List Incident) :
    (Waiting course → (course.foldl Hook.after .idle).exits.pending = [()]) ∧
      (¬ Waiting course → (course.foldl Hook.after .idle).exits.pending = []) := by
  constructor
  · rintro ⟨early, first, late, rfl, none, isFirst, kept⟩
    have whole : late.any Incident.empties = false := by
      rw [List.any_eq_false]
      intro incident member
      rw [kept incident member]
      exact Bool.false_ne_true
    rw [Hook.foldl_after_of_first none isFirst, whole]
    rfl
  · intro stopped
    rcases first_registration course with nothing | ⟨early, first, late, rfl, none, isFirst⟩
    · rw [Hook.foldl_after_idle nothing]
      rfl
    · rw [Hook.foldl_after_of_first none isFirst]
      cases emptied : late.any Incident.empties with
      | true => rfl
      | false =>
        refine absurd ⟨early, first, late, rfl, none, isFirst, ?_⟩ stopped
        intro incident member
        exact Bool.eq_false_iff.mpr (List.any_eq_false.mp emptied incident member)

/-! ## How often the queue runs the exit work -/

namespace Hook

def taken (hook : Hook) : Incident → List Unit
  | .fired => hook.exits.pending
  | .moment _ | .ran | .discarded => []

def runs : Hook → List Incident → Nat
  | _, [] => 0
  | hook, incident :: rest => (hook.taken incident).length + runs (hook.after incident) rest

theorem runs_append (first second : List Incident) (hook : Hook) :
    hook.runs (first ++ second) =
      hook.runs first + (first.foldl after hook).runs second := by
  induction first generalizing hook with
  | nil => exact (Nat.zero_add _).symm
  | cons incident rest ih =>
    rw [List.cons_append, runs, ih, runs, Nat.add_assoc]
    rfl

theorem runs_eq_zero {course : List Incident} (unfired : .fired ∉ course) (hook : Hook) :
    hook.runs course = 0 := by
  induction course generalizing hook with
  | nil => rfl
  | cons incident rest ih =>
    rw [runs, ih (List.not_mem_of_not_mem_cons unfired)]
    cases incident with
    | fired => exact absurd (.head _) unfired
    | _ => rfl

theorem taken_of_kept {incident : Incident} (kept : incident.empties = false) (hook : Hook) :
    hook.taken incident = [] := by
  cases incident with
  | fired => cases kept
  | _ => rfl

theorem length_taken_le (hook : Hook) (incident : Incident) :
    (hook.taken incident).length ≤ hook.exits.pending.length := by
  cases incident with
  | fired => exact Nat.le_refl _
  | _ => exact Nat.zero_le _

theorem arm_balance (hook : Hook) :
    hook.arm.exits.pending.length + hook.exits.installs =
      hook.exits.pending.length + hook.arm.exits.installs := by
  unfold arm
  split
  · rfl
  · simp only [ExitQueue.install, List.length_append, List.length_singleton]
    omega

theorem taken_add_pending_le (hook : Hook) (incident : Incident) :
    (hook.taken incident).length + (hook.after incident).exits.pending.length +
        hook.exits.installs ≤
      hook.exits.pending.length + (hook.after incident).exits.installs := by
  cases empties : incident.empties with
  | true =>
    have nothingWaits : (hook.after incident).exits.pending = [] := by
      rw [after_of_empties empties]
      rfl
    have sameCount : (hook.after incident).exits.installs = hook.exits.installs := by
      rw [after_of_empties empties]
      rfl
    have few := hook.length_taken_le incident
    rw [nothingWaits, sameCount, List.length_nil]
    omega
  | false =>
    have balance : (hook.after incident).exits.pending.length + hook.exits.installs =
        hook.exits.pending.length + (hook.after incident).exits.installs := by
      cases registers : incident.registers with
      | true =>
        rw [after_of_registers registers]
        exact hook.arm_balance
      | false => rw [after_of_idle registers empties]
    rw [taken_of_kept empties, List.length_nil]
    omega

/-- Every run uses up an installation. -/
theorem runs_add_pending_le (course : List Incident) (hook : Hook) :
    hook.runs course + (course.foldl after hook).exits.pending.length + hook.exits.installs ≤
      hook.exits.pending.length + (course.foldl after hook).exits.installs := by
  induction course generalizing hook with
  | nil =>
    simp only [runs, List.foldl_nil]
    omega
  | cons incident rest ih =>
    have now := hook.taken_add_pending_le incident
    have later := ih (hook.after incident)
    rw [runs, List.foldl_cons]
    omega

/-- The exit work is run just when the queue is fired while something waits. -/
theorem runs_ne_zero_iff (course : List Incident) (hook : Hook) :
    hook.runs course ≠ 0 ↔
      ∃ past rest, course = past ++ .fired :: rest ∧
        (past.foldl after hook).exits.pending ≠ [] := by
  constructor
  · intro some
    induction course generalizing hook with
    | nil => exact absurd rfl some
    | cons incident rest ih =>
      by_cases later : (hook.after incident).runs rest = 0
      · have now : hook.taken incident ≠ [] := by
          intro nothing
          rw [runs, nothing, later] at some
          exact some rfl
        cases incident with
        | fired => exact ⟨[], rest, rfl, now⟩
        | _ => exact absurd rfl now
      · obtain ⟨past, others, rfl, waits⟩ := ih _ later
        exact ⟨incident :: past, others, rfl, waits⟩
  · rintro ⟨past, rest, rfl, waits⟩
    have taken : 0 < ((past.foldl after hook).taken .fired).length :=
      List.length_pos_iff.mpr waits
    rw [runs_append, runs]
    omega

end Hook

namespace Scene

variable {ω : Type} {engine : Engine ω}

theorem ran_moments (tale : List Moment) :
    (tale.map Incident.moment).countP Incident.isRan = 0 := by
  rw [List.countP_map]
  exact List.countP_eq_zero.mpr fun _ _ => Bool.false_ne_true

theorem fired_notMem_moments (tale : List Moment) :
    Incident.fired ∉ tale.map Incident.moment := by
  intro member
  obtain ⟨told, -, same⟩ := List.mem_map.mp member
  cases same

theorem ran_firingCourse (pending : List Unit) (scene : Scene ω) :
    (firingCourse engine pending scene).countP Incident.isRan = pending.length := by
  induction pending generalizing scene with
  | nil => rfl
  | cons callback rest ih =>
    rw [firingCourse, List.countP_cons_of_pos rfl, List.countP_append, ran_moments, ih,
      Nat.zero_add, List.length_cons]

theorem fired_notMem_firingCourse (pending : List Unit) (scene : Scene ω) :
    .fired ∉ firingCourse engine pending scene := by
  induction pending generalizing scene with
  | nil => exact List.not_mem_nil
  | cons callback rest ih =>
    rintro (_ | ⟨_, member⟩)
    rcases List.mem_append.mp member with now | later
    · exact fired_notMem_moments _ now
    · exact ih _ later

theorem ran_incidents (network : Wire.Network) (scene : Scene ω) (instruction : Instruction) :
    (scene.incidents engine network instruction).countP Incident.isRan =
      scene.hook.runs (scene.incidents engine network instruction) := by
  cases instruction with
  | fire =>
    -- While the exit work is running the queue is not fired again.
    rw [incidents, Hook.runs, Hook.runs_eq_zero (fired_notMem_firingCourse _ _),
      List.countP_cons_of_neg Bool.false_ne_true, ran_firingCourse]
    rfl
  | discard => rfl
  | _ => exact (ran_moments _).trans (Hook.runs_eq_zero (fired_notMem_moments _) _).symm

/-- Firing the queue is carrying out the exit work, as often as the queue is told to run it. -/
theorem fire_eq (network : Wire.Network) (scene : Scene ω) :
    scene.fire engine =
      (fun scene : Scene ω => (scene.carryOut engine Custody.exitCleanup).2)^[
        (scene.incidents engine network .fire).countP Incident.isRan]
        { scene with exits := scene.exits.emptied } := by
  rw [incidents, List.countP_cons_of_neg Bool.false_ne_true, ran_firingCourse]
  exact List.foldl_const _ _ _

theorem ran_course (steps : List (Wire.Network × Instruction)) (scene : Scene ω) :
    (scene.course engine steps).countP Incident.isRan =
      scene.hook.runs (scene.course engine steps) := by
  induction steps generalizing scene with
  | nil => rfl
  | cons step rest ih =>
    have later := ih (scene.follow engine step.1 step.2).2
    rw [hook_follow] at later
    rw [course_cons, List.countP_append, ran_incidents, Hook.runs_append, later]

end Scene

/-- The exit work is installed once and run by the exit queue at most once.  In every run, at every
moment, also while a call is on its way and while the exit work is running, there is one
installation if something has been registered and none otherwise, and the exit work waits from the
first registration until the queue is fired or discarded.  The queue runs it once if it is fired in
this time, and never otherwise; and firing is nothing but carrying out the exit work as often as it
is told to be run.  The hook at a moment is told from the incidents so far; it is that of the scene,
after each act of a holder and after the run. -/
theorem exit_work_once {ω : Type} (engine : Engine ω) {settings : Settings} {custody : Custody}
    (opened : Custody.ofSettings settings = .ok custody) (world : ω)
    (steps : List (Wire.Network × Scene.Instruction)) :
    let start := Scene.opening custody world
    let course := start.course engine steps
    course.filterMap Incident.moment? = start.recount engine steps ∧
    (∀ (scene : Scene ω) act,
      (scene.act act).hook = scene.hook.after (.moment (.acted act))) ∧
    (∀ (scene : Scene ω) network, scene.fire engine =
      (fun scene : Scene ω => (scene.carryOut engine Custody.exitCleanup).2)^[
        (scene.incidents engine network .fire).countP Incident.isRan]
        { scene with exits := scene.exits.emptied }) ∧
    (start.pursue engine steps).hook = course.foldl Hook.after .idle ∧
    (∀ early, early <+: course →
      let exits := (early.foldl Hook.after .idle).exits
      (Registered early → exits.installs = 1) ∧ (¬ Registered early → exits.installs = 0) ∧
      (Waiting early → exits.pending = [()]) ∧ (¬ Waiting early → exits.pending = [])) ∧
    course.countP Incident.isRan ≤ 1 ∧
    (course.countP Incident.isRan = 1 ↔
      ∃ past rest, course = past ++ .fired :: rest ∧ Waiting past) := by
  intro start course
  have idle : start.hook = .idle := by
    have unarmed : custody.armed = false := by rw [(Custody.eq_of_ofSettings opened).2]
    exact congrArg (Hook.mk · ExitQueue.empty) unarmed
  have ran : course.countP Incident.isRan = Hook.idle.runs course := by
    rw [← idle]
    exact Scene.ran_course steps start
  -- Each run uses up an installation, and there is one at most.
  have once : Hook.idle.runs course ≤ 1 := by
    have balance := Hook.idle.runs_add_pending_le course
    have few : (course.foldl Hook.after .idle).exits.installs ≤ 1 := by
      by_cases registered : Registered course
      · exact Nat.le_of_eq ((installs_iff course).1 registered)
      · rw [(installs_iff course).2 registered]
        exact Nat.zero_le 1
    have nothingWaits : Hook.idle.exits.pending.length = 0 := rfl
    omega
  have waiting_iff (past : List Incident) :
      (past.foldl Hook.after .idle).exits.pending ≠ [] ↔ Waiting past := by
    constructor
    · intro waits
      exact Classical.byContradiction fun stopped => waits ((pending_iff past).2 stopped)
    · intro waiting
      rw [(pending_iff past).1 waiting]
      exact List.cons_ne_nil _ _
  refine ⟨Scene.moments_course steps start, Scene.hook_act, fun scene network =>
    scene.fire_eq network, ?_, ?_, ?_, ?_⟩
  · rw [← idle]
    exact Scene.hook_pursue steps start
  · intro early _
    exact ⟨(installs_iff early).1, (installs_iff early).2, (pending_iff early).1,
      (pending_iff early).2⟩
  · rw [ran]
    exact once
  · have whenFired := Hook.idle.runs_ne_zero_iff course
    simp only [waiting_iff] at whenFired
    rw [ran, ← whenFired]
    omega

namespace Bequest

open Scene

def rounds : List (Wire.Network × Instruction) :=
  let round := [Instruction.act (.hold ⟨.network, "n1", "n1"⟩), .fire]
  (round ++ round).map fun instruction => (Wire.Network.unreachable, instruction)

/-- The second registration installs nothing, and the second firing runs nothing. -/
theorem exit_work_once_rounds :
    Custody.ofSettings settings = .ok custody ∧
      ((start.course Engine.Simulated.engine rounds).foldl Hook.after .idle).exits.installs = 1 ∧
      (start.course Engine.Simulated.engine rounds).countP Incident.isRan = 1 := by
  unfold start
  obtain ⟨-, -, -, -, standing, -, ranOnce⟩ :=
    exit_work_once Engine.Simulated.engine opened Engine.Simulated.World.empty rounds
  -- Only the first round has to be looked at; what the others do follows from the theorem.
  obtain ⟨rest, firstRound⟩ : ∃ rest,
      (opening custody Engine.Simulated.World.empty).course Engine.Simulated.engine rounds =
        [.moment (.acted (.hold ⟨.network, "n1", "n1"⟩))] ++ .fired :: rest := by
    rw [rounds, List.map_append, List.map_cons, List.cons_append, course_cons, List.map_cons,
      List.cons_append, course_cons]
    exact ⟨_, rfl⟩
  rw [firstRound] at standing ranOnce ⊢
  have registered : Registered ([.moment (.acted (.hold ⟨.network, "n1", "n1"⟩))] ++
      .fired :: rest) := ⟨_, .head _, rfl⟩
  refine ⟨opened, (standing _ (List.prefix_refl _)).1 registered, ranOnce.mpr ?_⟩
  exact ⟨_, rest, rfl, [], _, [], rfl, not_registered_nil, rfl, nofun⟩

end Bequest

end Reclaim
