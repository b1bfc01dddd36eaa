import Reclaim.Engine.Client
import Reclaim.Scene

/-!
# Lifetimes of processes

Exit callbacks of a process wait in one queue.  The first installation registers
a handler, and when the process returns from its main function, exits, or
panics, every registered handler is called once.  The handler takes all that
waits and runs it in the order of installation; a callback that panics does not
keep the others from running.  The exit work of custodies waits among the
callbacks of the host, which can do all that the main function can, and so can
install further callbacks while the process ends.
-/

set_option autoImplicit false

namespace Reclaim.Lifetime

mutual

inductive Step where
  | setUp
  | act (act : HolderAct)
  | cleanup
  | drop
  | install (callback : HostCallback)

/-- An exit callback of the host: it says something, takes some steps, and may panic then. -/
inductive HostCallback where
  | mk (words : String) (steps : List Step) (panics : Bool)

end

namespace HostCallback

def words : HostCallback → String
  | .mk words _ _ => words

def steps : HostCallback → List Step
  | .mk _ steps _ => steps

def panics : HostCallback → Bool
  | .mk _ _ panics => panics

end HostCallback

inductive Duty where
  /-- The exit work of a custody, by its position among those that were ever set up. -/
  | custody (position : Nat)
  | host (callback : HostCallback)

inductive Ending where
  | returned
  | panicked
  deriving DecidableEq, Repr

structure Exits where
  queue : ExitQueue Duty
  /-- Whether the handler has been registered, which is done once and for all. -/
  registered : Bool
  handlers : Nat

namespace Exits

def opening : Exits := ⟨.empty, false, 0⟩

def install (exits : Exits) (duty : Duty) : Exits where
  queue := exits.queue.install duty
  registered := true
  handlers := if exits.registered then exits.handlers else exits.handlers + 1

def installAll (exits : Exits) (duties : List Duty) : Exits := duties.foldl install exits

/-- The handlers that can still be called: those that have been registered, and the one that is
still to be registered. -/
def owed (exits : Exits) : Nat := exits.handlers + if exits.registered then 0 else 1

theorem owed_install (exits : Exits) (duty : Duty) : (exits.install duty).owed = exits.owed := by
  cases registered : exits.registered <;> simp [owed, install, registered]

theorem owed_installAll (exits : Exits) (duties : List Duty) :
    (exits.installAll duties).owed = exits.owed := by
  induction duties generalizing exits with
  | nil => rfl
  | cons duty rest ih => exact (ih (exits.install duty)).trans (exits.owed_install duty)

end Exits

/-- A process: its custodies with the positions of those that still have a handle, the newest
first, what waits for its end, the state of its engine, and what can be seen of it. -/
structure State (ω : Type) where
  custodies : List Custody
  handles : List Nat
  exits : Exits
  world : ω
  said : List String
  journal : List Entry

namespace State

variable {ω : Type}

def opening (world : ω) : State ω := ⟨[], [], .opening, world, [], []⟩

def install (state : State ω) (duty : Duty) : State ω :=
  { state with exits := state.exits.install duty }

def relieved (state : State ω) : State ω :=
  { state with exits := { state.exits with queue := state.exits.queue.emptied } }

def calling (state : State ω) (others : Nat) : State ω :=
  { state with exits := { state.exits with handlers := others } }

/-- Works with the custody at a position; if that arms it, its exit work waits from then on. -/
def work (state : State ω) (position : Nat) (change : Scene ω → Scene ω) : State ω :=
  match state.custodies[position]? with
  | none => state
  | some custody =>
    let scene := change (Scene.opening custody state.world)
    let worked : State ω :=
      { state with
        custodies := state.custodies.set position scene.custody
        world := scene.world
        journal := state.journal ++ scene.journal }
    if scene.exits.pending.isEmpty then worked else worked.install (.custody position)

def workOnNewest (state : State ω) (change : Scene ω → Scene ω) : State ω :=
  match state.handles with
  | [] => state
  | newest :: _ => state.work newest change

/-! ## What is installed -/

def Installs (before after : State ω) : Prop :=
  ∃ duties, after.exits = before.exits.installAll duties

theorem Installs.refl (state : State ω) : state.Installs state := ⟨[], rfl⟩

theorem Installs.trans {first second third : State ω} (earlier : first.Installs second)
    (later : second.Installs third) : first.Installs third := by
  obtain ⟨front, earlier⟩ := earlier
  obtain ⟨back, later⟩ := later
  refine ⟨front ++ back, ?_⟩
  rw [later, earlier, Exits.installAll, Exits.installAll, Exits.installAll, List.foldl_append]

theorem Installs.foldl {α : Type} {follow : State ω → α → State ω}
    (one : ∀ (state : State ω) item, state.Installs (follow state item)) (state : State ω)
    (items : List α) : state.Installs (items.foldl follow state) := by
  induction items generalizing state with
  | nil => exact .refl state
  | cons item rest ih => exact (one state item).trans (ih (follow state item))

theorem installs_work (state : State ω) (position : Nat) (change : Scene ω → Scene ω) :
    state.Installs (state.work position change) := by
  unfold work
  split
  · exact .refl state
  · dsimp only
    split
    · exact ⟨[], rfl⟩
    · exact ⟨[.custody position], rfl⟩

theorem installs_workOnNewest (state : State ω) (change : Scene ω → Scene ω) :
    state.Installs (state.workOnNewest change) := by
  unfold workOnNewest
  split
  · exact .refl state
  · exact state.installs_work _ change

/-! ## Steps and duties -/

section Steps

variable (engine : Engine ω) (fresh : Custody)

def step (state : State ω) : Step → State ω
  | .setUp =>
    { state with
      custodies := state.custodies ++ [fresh]
      handles := state.custodies.length :: state.handles }
  | .act act => state.workOnNewest (·.act act)
  | .cleanup => state.workOnNewest fun scene => (scene.carryOut engine Custody.cleanup).2
  | .drop => { state with handles := state.handles.tail }
  | .install callback => state.install (.host callback)

def perform (state : State ω) : Duty → Ending × State ω
  | .custody position =>
    (.returned,
      state.work position fun scene => (scene.carryOut engine Custody.exitCleanup).2)
  | .host callback =>
    (if callback.panics then .panicked else .returned,
      callback.steps.foldl (step engine fresh)
        { state with said := state.said ++ [callback.words] })

def attempt (state : State ω) (duty : Duty) : State ω :=
  match state.perform engine fresh duty with
  | (.returned, after) => after
  | (.panicked, after) =>
    { after with journal := after.journal ++ [.event .callbackPanicked] }

/-- What the handler does: it takes all that waits, and performs it in the order of installation. -/
def handle (state : State ω) : State ω :=
  state.exits.queue.pending.foldl (attempt engine fresh) state.relieved

theorem installs_step (state : State ω) (step : Step) :
    state.Installs (state.step engine fresh step) := by
  cases step with
  | setUp | drop => exact ⟨[], rfl⟩
  | act act => exact state.installs_workOnNewest _
  | cleanup => exact state.installs_workOnNewest _
  | install callback => exact ⟨[.host callback], rfl⟩

theorem installs_attempt (state : State ω) (duty : Duty) :
    state.Installs (state.attempt engine fresh duty) := by
  have performed : state.Installs (state.perform engine fresh duty).2 := by
    cases duty with
    | custody position => exact state.installs_work _ _
    | host callback =>
      obtain ⟨duties, same⟩ := Installs.foldl (installs_step engine fresh)
        { state with said := state.said ++ [callback.words] } callback.steps
      exact ⟨duties, same⟩
  unfold attempt
  cases ended : state.perform engine fresh duty with
  | mk ending after =>
    rw [ended] at performed
    cases ending with
    | returned => exact performed
    | panicked =>
      obtain ⟨duties, same⟩ := performed
      exact ⟨duties, same⟩

theorem Installs.owed {before after : State ω} (installs : before.Installs after) :
    after.exits.owed = before.exits.owed := by
  obtain ⟨duties, same⟩ := installs
  rw [same, Exits.owed_installAll]

theorem owed_handle (state : State ω) :
    (state.handle engine fresh).exits.owed = state.exits.owed :=
  (Installs.foldl (installs_attempt engine fresh) _ _).owed

theorem owed_calling {state : State ω} {others : Nat}
    (left : state.exits.handlers = others + 1) :
    (state.calling others).exits.owed < state.exits.owed := by
  rw [Exits.owed, Exits.owed, left]
  exact Nat.add_lt_add_right (Nat.lt_succ_self others) _

/-- Calls every handler once, also one that is registered meanwhile, until none is left. -/
def finish (state : State ω) : State ω :=
  match _left : state.exits.handlers with
  | 0 => state
  | others + 1 =>
    ((state.calling others).handle engine fresh).finish
termination_by state.exits.owed
decreasing_by
  rw [owed_handle]
  exact owed_calling _left

end Steps

end State

def run {ω : Type} (engine : Engine ω) (fresh : Custody) (world : ω) (steps : List Step) :
    State ω :=
  (steps.foldl (State.step engine fresh) (.opening world)).finish engine fresh

end Reclaim.Lifetime
