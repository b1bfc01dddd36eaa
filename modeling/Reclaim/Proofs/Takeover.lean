import Reclaim.Proofs.Handover
import Reclaim.Proofs.Runs

/-!
# Taking over

Whether a watchdog has taken over is recorded once and for all, and the record
is exact: it says so just when somebody declared it or a watchdog acknowledged
before (`watched_exactly`).  Telling a watchdog what to watch changes nothing
unless the watchdog acknowledges, and then only this record and the stream that
is kept.
-/

set_option autoImplicit false

namespace Reclaim

/-! ## What is recorded -/

/-- A tale makes a watchdog take over that had not done so at its beginning if somebody declared
it or one acknowledged, and in no other way. -/
theorem Custody.watched_foldl_iff {custody : Custody} (unwatched : custody.watched = false)
    (tale : List Moment) :
    (tale.foldl after custody).watched = true ↔ TakenOver custody.selector tale := by
  rw [watched_foldl, unwatched, Bool.false_or, any_takesOver_iff]

theorem TakenOver.append {selector : Selector} {early : List Moment}
    (takenOver : TakenOver selector early) (late : List Moment) :
    TakenOver selector (early ++ late) := by
  rcases takenOver with declared | ⟨stream, attached, answered⟩
  · exact Or.inl (List.mem_append_left _ declared)
  · exact Or.inr ⟨stream, List.mem_append_left _ attached, answered⟩

theorem TakenOver.prepend {selector : Selector} {late : List Moment}
    (takenOver : TakenOver selector late) (early : List Moment) :
    TakenOver selector (early ++ late) := by
  rcases takenOver with declared | ⟨stream, attached, answered⟩
  · exact Or.inl (List.mem_append_right _ declared)
  · exact Or.inr ⟨stream, List.mem_append_right _ attached, answered⟩

namespace Scene

variable {ω : Type} {engine : Engine ω} {start scene : Scene ω} {tale : List Moment}

theorem Reaches.watched_iff (unwatched : start.custody.watched = false)
    (reached : start.Reaches engine tale scene) :
    scene.custody.watched = true ↔ TakenOver start.custody.selector tale := by
  rw [reached.custody_eq]
  exact Custody.watched_foldl_iff unwatched tale

end Scene

/-! ## Readings of the record -/

/-- Whether a moment at which somebody asks if a watchdog has taken over tells what a custody
records. -/
def Moment.Faithful (custody : Custody) : Moment → Prop
  | .answered .watched reply => reply = custody.watched
  | .acted _ | .answered _ _ => True

/-- Every moment of a tale that begins with a custody tells what is recorded by then. -/
def Faithful : Custody → List Moment → Prop
  | _, [] => True
  | custody, moment :: rest => moment.Faithful custody ∧ Faithful (custody.after moment) rest

theorem faithful_append {first second : List Moment} {custody : Custody} :
    Faithful custody (first ++ second) ↔
      Faithful custody first ∧ Faithful (first.foldl Custody.after custody) second := by
  induction first generalizing custody with
  | nil => simp [Faithful]
  | cons moment rest ih => simp only [List.cons_append, Faithful, ih, List.foldl_cons, and_assoc]

theorem faithful_acted (acts : List HolderAct) (custody : Custody) :
    Faithful custody (acts.map .acted) := by
  induction acts generalizing custody with
  | nil => trivial
  | cons act rest ih => exact ⟨trivial, ih _⟩

theorem Faithful.reading {custody : Custody} {early late : List Moment} {reply : Bool}
    (faithful : Faithful custody (early ++ .answered .watched reply :: late)) :
    reply = (early.foldl Custody.after custody).watched :=
  (faithful_append.mp faithful).2.1

namespace Scene

variable {ω α : Type} (engine : Engine ω)

theorem faithful_chronicle (work : Procedure α) (scene : Scene ω) :
    Faithful scene.custody (chronicle engine work scene) := by
  induction work generalizing scene with
  | done value => trivial
  | ask request next ih =>
    rw [chronicle_ask, List.append_cons, faithful_append, ← custody_reply]
    refine ⟨?_, ih _ _⟩
    rw [faithful_append]
    refine ⟨faithful_acted _ _, ?_, trivial⟩
    cases request with
    | watched => exact rfl
    | _ => trivial

theorem faithful_firings (pending : List Unit) (scene : Scene ω) :
    Faithful scene.custody (firings engine pending scene) := by
  induction pending generalizing scene with
  | nil => trivial
  | cons callback rest ih =>
    rw [firings, faithful_append, ← custody_carryOut]
    exact ⟨faithful_chronicle engine _ scene, ih _⟩

theorem faithful_account (network : Wire.Network) (scene : Scene ω) (instruction : Instruction) :
    Faithful scene.custody (scene.account engine network instruction) := by
  cases instruction with
  | act act => exact faithful_acted [act] _
  | stopContainer id label => exact faithful_chronicle engine _ scene
  | removeNetwork id => exact faithful_chronicle engine _ scene
  | cleanup => exact faithful_chronicle engine _ scene
  | bequeath selector => exact faithful_acted [.bequeath selector] _
  | bequeathLabels labels =>
    simp only [account]
    cases Selector.ofLabels labels with
    | error fault => trivial
    | ok selector => exact faithful_acted [.bequeath selector] _
  | sweep selector => exact faithful_chronicle engine _ scene
  | attach stream => exact faithful_acted [.attach stream] _
  | dial address =>
    simp only [account]
    cases Wire.dial network scene.custody.patience address with
    | error fault => trivial
    | ok opened => exact faithful_acted [.attach opened.2] _
  | exitCleanup => exact faithful_chronicle engine _ scene
  | fire => exact faithful_firings engine _ { scene with exits := scene.exits.emptied }
  | discard => trivial

variable {engine} {start scene : Scene ω} {tale : List Moment}

theorem Reaches.faithful (reached : start.Reaches engine tale scene) :
    Faithful start.custody tale := by
  induction reached with
  | start => trivial
  | follow network instruction earlier ih =>
    rw [faithful_append, ← earlier.custody_eq]
    exact ⟨ih, faithful_account engine network _ instruction⟩

end Scene

/-! ## Handshakes -/

/-- How a scene in which a watchdog was told what to watch differs from the one before, by the
answer that came of it; `told` is what happened. -/
structure Scene.Settled {ω : Type} (before : Scene ω) (told : List Moment)
    (answer : Except Wire.Fault Bool) (after : Scene ω) : Prop where
  world : after.world = before.world
  exits : after.exits = before.exits
  takenOver : TakenOver before.custody.selector told ↔ answer = .ok true
  unacknowledged : answer ≠ .ok true → after.custody = before.custody
  acknowledged : answer = .ok true → ∃ stream, told = [.acted (.attach stream)] ∧
    after.custody =
      { before.custody with
        watched := true
        connection := some (Wire.register before.custody.selector stream).stream }

theorem takenOver_attach {selector : Selector} {stream : Wire.Stream} :
    TakenOver selector [.acted (.attach stream)] ↔
      (Wire.register selector stream).answer = .ok true := by
  simp [TakenOver]

theorem not_takenOver_nil (selector : Selector) : ¬ TakenOver selector [] := by
  simp [TakenOver]

namespace Scene

variable {ω : Type}

theorem registration_attach (scene : Scene ω) (stream : Wire.Stream) :
    (scene.attach stream).1 = Wire.register scene.custody.selector stream := by
  simp only [attach]
  rcases (Wire.register scene.custody.selector stream).answer with fault | acknowledged
  · rfl
  · cases acknowledged <;> rfl

theorem settled_attach (scene : Scene ω) (stream : Wire.Stream) :
    scene.Settled [.acted (.attach stream)] (scene.attach stream).1.answer
      (scene.attach stream).2 where
  world := world_attach scene stream
  exits := exits_attach scene stream
  takenOver := by rw [takenOver_attach, registration_attach]
  unacknowledged unanswered := by
    rw [registration_attach] at unanswered
    rw [custody_attach]
    refine Custody.attach_of_unacknowledged ?_
    rwa [← Bool.not_eq_true, Wire.Registration.acknowledged_iff]
  acknowledged answered := by
    rw [registration_attach] at answered
    refine ⟨stream, rfl, ?_⟩
    rw [custody_attach]
    exact Custody.attach_of_acknowledged ((Wire.Registration.acknowledged_iff _).mpr answered)

theorem settled_dial (engine : Engine ω) (network : Wire.Network) (scene : Scene ω)
    (address : String) :
    scene.Settled (scene.account engine network (.dial address))
      (scene.dial network address).1 (scene.dial network address).2 := by
  simp only [account, dial]
  cases Wire.dial network scene.custody.patience address with
  | error fault =>
    refine ⟨rfl, rfl, by simp [not_takenOver_nil], fun _ => rfl, ?_⟩
    intro acknowledged
    cases acknowledged
  | ok opened =>
    -- The report of the connection comes before the handshake and touches the journal alone.
    obtain ⟨world, exits, takenOver, unacknowledged, acknowledged⟩ :=
      (scene.report [.connected opened.1]).settled_attach opened.2
    exact ⟨world, exits, takenOver, unacknowledged, acknowledged⟩

end Scene

/-- The record that a watchdog has taken over is exact, is never taken back, and changes together
with the handshake or not at all.  In every run it says so if and only if somebody declared it or
a watchdog acknowledged before, also whenever it is read meanwhile.  Telling a watchdog what to
watch, over an open stream or one to be opened, leaves everything but the journal alone unless the
watchdog acknowledges, and then changes the record and the stream that is kept, no more. -/
theorem watched_exactly {ω : Type} {engine : Engine ω} {settings : Settings} {custody : Custody}
    (opened : Custody.ofSettings settings = .ok custody) {world : ω} {tale : List Moment}
    {scene : Scene ω} (reached : (Scene.opening custody world).Reaches engine tale scene) :
    (scene.custody.watched = true ↔ TakenOver custody.selector tale) ∧
    (∀ early reply late, tale = early ++ .answered .watched reply :: late →
      (reply = true ↔ TakenOver custody.selector early)) ∧
    scene.custody.selector = custody.selector ∧
    ∀ network,
      (∀ instruction, scene.custody.watched = true →
        (scene.follow engine network instruction).2.custody.watched = true) ∧
      (∀ stream, ∃ after,
        scene.follow engine network (.attach stream) =
          (.registered (Wire.register custody.selector stream), after) ∧
        scene.Settled [.acted (.attach stream)] (Wire.register custody.selector stream).answer
          after) ∧
      ∀ address, ∃ answer after,
        scene.follow engine network (.dial address) = (.dialled answer, after) ∧
        scene.Settled (scene.account engine network (.dial address)) answer after := by
  have unwatched : custody.watched = false := (Custody.ofSettings_ok opened).2
  have sameSelector : scene.custody.selector = custody.selector := reached.selector_eq
  refine ⟨reached.watched_iff unwatched, ?_, sameSelector, ?_⟩
  · rintro early reply late rfl
    rw [reached.faithful.reading]
    exact Custody.watched_foldl_iff unwatched early
  · intro network
    refine ⟨?_, ?_, ?_⟩
    · intro instruction watched
      have takenOver : TakenOver custody.selector tale := (reached.watched_iff unwatched).mp watched
      exact ((reached.follow network instruction).watched_iff unwatched).mpr (takenOver.append _)
    · intro stream
      rw [← sameSelector, ← Scene.registration_attach]
      exact ⟨_, rfl, scene.settled_attach stream⟩
    · intro address
      exact ⟨_, _, rfl, scene.settled_dial engine network address⟩

namespace Bequest

open Scene
open Engine.Simulated (World)

def unanswered : Scene World :=
  (start.follow Engine.Simulated.engine Wire.Network.unreachable (.dial "watchdog:8080")).2

theorem reaches_unanswered : start.Reaches Engine.Simulated.engine [] unanswered := by
  have nothingHappens : start.account Engine.Simulated.engine Wire.Network.unreachable
      (.dial "watchdog:8080") = [] := by
    decide +kernel
  have reached : start.Reaches Engine.Simulated.engine
      ([] ++ start.account Engine.Simulated.engine Wire.Network.unreachable
        (.dial "watchdog:8080")) unanswered :=
    .follow Wire.Network.unreachable (.dial "watchdog:8080") .start
  rwa [nothingHappens] at reached

/-- After an attempt to reach a watchdog that fails, a second one acknowledges. -/
theorem watched_exactly_second :
    Custody.ofSettings settings = .ok custody ∧
      start.Reaches Engine.Simulated.engine [] unanswered ∧
      unanswered.custody.watched ≠ true ∧
      ∃ after, unanswered.follow Engine.Simulated.engine Wire.Network.unreachable
          (.attach obliging) = (.registered (Wire.register custody.selector obliging), after) ∧
        after.custody.watched = true ∧ after.exits = unanswered.exits := by
  obtain ⟨recorded, -, -, settles⟩ := watched_exactly opened reaches_unanswered
  obtain ⟨-, attaches, -⟩ := settles Wire.Network.unreachable
  obtain ⟨after, followed, settled⟩ := attaches obliging
  refine ⟨opened, reaches_unanswered, ?_, after, followed, ?_, settled.exits⟩
  · intro watched
    exact not_takenOver_nil _ (recorded.mp watched)
  · obtain ⟨stream, -, changed⟩ := settled.acknowledged answered
    rw [changed]

end Bequest

end Reclaim
