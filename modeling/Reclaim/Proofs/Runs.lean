import Reclaim.Proofs.Chronicle

/-!
# Runs

In a run instructions are followed one after another, and the network may look
different at each of them.  What happens while one is followed is told moment by
moment (`account`), and this alone determines what becomes of the custody
(`custody_follow`): whether a watchdog has taken over, because somebody declared
it or one acknowledged (`watched_foldl`), and the testament, to which is added
what was bequeathed (`testament_foldl_eq`).

A run is told from its end, as a scene that is reached (`Reaches`), or from its
beginning, step by step (`pursue`, `recount`).  Exit cleanups begin in the
scenes that are reached, when they are asked for, and in those where the exit
queue comes to them (`Departs`).
-/

set_option autoImplicit false

namespace Reclaim

namespace Scene

variable {ω : Type}

def firings (engine : Engine ω) : List Unit → Scene ω → List Moment
  | [], _ => []
  | _ :: rest, scene =>
    chronicle engine Custody.exitCleanup scene ++
      firings engine rest (scene.carryOut engine Custody.exitCleanup).2

/-- What happens while an instruction is followed. -/
def account (engine : Engine ω) (network : Wire.Network) (scene : Scene ω) :
    Instruction → List Moment
  | .act act => [.acted act]
  | .stopContainer id label => chronicle engine (Custody.stopContainer id label) scene
  | .removeNetwork id => chronicle engine (Custody.removeNetwork id) scene
  | .cleanup => chronicle engine Custody.cleanup scene
  | .bequeath selector => [.acted (.bequeath selector)]
  | .bequeathLabels labels =>
    match Selector.ofLabels labels with
    | .error _ => []
    | .ok selector => [.acted (.bequeath selector)]
  | .sweep selector => chronicle engine (Sweep.selector selector) scene
  | .attach stream => [.acted (.attach stream)]
  | .dial address =>
    match Wire.dial network scene.custody.patience address with
    | .error _ => []
    | .ok (_, stream) => [.acted (.attach stream)]
  | .exitCleanup => chronicle engine Custody.exitCleanup scene
  | .fire => firings engine scene.exits.pending { scene with exits := scene.exits.emptied }
  | .discard => []

theorem custody_firings (engine : Engine ω) (pending : List Unit) (scene : Scene ω) :
    (pending.foldl (fun scene _ => (scene.carryOut engine Custody.exitCleanup).2) scene).custody =
      (firings engine pending scene).foldl Custody.after scene.custody := by
  induction pending generalizing scene with
  | nil => rfl
  | cons callback rest ih =>
    rw [List.foldl_cons, ih, firings, List.foldl_append, ← custody_carryOut]

theorem custody_follow (engine : Engine ω) (network : Wire.Network) (scene : Scene ω)
    (instruction : Instruction) :
    (scene.follow engine network instruction).2.custody =
      (scene.account engine network instruction).foldl Custody.after scene.custody := by
  cases instruction with
  | act act => exact custody_act scene act
  | stopContainer id label => exact custody_carryOut engine (Custody.stopContainer id label) scene
  | removeNetwork id => exact custody_carryOut engine (Custody.removeNetwork id) scene
  | cleanup => exact custody_carryOut engine _ scene
  | bequeath selector => rfl
  | bequeathLabels labels =>
    simp only [follow, account]
    cases Selector.ofLabels labels with
    | error fault => rfl
    | ok selector => rfl
  | sweep selector => exact custody_carryOut engine _ scene
  | attach stream => exact custody_attach scene stream
  | dial address =>
    -- A connection that does not open leaves the custody as it is.
    simp only [follow, account, dial]
    cases Wire.dial network scene.custody.patience address with
    | error fault => rfl
    | ok opened => exact custody_attach (scene.report [.connected opened.1]) opened.2
  | exitCleanup => exact custody_carryOut engine _ scene
  | fire => exact custody_firings engine _ { scene with exits := scene.exits.emptied }
  | discard => rfl

end Scene

/-! ## What becomes of the parts of a custody -/

/-- Whether a watchdog takes over, or is declared to have done so. -/
def Moment.takesOver (selector : Selector) : Moment → Bool
  | .acted .markWatched => true
  | .acted (.attach stream) => (Wire.register selector stream).acknowledged
  | .acted _ | .answered _ _ => false

theorem Wire.Registration.acknowledged_iff (registration : Wire.Registration) :
    registration.acknowledged = true ↔ registration.answer = .ok true := by
  simp only [Wire.Registration.acknowledged]
  cases registration.answer with
  | error fault => simp
  | ok value => simp

/-- Somebody declared in the course of a tale that a watchdog has taken over, or one
acknowledged. -/
def TakenOver (selector : Selector) (tale : List Moment) : Prop :=
  .acted .markWatched ∈ tale ∨
    ∃ stream, .acted (.attach stream) ∈ tale ∧ (Wire.register selector stream).answer = .ok true

theorem any_takesOver_iff {selector : Selector} {tale : List Moment} :
    tale.any (Moment.takesOver selector) = true ↔ TakenOver selector tale := by
  rw [List.any_eq_true]
  constructor
  · rintro ⟨moment, member, takesOver⟩
    cases moment with
    | answered request reply => cases takesOver
    | acted act =>
      cases act with
      | attach stream =>
        exact Or.inr ⟨stream, member, (Wire.Registration.acknowledged_iff _).mp takesOver⟩
      | markWatched => exact Or.inl member
      | _ => cases takesOver
  · rintro (declared | ⟨stream, attached, answered⟩)
    · exact ⟨_, declared, rfl⟩
    · exact ⟨_, attached, (Wire.Registration.acknowledged_iff _).mpr answered⟩

def Moment.bequest? : Moment → Option Selector
  | .acted (.bequeath selector) => some selector
  | .acted _ | .answered _ _ => none

def bequests (tale : List Moment) : List Selector := tale.filterMap Moment.bequest?

theorem filterMap_cons_toList {α β : Type} (select : α → Option β) (item : α) (rest : List α) :
    (item :: rest).filterMap select = (select item).toList ++ rest.filterMap select := by
  cases selected : select item with
  | none => exact List.filterMap_cons_none selected
  | some value => exact List.filterMap_cons_some selected

theorem bequests_append (early late : List Moment) :
    bequests (early ++ late) = bequests early ++ bequests late :=
  List.filterMap_append

namespace Custody

theorem attach_of_acknowledged {custody : Custody} {stream : Wire.Stream}
    (acknowledged : (Wire.register custody.selector stream).acknowledged = true) :
    custody.attach stream =
      { custody with
        watched := true
        connection := some (Wire.register custody.selector stream).stream } := by
  simp only [Wire.Registration.acknowledged] at acknowledged
  simp only [attach]
  cases answer : (Wire.register custody.selector stream).answer with
  | error fault =>
    rw [answer] at acknowledged
    cases acknowledged
  | ok value =>
    rw [answer] at acknowledged
    cases acknowledged
    rfl

theorem attach_of_unacknowledged {custody : Custody} {stream : Wire.Stream}
    (unacknowledged : (Wire.register custody.selector stream).acknowledged = false) :
    custody.attach stream = custody := by
  simp only [Wire.Registration.acknowledged] at unacknowledged
  simp only [attach]
  cases answer : (Wire.register custody.selector stream).answer with
  | error fault => rfl
  | ok value =>
    rw [answer] at unacknowledged
    cases unacknowledged
    rfl

theorem attach_eq (custody : Custody) (stream : Wire.Stream) :
    ∃ watched connection, custody.attach stream =
      { custody with watched := watched, connection := connection } := by
  cases acknowledged : (Wire.register custody.selector stream).acknowledged with
  | true => exact ⟨_, _, attach_of_acknowledged acknowledged⟩
  | false => exact ⟨_, _, attach_of_unacknowledged acknowledged⟩

/-- No moment changes whom a custody answers for. -/
theorem identity_after (custody : Custody) (moment : Moment) :
    (custody.after moment).selector = custody.selector ∧
      (custody.after moment).labels = custody.labels := by
  cases moment with
  | acted act =>
    cases act with
    | attach stream =>
      obtain ⟨watched, connection, same⟩ := custody.attach_eq stream
      rw [after, same]
      exact ⟨rfl, rfl⟩
    | _ => exact ⟨rfl, rfl⟩
  | answered request reply => cases request <;> exact ⟨rfl, rfl⟩

/-- What each moment leaves alone, a tale leaves alone. -/
theorem foldl_after_eq {α : Type} {part : Custody → α}
    (kept : ∀ custody moment, part (after custody moment) = part custody) (tale : List Moment)
    (custody : Custody) : part (tale.foldl after custody) = part custody := by
  induction tale generalizing custody with
  | nil => rfl
  | cons moment rest ih => rw [List.foldl_cons, ih, kept]

theorem selector_after (custody : Custody) (moment : Moment) :
    (custody.after moment).selector = custody.selector :=
  (custody.identity_after moment).1

theorem selector_foldl (tale : List Moment) (custody : Custody) :
    (tale.foldl after custody).selector = custody.selector :=
  foldl_after_eq selector_after tale custody

theorem labels_foldl (tale : List Moment) (custody : Custody) :
    (tale.foldl after custody).labels = custody.labels :=
  foldl_after_eq (fun custody moment => (custody.identity_after moment).2) tale custody

theorem testament_after (custody : Custody) (moment : Moment) :
    (custody.after moment).testament = custody.testament ++ moment.bequest?.toList := by
  cases moment with
  | acted act =>
    cases act with
    | bequeath selector => rfl
    | attach stream =>
      obtain ⟨watched, connection, same⟩ := custody.attach_eq stream
      rw [after, same]
      exact (List.append_nil _).symm
    | _ => exact (List.append_nil _).symm
  | answered request reply => cases request <;> exact (List.append_nil _).symm

theorem testament_foldl_eq (tale : List Moment) (custody : Custody) :
    (tale.foldl after custody).testament = custody.testament ++ bequests tale := by
  induction tale generalizing custody with
  | nil => exact (List.append_nil _).symm
  | cons moment rest ih =>
    rw [List.foldl_cons, ih, testament_after, List.append_assoc, bequests, bequests,
      filterMap_cons_toList]

theorem watched_after (custody : Custody) (moment : Moment) :
    (custody.after moment).watched =
      (custody.watched || moment.takesOver custody.selector) := by
  cases moment with
  | acted act =>
    cases act with
    | attach stream =>
      cases acknowledged : (Wire.register custody.selector stream).acknowledged with
      | true =>
        rw [after, attach_of_acknowledged acknowledged]
        simp [Moment.takesOver, acknowledged]
      | false =>
        rw [after, attach_of_unacknowledged acknowledged]
        simp [Moment.takesOver, acknowledged]
    | markWatched => simp [after, markWatched, Moment.takesOver]
    | _ => simp [after, hold, forget, bequeath, Moment.takesOver]
  | answered request reply =>
    cases request <;> simp [after, forget, Moment.takesOver]

theorem testament_foldl (tale : List Moment) (custody : Custody) :
    ∃ more, (tale.foldl after custody).testament = custody.testament ++ more :=
  ⟨bequests tale, testament_foldl_eq tale custody⟩

/-- A watchdog has taken over by the end of a tale if one had at its beginning, or one did so
meanwhile. -/
theorem watched_foldl (tale : List Moment) (custody : Custody) :
    (tale.foldl after custody).watched =
      (custody.watched || tale.any (Moment.takesOver custody.selector)) := by
  induction tale generalizing custody with
  | nil => simp
  | cons moment rest ih =>
    rw [List.foldl_cons, ih, watched_after, selector_after, List.any_cons,
      Bool.or_assoc]

end Custody

/-! ## Steps -/

/-- The scenes that instructions lead to, with what happened on the way.  The network may look
different at each instruction. -/
inductive Scene.Reaches {ω : Type} (engine : Engine ω) (start : Scene ω) :
    List Moment → Scene ω → Prop where
  | start : Scene.Reaches engine start [] start
  | follow {tale : List Moment} {scene : Scene ω} (network : Wire.Network)
      (instruction : Scene.Instruction) :
      Scene.Reaches engine start tale scene →
      Scene.Reaches engine start (tale ++ scene.account engine network instruction)
        (scene.follow engine network instruction).2

namespace Scene

variable {ω : Type} {engine : Engine ω} {start scene : Scene ω} {tale : List Moment}

theorem Reaches.custody_eq (reached : start.Reaches engine tale scene) :
    scene.custody = tale.foldl Custody.after start.custody := by
  induction reached with
  | start => rfl
  | follow network instruction earlier ih =>
    rw [custody_follow, ih, List.foldl_append]

theorem Reaches.selector_eq (reached : start.Reaches engine tale scene) :
    scene.custody.selector = start.custody.selector := by
  rw [reached.custody_eq, Custody.selector_foldl]

/-- The scene that several steps lead to, each an instruction and the network that it is followed
in. -/
def pursue (engine : Engine ω) (scene : Scene ω) (steps : List (Wire.Network × Instruction)) :
    Scene ω :=
  steps.foldl (fun scene step => (scene.follow engine step.1 step.2).2) scene

/-- What is noted at each of several steps, from the scene that it begins in. -/
def gather {α : Type} (engine : Engine ω)
    (note : Scene ω → Wire.Network × Instruction → List α) :
    Scene ω → List (Wire.Network × Instruction) → List α
  | _, [] => []
  | scene, step :: rest =>
    note scene step ++ gather engine note (scene.follow engine step.1 step.2).2 rest

/-- What happens in the course of several steps. -/
def recount (engine : Engine ω) : Scene ω → List (Wire.Network × Instruction) → List Moment :=
  gather engine fun scene step => scene.account engine step.1 step.2

theorem Reaches.pursue (reached : start.Reaches engine tale scene)
    (steps : List (Wire.Network × Instruction)) :
    start.Reaches engine (tale ++ scene.recount engine steps) (scene.pursue engine steps) := by
  induction steps generalizing tale scene with
  | nil =>
    rw [recount, gather, List.append_nil]
    exact reached
  | cons step rest ih =>
    have further := ih (reached.follow step.1 step.2)
    rw [List.append_assoc] at further
    exact further

/-- The scenes in which exit cleanups of a run begin, with what happened before. -/
inductive Departs (engine : Engine ω) (start : Scene ω) : List Moment → Scene ω → Prop where
  | asked {tale : List Moment} {scene : Scene ω} :
      start.Reaches engine tale scene → Departs engine start tale scene
  /-- The exit queue comes to a callback behind others. -/
  | fired {tale : List Moment} {scene : Scene ω} (others : List Unit) {callback : Unit}
      {rest : List Unit} :
      start.Reaches engine tale scene → scene.exits.pending = others ++ callback :: rest →
      Departs engine start
        (tale ++ firings engine others { scene with exits := scene.exits.emptied })
        (others.foldl (fun scene _ => (scene.carryOut engine Custody.exitCleanup).2)
          { scene with exits := scene.exits.emptied })

theorem Departs.custody_eq (departs : start.Departs engine tale scene) :
    scene.custody = tale.foldl Custody.after start.custody := by
  cases departs with
  | asked reached => exact reached.custody_eq
  | fired others reached waiting =>
    rw [custody_firings, List.foldl_append, ← reached.custody_eq]

theorem custody_pursue (scene : Scene ω) (steps : List (Wire.Network × Instruction)) :
    (scene.pursue engine steps).custody =
      (scene.recount engine steps).foldl Custody.after scene.custody :=
  (Reaches.start.pursue steps).custody_eq

end Scene

end Reclaim
