import Reclaim.Proofs.Takeover

/-!
# The connection that is kept

A watchdog that acknowledges promises to reap once its connection closes, so
the connection has to stay open for as long as the custody lasts.  A custody has
room for one.  It keeps a connection through everything that happens until
another watchdog acknowledges, and then drops it: of all connections over which
watchdogs acknowledged it holds the last one.
-/

set_option autoImplicit false

namespace Reclaim

theorem Wire.register_of_line {selector : Selector} {stream after : Wire.Stream}
    {bytes : List UInt8} {left : List Wire.Arrival}
    (sent : Wire.sendQuery selector stream = (.ok (), after))
    (line : Wire.readLine [] stream.arrivals = .line bytes left)
    (acknowledges : Wire.isAcknowledgment bytes = true) :
    Wire.register selector stream =
      ⟨.ok true, { after with arrivals := left },
        [.sendingQuery (Wire.Form.queryText selector)]⟩ := by
  rw [register_of_sent sent, awaitAcknowledgment_of_line line, if_pos acknowledges]
  rfl

/-! ## Connections over which watchdogs acknowledged -/

/-- The connection over which a watchdog acknowledges at a moment, as the handshake leaves it. -/
def Moment.pledge? (selector : Selector) : Moment → Option Wire.Stream
  | .acted (.attach stream) =>
    if (Wire.register selector stream).acknowledged then
      some (Wire.register selector stream).stream
    else none
  | .acted _ | .answered _ _ => none

/-- The connections over which watchdogs acknowledged in the course of a tale, in order. -/
def pledges (selector : Selector) (tale : List Moment) : List Wire.Stream :=
  tale.filterMap (Moment.pledge? selector)

@[simp] theorem pledges_append (selector : Selector) (early late : List Moment) :
    pledges selector (early ++ late) = pledges selector early ++ pledges selector late :=
  List.filterMap_append

theorem pledges_attach {selector : Selector} {stream : Wire.Stream}
    (acknowledged : (Wire.register selector stream).acknowledged = true) :
    pledges selector [.acted (.attach stream)] = [(Wire.register selector stream).stream] := by
  simp [pledges, Moment.pledge?, acknowledged]

/-! ## What becomes of the connection -/

namespace Custody

/-- A moment puts the connection over which a watchdog acknowledges in the place of the one that
was held, and otherwise leaves it alone. -/
theorem connection_after (custody : Custody) (moment : Moment) :
    (custody.after moment).connection =
      (moment.pledge? custody.selector).or custody.connection := by
  cases moment with
  | acted act =>
    cases act with
    | attach stream =>
      cases acknowledged : (Wire.register custody.selector stream).acknowledged with
      | true =>
        rw [after, attach_of_acknowledged acknowledged]
        simp [Moment.pledge?, acknowledged]
      | false =>
        rw [after, attach_of_unacknowledged acknowledged]
        simp [Moment.pledge?, acknowledged]
    | _ => rfl
  | answered request reply => cases request <;> rfl

theorem connection_of_ofSettings {settings : Settings} {custody : Custody}
    (opened : ofSettings settings = .ok custody) : custody.connection = none := by
  obtain ⟨-, whole⟩ := eq_of_ofSettings opened
  rw [whole]

theorem connection_foldl (tale : List Moment) (custody : Custody) :
    (tale.foldl after custody).connection =
      (pledges custody.selector tale).getLast?.or custody.connection := by
  induction tale generalizing custody with
  | nil => rfl
  | cons moment rest ih =>
    rw [List.foldl_cons, ih, connection_after, selector_after, pledges, pledges,
      filterMap_cons_toList, List.getLast?_append, Option.or_assoc]
    cases moment.pledge? custody.selector <;> rfl

/-- A connection is held from the acknowledgment on until another watchdog acknowledges. -/
theorem connection_foldl_of_pledge {custody : Custody} {stream : Wire.Stream}
    (acknowledged : (Wire.register custody.selector stream).acknowledged = true)
    (early late : List Moment) :
    ((early ++ .acted (.attach stream) :: late).foldl after custody).connection =
      some ((pledges custody.selector late).getLastD
        (Wire.register custody.selector stream).stream) := by
  have split : pledges custody.selector (early ++ .acted (.attach stream) :: late) =
      pledges custody.selector early ++ (Wire.register custody.selector stream).stream ::
        pledges custody.selector late := by
    rw [pledges_append, ← List.singleton_append (x := Moment.acted _), pledges_append,
      pledges_attach acknowledged]
    rfl
  rw [connection_foldl, split, List.getLast?_append, List.getLast?_cons, Option.some_or,
    Option.some_or, List.getLastD_eq_getLast?]

end Custody

namespace Scene

variable {ω : Type} {engine : Engine ω} {start scene : Scene ω} {tale : List Moment}

theorem Reaches.connection_eq (reached : start.Reaches engine tale scene)
    (fresh : start.custody.connection = none) :
    scene.custody.connection = (pledges start.custody.selector tale).getLast? := by
  rw [reached.custody_eq, Custody.connection_foldl, fresh, Option.or_none]

/-- All connections over which watchdogs acknowledged have been dropped but the one that is
held. -/
theorem Reaches.pledges_eq (reached : start.Reaches engine tale scene)
    (fresh : start.custody.connection = none) :
    pledges start.custody.selector tale =
      (pledges start.custody.selector tale).dropLast ++ scene.custody.connection.toList := by
  rw [reached.connection_eq fresh]
  by_cases nothing : pledges start.custody.selector tale = []
  · simp [nothing]
  · rw [List.getLast?_eq_some_getLast nothing]
    exact (List.dropLast_concat_getLast nothing).symm

def Result.acknowledged : Result → Bool
  | .registered registration => registration.acknowledged
  | .dialled (.ok acknowledged) => acknowledged
  | .dialled (.error _) | .done | .outcome _ | .refused _ => false

theorem Result.acknowledged_dialled (registration : Wire.Registration) :
    (Result.dialled registration.answer).acknowledged = registration.acknowledged := by
  simp only [Wire.Registration.acknowledged]
  cases registration.answer <;> rfl

theorem acknowledged_follow_attach (network : Wire.Network) (scene : Scene ω)
    (stream : Wire.Stream) :
    (scene.follow engine network (.attach stream)).1.acknowledged =
      (Wire.register scene.custody.selector stream).acknowledged :=
  congrArg Wire.Registration.acknowledged (registration_attach scene stream)

/-- An instruction with this answer adds one connection to those over which watchdogs
acknowledged. -/
theorem pledges_account_of_acknowledged {network : Wire.Network} {instruction : Instruction}
    (acknowledged : (scene.follow engine network instruction).1.acknowledged = true) :
    ∃ stream,
      pledges scene.custody.selector (scene.account engine network instruction) = [stream] := by
  cases instruction with
  | attach stream =>
    rw [acknowledged_follow_attach] at acknowledged
    exact ⟨_, pledges_attach acknowledged⟩
  | dial address =>
    simp only [follow, dial, account] at acknowledged ⊢
    cases opened : Wire.dial network scene.custody.patience address with
    | error fault =>
      rw [opened] at acknowledged
      cases acknowledged
    | ok connection =>
      rw [opened] at acknowledged
      dsimp only at acknowledged ⊢
      rw [registration_attach] at acknowledged
      have answered : (Wire.register scene.custody.selector connection.2).acknowledged = true :=
        (Result.acknowledged_dialled _).symm.trans acknowledged
      exact ⟨_, pledges_attach answered⟩
  | bequeathLabels labels =>
    simp only [follow] at acknowledged
    cases made : Selector.ofLabels labels with
    | error fault => simp [made, Result.acknowledged] at acknowledged
    | ok selector => simp [made, Result.acknowledged] at acknowledged
  | _ => cases acknowledged

end Scene

/-- Of the connections over which watchdogs acknowledged a custody holds the last one, and has
dropped the others: a connection is held through whatever happens until another watchdog
acknowledges, and no longer.  So all of them are held if and only if there is no more than one. -/
theorem last_pledge_held {ω : Type} {engine : Engine ω} {settings : Settings} {custody : Custody}
    (opened : Custody.ofSettings settings = .ok custody) {world : ω} {tale : List Moment}
    {scene : Scene ω} (reached : (Scene.opening custody world).Reaches engine tale scene) :
    let pledged := pledges custody.selector tale
    let held := scene.custody.connection.toList
    (∀ early stream late, early ++ .acted (.attach stream) :: late <+: tale →
      (Wire.register custody.selector stream).answer = .ok true →
      ((early ++ .acted (.attach stream) :: late).foldl Custody.after custody).connection =
        some ((pledges custody.selector late).getLastD
          (Wire.register custody.selector stream).stream)) ∧
    pledged = pledged.dropLast ++ held ∧
    (pledged = held ↔ pledged.length ≤ 1) ∧
    ∀ network instruction,
      (scene.follow engine network instruction).1.acknowledged = true →
      ∃ stream, pledges custody.selector (scene.account engine network instruction) = [stream] ∧
        (scene.follow engine network instruction).2.custody.connection = some stream := by
  intro pledged held
  have fresh : custody.connection = none := Custody.connection_of_ofSettings opened
  have dropped : pledged = pledged.dropLast ++ held := reached.pledges_eq fresh
  refine ⟨?_, ?_, ?_, ?_⟩
  · intro early stream late _ answered
    have acknowledged : (Wire.register custody.selector stream).acknowledged = true :=
      (Wire.Registration.acknowledged_iff _).mpr answered
    exact Custody.connection_foldl_of_pledge acknowledged early late
  · exact dropped
  · constructor
    · intro whole
      have single : held.length ≤ 1 := Option.length_toList_le
      rwa [← whole] at single
    · intro few
      have none_dropped : pledged.dropLast = [] := by
        apply List.eq_nil_of_length_eq_zero
        rw [List.length_dropLast]
        omega
      rw [dropped, none_dropped, List.nil_append]
  · intro network instruction acknowledged
    obtain ⟨stream, told⟩ := Scene.pledges_account_of_acknowledged acknowledged
    rw [reached.selector_eq] at told
    have next := (reached.follow network instruction).connection_eq fresh
    have pledgedNow : pledges custody.selector
        (tale ++ scene.account engine network instruction) = pledged ++ [stream] := by
      rw [pledges_append]
      exact congrArg _ told
    refine ⟨stream, told, ?_⟩
    rw [next]
    exact (congrArg List.getLast? pledgedNow).trans List.getLast?_concat

namespace Bequest

open Scene
open Engine.Simulated (World)

def successor : Wire.Stream := ⟨[.chunk [0x61, 0x63, 0x6b, 0x0d, 0x0a]], [], [], []⟩

theorem register_obliging : Wire.register custody.selector obliging =
    ⟨.ok true,
      { obliging with
        arrivals := [.chunk []], written := Wire.Form.query custody.selector ++ [0x0a] },
      [.sendingQuery (Wire.Form.queryText custody.selector)]⟩ := by
  have line : Wire.readLine [] obliging.arrivals = .line [0x41, 0x43, 0x4b] [.chunk []] := by
    decide +kernel
  exact Wire.register_of_line rfl line (by decide +kernel)

theorem register_successor : Wire.register custody.selector successor =
    ⟨.ok true,
      { successor with
        arrivals := [.chunk [0x0a]], written := Wire.Form.query custody.selector ++ [0x0a] },
      [.sendingQuery (Wire.Form.queryText custody.selector)]⟩ := by
  have line : Wire.readLine [] successor.arrivals =
      .line [0x61, 0x63, 0x6b] [.chunk [0x0a]] := by
    decide +kernel
  exact Wire.register_of_line rfl line (by decide +kernel)

def guarded : Scene World :=
  (start.follow Engine.Simulated.engine Wire.Network.unreachable (.attach obliging)).2

def relieved : Scene World :=
  (guarded.follow Engine.Simulated.engine Wire.Network.unreachable (.attach successor)).2

theorem reaches_guarded :
    start.Reaches Engine.Simulated.engine [.acted (.attach obliging)] guarded :=
  .follow Wire.Network.unreachable (.attach obliging) .start

theorem reaches_relieved :
    start.Reaches Engine.Simulated.engine
      [.acted (.attach obliging), .acted (.attach successor)] relieved :=
  .follow Wire.Network.unreachable (.attach successor) reaches_guarded

theorem acknowledged_successor :
    (Wire.register custody.selector successor).acknowledged = true := by
  rw [register_successor]
  rfl

theorem pledges_relieved :
    pledges custody.selector [.acted (.attach obliging), .acted (.attach successor)] =
      [(Wire.register custody.selector obliging).stream,
        (Wire.register custody.selector successor).stream] := by
  rw [← List.singleton_append, pledges_append, pledges_attach acknowledged,
    pledges_attach acknowledged_successor]
  rfl

/-- A connection over which a watchdog has acknowledged is dropped when another watchdog does so
too. -/
theorem first_pledge_dropped :
    start.Reaches Engine.Simulated.engine
        [.acted (.attach obliging), .acted (.attach successor)] relieved ∧
      (start.follow Engine.Simulated.engine Wire.Network.unreachable
        (.attach obliging)).1.acknowledged = true ∧
      guarded.custody.connection = some (Wire.register custody.selector obliging).stream ∧
      (guarded.follow Engine.Simulated.engine Wire.Network.unreachable
        (.attach successor)).1.acknowledged = true ∧
      relieved.custody.connection ≠ some (Wire.register custody.selector obliging).stream := by
  have first := reaches_guarded.connection_eq rfl
  have second := reaches_relieved.connection_eq rfl
  refine ⟨reaches_relieved, ?_, ?_, ?_, ?_⟩
  · rw [acknowledged_follow_attach]
    exact acknowledged
  · rw [first]
    exact congrArg List.getLast? (pledges_attach acknowledged)
  · rw [acknowledged_follow_attach, reaches_guarded.selector_eq]
    exact acknowledged_successor
  · intro kept
    rw [second] at kept
    have same := (congrArg List.getLast? pledges_relieved).symm.trans kept
    rw [register_obliging, register_successor] at same
    exact absurd same (by decide +kernel)

theorem last_pledge_held_relieved :
    Custody.ofSettings settings = .ok custody ∧
      start.Reaches Engine.Simulated.engine
        [.acted (.attach obliging), .acted (.attach successor)] relieved ∧
      relieved.custody.connection = some (Wire.register custody.selector successor).stream ∧
      (pledges custody.selector
        [.acted (.attach obliging), .acted (.attach successor)]).dropLast =
          [(Wire.register custody.selector obliging).stream] := by
  obtain ⟨holds, -, -, -⟩ := last_pledge_held opened reaches_relieved
  have late := holds [.acted (.attach obliging)] successor [] List.prefix_rfl
    ((Wire.Registration.acknowledged_iff _).mp acknowledged_successor)
  refine ⟨opened, reaches_relieved, ?_, ?_⟩
  · rw [reaches_relieved.custody_eq]
    exact late
  · rw [pledges_relieved]
    rfl

end Bequest

end Reclaim
