import Reclaim.Proofs.Acknowledgment

/-!
# Answers on an undisturbed stream

Where reads are at most interrupted, no line is torn, and a wait fails to find
an acknowledgment only when none is left.  So registrations one after another
on a reliable stream are answered by the number of its acknowledgments alone:
that many are granted, and those after them are not (`answers_registerAll`).
-/

set_option autoImplicit false

namespace Reclaim.Wire

/-- Arrivals whose only faults are interruptions. -/
def Undisturbed (arrivals : List Arrival) : Prop :=
  ∀ fault, Arrival.fault fault ∈ arrivals → fault.interrupted = true

/-- A reader notices nothing but the bytes of undisturbed arrivals, whatever their chunks. -/
theorem signals_of_undisturbed {arrivals : List Arrival} (undisturbed : Undisturbed arrivals) :
    signals arrivals = (unread arrivals).map .byte := by
  induction arrivals with
  | nil => rfl
  | cons arrival rest ih =>
    have later : Undisturbed rest := fun fault member =>
      undisturbed fault (List.mem_cons_of_mem _ member)
    rw [signals_cons, ih later]
    cases arrival with
    | chunk bytes => rw [Arrival.signals, unread, List.map_append]
    | fault fault =>
      have interrupted := undisturbed fault List.mem_cons_self
      rw [Arrival.signals, if_pos interrupted, List.nil_append, unread]

theorem creditsFrom_bytes (bytes begun : List UInt8) :
    creditsFrom begun (bytes.map .byte) = (linesFrom begun bytes).countP isAcknowledgment := by
  induction bytes generalizing begun with
  | nil =>
    -- Nothing begun is no line and no acknowledgment either.
    rw [List.map_nil, creditsFrom, linesFrom, credit]
    cases begun with
    | nil => rfl
    | cons b rest => rw [List.isEmpty_cons, if_neg Bool.false_ne_true, List.countP_singleton]
  | cons b rest ih =>
    rw [List.map_cons, creditsFrom, linesFrom]
    by_cases ends : endsLine b = true
    · rw [if_pos ends, if_pos ends, List.countP_cons, ih, credit, Nat.add_comm]
    · rw [if_neg ends, if_neg ends, ih]

theorem credits_of_undisturbed {arrivals : List Arrival} (undisturbed : Undisturbed arrivals) :
    credits arrivals = acknowledgmentLines arrivals := by
  rw [credits, signals_of_undisturbed undisturbed, creditsFrom_bytes]
  rfl

/-! ## One wait -/

theorem waitFrom_bytes (bytes begun : List UInt8) :
    ∃ rest : List UInt8, waitFrom begun (bytes.map .byte) =
      (.ok (decide (0 < creditsFrom begun (bytes.map .byte))), rest.map .byte) := by
  induction bytes generalizing begun with
  | nil =>
    refine ⟨[], ?_⟩
    rw [List.map_nil, waitFrom, creditsFrom, credit]
    cases isAcknowledgment begun <;> rfl
  | cons b rest ih =>
    rw [List.map_cons, waitFrom, creditsFrom]
    by_cases ends : endsLine b = true
    · rw [if_pos ends, if_pos ends]
      by_cases acknowledged : isAcknowledgment begun = true
      · have positive : 0 < credit begun + creditsFrom [] (rest.map .byte) := by
          rw [credit, if_pos acknowledged]
          omega
        refine ⟨rest, ?_⟩
        rw [if_pos acknowledged, decide_eq_true positive]
      · have nothing : credit begun = 0 := if_neg acknowledged
        rw [if_neg acknowledged, nothing, Nat.zero_add]
        exact ih []
    · rw [if_neg ends, if_neg ends]
      exact ih _

/-- A wait on nothing but bytes is granted if any acknowledgment is left, and leaves one less. -/
theorem await_of_bytes {arrivals : List Arrival} {bytes : List UInt8}
    (onlyBytes : signals arrivals = bytes.map .byte) :
    (awaitAcknowledgment arrivals).answer = .ok (decide (0 < credits arrivals)) ∧
      credits (awaitAcknowledgment arrivals).left = credits arrivals - 1 ∧
      ∃ rest : List UInt8, signals (awaitAcknowledgment arrivals).left = rest.map .byte := by
  have walked := await_eq arrivals
  obtain ⟨rest, waited⟩ := waitFrom_bytes bytes []
  rw [onlyBytes, waited, ← onlyBytes] at walked
  obtain ⟨answered, left⟩ := Prod.mk.inj walked
  have shared := credits_await arrivals
  refine ⟨answered, ?_, rest, left⟩
  rw [answered] at shared
  by_cases granting : 0 < creditsFrom [] (signals arrivals)
  · rw [decide_eq_true granting] at shared
    have one : granted (.ok true : Except StreamFault Bool) = 1 := rfl
    omega
  · rw [decide_eq_false granting] at shared
    have refused : granted (.ok false : Except StreamFault Bool) = 0 := rfl
    have nothing : credits arrivals = 0 := Nat.eq_zero_of_not_pos granting
    omega

/-! ## Registrations one after another -/

theorem answers_of_bytes (selectors : List Selector) {stream : Stream}
    (reliable : stream.Reliable) {bytes : List UInt8}
    (onlyBytes : signals stream.arrivals = bytes.map .byte) :
    (registerAll stream selectors).map Registration.answer =
      (List.range selectors.length).map fun position =>
        .ok (decide (position < credits stream.arrivals)) := by
  induction selectors generalizing stream bytes with
  | nil => rfl
  | cons selector rest ih =>
    obtain ⟨still, -, answer, arrivals⟩ := reliable.register selector
    obtain ⟨answered, oneLess, restBytes, onlyRest⟩ := await_of_bytes onlyBytes
    have later := ih still (arrivals ▸ onlyRest)
    rw [registerAll, List.map_cons, later, answer, answered, arrivals, oneLess, List.length_cons,
      List.range_succ_eq_map, List.map_cons, List.map_map]
    congr 1
    apply List.map_congr_left
    intro position _
    have shifted : position < credits stream.arrivals - 1 ↔
        position + 1 < credits stream.arrivals := by omega
    rw [decide_eq_decide.mpr shifted]
    rfl

/-- On a reliable stream whose reads are at most interrupted, the registration at a position,
counted from zero, is answered by whether the stream has more acknowledgments than that. -/
theorem answers_registerAll (stream : Stream) (reliable : stream.Reliable)
    (undisturbed : Undisturbed stream.arrivals) (selectors : List Selector) :
    (registerAll stream selectors).map Registration.answer =
      (List.range selectors.length).map fun position =>
        .ok (decide (position + 1 ≤ acknowledgmentLines stream.arrivals)) := by
  have answered := answers_of_bytes selectors reliable (signals_of_undisturbed undisturbed)
  rw [credits_of_undisturbed undisturbed] at answered
  exact answered

/-- Two acknowledgments among other lines, the first torn by an interruption and ended by both
line endings, the second without an end. -/
def straddling : Stream where
  arrivals :=
    [.chunk [0x41, 0x43], .fault ⟨true, "interrupted"⟩, .chunk [0x4b, 0x0d, 0x0a, 0xff],
      .chunk [0x0a, 0x20, 0x41, 0x43, 0x4b, 0x0a, 0x61], .chunk [0x63, 0x6b]]
  acceptances := [.upTo 1, .fault ⟨true, "interrupted"⟩]
  flushes := [none]
  written := []

theorem reliable_straddling : straddling.Reliable := by
  constructor
  · intro acceptance member
    rcases List.mem_cons.mp member with rfl | member
    · exact Nat.one_ne_zero
    · cases List.mem_singleton.mp member
      rfl
  · intro flush member
    exact List.mem_singleton.mp member

theorem undisturbed_straddling : Undisturbed straddling.arrivals := by
  intro fault member
  simp only [straddling, List.mem_cons, List.not_mem_nil, reduceCtorEq, false_or, or_false,
    Arrival.fault.injEq] at member
  rw [member]

theorem answers_registerAll_straddling :
    straddling.Reliable ∧ Undisturbed straddling.arrivals ∧
      (registerAll straddling [.empty, .empty, .empty]).map Registration.answer =
        [.ok true, .ok true, .ok false] := by
  have two : acknowledgmentLines straddling.arrivals = 2 := by decide +kernel
  have answered := answers_registerAll straddling reliable_straddling undisturbed_straddling
    [.empty, .empty, .empty]
  rw [two] at answered
  exact ⟨reliable_straddling, undisturbed_straddling, answered⟩

end Reclaim.Wire
