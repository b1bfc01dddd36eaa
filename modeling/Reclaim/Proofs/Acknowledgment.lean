import Reclaim.Proofs.Delivery
import Reclaim.Proofs.Lines

/-!
# Counting acknowledgments

Registrations one after another on one stream take an acknowledgment each.
What they take and what the stream still has to give always come to the same
sum (`credits_registerAll`).  That sum need not be the number of the stream's
acknowledgments: where a fault loses the beginning of a line, the tail can pass
for an acknowledgment, and an acknowledgment can be lost.
-/

set_option autoImplicit false

namespace Reclaim.Wire

def registerAll (stream : Stream) : List Selector → List Registration
  | [] => []
  | selector :: rest =>
    register selector stream :: registerAll (register selector stream).stream rest

def streamAfter (stream : Stream) (selectors : List Selector) : Stream :=
  selectors.foldl (fun stream selector => (register selector stream).stream) stream

@[simp] theorem streamAfter_cons (stream : Stream) (selector : Selector)
    (rest : List Selector) :
    streamAfter stream (selector :: rest) =
      streamAfter (register selector stream).stream rest := rfl

def acknowledgments (stream : Stream) (selectors : List Selector) : Nat :=
  (registerAll stream selectors).countP Registration.acknowledged

def acknowledgmentLines (arrivals : List Arrival) : Nat :=
  (linesOf (unread arrivals)).countP isAcknowledgment

/-- The lines that pass for acknowledgments because their beginnings were lost. -/
def forged (arrivals : List Arrival) : Nat :=
  (readings arrivals).countP fun reading =>
    !reading.lost.isEmpty && isAcknowledgment reading.kept

/-- The acknowledgments whose beginnings were lost. -/
def spoiled (arrivals : List Arrival) : Nat :=
  (readings arrivals).countP fun reading =>
    !reading.lost.isEmpty && isAcknowledgment reading.whole

/-! ## What a stream has to give -/

def credit (line : List UInt8) : Nat := if isAcknowledgment line then 1 else 0

/-- How often waiting again and again ends with an acknowledgment. -/
def creditsFrom (begun : List UInt8) : List Signal → Nat
  | [] => credit begun
  | .fault _ :: rest => creditsFrom [] rest
  | .byte b :: rest =>
    if endsLine b then credit begun + creditsFrom [] rest else creditsFrom (begun ++ [b]) rest

def credits (arrivals : List Arrival) : Nat := creditsFrom [] (signals arrivals)

theorem creditsFrom_eq (received : List Signal) (begun : Reading) :
    creditsFrom begun.kept received =
      (readingsFrom begun received).countP fun reading => isAcknowledgment reading.kept := by
  induction received generalizing begun with
  | nil =>
    -- A line of which nothing is kept earns no credit, whether it counts as a reading or not.
    rw [creditsFrom, readingsFrom, credit]
    split
    next acknowledged =>
      rw [if_neg, List.countP_singleton, if_pos acknowledged]
      intro empty
      have nothing : begun.kept = [] := (List.append_eq_nil_iff.mp (List.isEmpty_iff.mp empty)).2
      rw [nothing] at acknowledged
      cases acknowledged
    next other =>
      split
      · rfl
      · rw [List.countP_singleton, if_neg other]
  | cons signal rest ih =>
    cases signal with
    | fault cause => exact ih ⟨begun.whole, []⟩
    | byte b =>
      rw [creditsFrom, readingsFrom]
      split
      · rw [List.countP_cons, ← ih ⟨[], []⟩, credit, Nat.add_comm]
      · exact ih ⟨begun.lost, begun.kept ++ [b]⟩

def granted {ε : Type} : Except ε Bool → Nat
  | .ok true => 1
  | .ok false | .error _ => 0

theorem granted_mapError {ε δ : Type} (answer : Except ε Bool) (rename : ε → δ) :
    granted (answer.mapError rename) = granted answer := by
  cases answer with
  | error fault => rfl
  | ok acknowledged => cases acknowledged <;> rfl

theorem granted_answer (registration : Registration) :
    (if registration.acknowledged then 1 else 0) = granted registration.answer := by
  unfold Registration.acknowledged
  cases registration.answer with
  | error fault => rfl
  | ok acknowledged => cases acknowledged <;> rfl

/-- A wait takes the credit that it is granted, and no other. -/
theorem creditsFrom_wait (received : List Signal) (begun : List UInt8) :
    creditsFrom begun received =
      granted (waitFrom begun received).1 + creditsFrom [] (waitFrom begun received).2 := by
  induction received generalizing begun with
  | nil =>
    rw [creditsFrom, waitFrom, credit]
    cases isAcknowledgment begun <;> rfl
  | cons signal rest ih =>
    cases signal with
    | fault cause => exact (Nat.zero_add _).symm
    | byte b =>
      rw [creditsFrom, waitFrom]
      split
      · cases acknowledged : isAcknowledgment begun with
        | true => simp [credit, acknowledged, granted]
        | false =>
          have nothing : credit begun = 0 := by simp [credit, acknowledged]
          rw [nothing, Nat.zero_add, if_neg Bool.false_ne_true]
          exact ih []
      · exact ih _

theorem credits_await (arrivals : List Arrival) :
    credits arrivals =
      granted (awaitAcknowledgment arrivals).answer +
        credits (awaitAcknowledgment arrivals).left := by
  have walked := await_eq arrivals
  rw [credits, creditsFrom_wait, ← walked]
  rfl

/-! ## Registrations -/

theorem credits_register (selector : Selector) (stream : Stream) :
    credits stream.arrivals =
      granted (register selector stream).answer +
        credits (register selector stream).stream.arrivals := by
  cases sent : sendQuery selector stream with
  | mk outcome after =>
    cases outcome with
    | error fault =>
      have unread := arrivals_sendQuery selector stream
      rw [sent] at unread
      rw [register, sent]
      exact (congrArg credits unread).symm.trans (Nat.zero_add _).symm
    | ok value =>
      rw [register_of_sent sent, granted_mapError]
      exact credits_await stream.arrivals

/-- What registrations took and what is still to be had is what there was to be had. -/
theorem credits_registerAll (selectors : List Selector) (stream : Stream) :
    credits stream.arrivals =
      acknowledgments stream selectors + credits (streamAfter stream selectors).arrivals := by
  induction selectors generalizing stream with
  | nil => exact (Nat.zero_add _).symm
  | cons selector rest ih =>
    have first := credits_register selector stream
    have later := ih (register selector stream).stream
    have taken : acknowledgments stream (selector :: rest) =
        granted (register selector stream).answer +
          acknowledgments (register selector stream).stream rest := by
      rw [acknowledgments, registerAll, List.countP_cons, granted_answer, Nat.add_comm]
      rfl
    have ending : streamAfter stream (selector :: rest) =
        streamAfter (register selector stream).stream rest := rfl
    rw [taken, ending]
    omega

/-! ## What the lines of the stream have to do with it -/

theorem countP_balance (found : List Reading) :
    (found.countP fun reading => isAcknowledgment reading.kept) +
        (found.countP fun reading => !reading.lost.isEmpty && isAcknowledgment reading.whole) =
      (found.countP fun reading => isAcknowledgment reading.whole) +
        found.countP fun reading => !reading.lost.isEmpty && isAcknowledgment reading.kept := by
  induction found with
  | nil => rfl
  | cons reading rest ih =>
    simp only [List.countP_cons]
    cases nothing : reading.lost.isEmpty with
    | true =>
      have intact : reading.whole = reading.kept := by
        rw [Reading.whole, List.isEmpty_iff.mp nothing, List.nil_append]
      simp only [intact, Bool.not_true, Bool.false_and, Bool.false_eq_true, if_false]
      omega
    | false =>
      simp only [Bool.not_false, Bool.true_and]
      omega

theorem credits_balance (arrivals : List Arrival) :
    credits arrivals + spoiled arrivals = acknowledgmentLines arrivals + forged arrivals := by
  have kept : credits arrivals =
      (readings arrivals).countP fun reading => isAcknowledgment reading.kept :=
    creditsFrom_eq (signals arrivals) ⟨[], []⟩
  have whole : acknowledgmentLines arrivals =
      (readings arrivals).countP fun reading => isAcknowledgment reading.whole := by
    rw [acknowledgmentLines, ← whole_readings, List.countP_map]
    rfl
  rw [kept, whole]
  exact countP_balance (readings arrivals)

/-! ## Reading to the end -/

theorem length_waitFrom (received : List Signal) (begun : List UInt8) :
    (waitFrom begun received).2.length ≤ received.length - 1 := by
  induction received generalizing begun with
  | nil => exact Nat.le_refl _
  | cons signal rest ih =>
    cases signal with
    | fault cause => exact Nat.le_refl _
    | byte b =>
      rw [waitFrom]
      split
      · split
        · exact Nat.le_refl _
        · exact Nat.le_trans (ih []) (Nat.sub_le _ _)
      · exact Nat.le_trans (ih _) (Nat.sub_le _ _)

structure Stream.Willing (stream : Stream) : Prop where
  acceptances : stream.acceptances = []
  flushes : stream.flushes = []

theorem Stream.Willing.register {stream : Stream} (willing : stream.Willing)
    (selector : Selector) :
    (register selector stream).stream.Willing ∧
      (signals (register selector stream).stream.arrivals).length ≤
        (signals stream.arrivals).length - 1 := by
  obtain ⟨arrivals, acceptances, flushes, written⟩ := stream
  obtain ⟨rfl, rfl⟩ := willing
  have sent : sendQuery selector ⟨arrivals, [], [], written⟩ =
      (.ok (), ⟨arrivals, [], [], written ++ Form.query selector ++ [0x0a]⟩) := rfl
  have shorter := length_waitFrom (signals arrivals) []
  rw [← await_eq] at shorter
  rw [register_of_sent sent]
  exact ⟨⟨rfl, rfl⟩, shorter⟩

theorem Stream.Willing.exhausts {stream : Stream} (willing : stream.Willing)
    (selectors : List Selector) :
    (signals (streamAfter stream selectors).arrivals).length ≤
      (signals stream.arrivals).length - selectors.length := by
  induction selectors generalizing stream with
  | nil => exact Nat.le_refl _
  | cons selector rest ih =>
    obtain ⟨willingStill, shorter⟩ := willing.register selector
    have later := ih willingStill
    have ending : streamAfter stream (selector :: rest) =
        streamAfter (Wire.register selector stream).stream rest := rfl
    rw [ending, List.length_cons]
    omega

theorem acknowledgments_of_exhausted {stream : Stream} (willing : stream.Willing)
    {selectors : List Selector} (enough : (signals stream.arrivals).length ≤ selectors.length) :
    acknowledgments stream selectors = credits stream.arrivals := by
  have atEnd := willing.exhausts selectors
  have nothing : signals (streamAfter stream selectors).arrivals = [] := by
    apply List.eq_nil_of_length_eq_zero
    omega
  have noCredit : credits (streamAfter stream selectors).arrivals = 0 := by
    rw [credits, nothing]
    rfl
  have shared := credits_registerAll selectors stream
  omega

/-- However many registrations are made on a stream, they are granted no more acknowledgments than
the stream has, except for those that are forged where a fault lost the beginning of a line, and
for each one spoiled in this way there is one less; if all is written and read, exactly as many are
granted.  So the bound by the stream's acknowledgments holds for every sequence of registrations
exactly if no more of them are forged than are spoiled. -/
theorem acknowledgments_bounded_iff (arrivals : List Arrival) :
    (∀ stream selectors, stream.arrivals = arrivals →
      acknowledgments stream selectors + spoiled arrivals ≤
        acknowledgmentLines arrivals + forged arrivals) ∧
    (∀ stream selectors, stream.arrivals = arrivals → stream.Willing →
      (signals arrivals).length ≤ selectors.length →
        acknowledgments stream selectors + spoiled arrivals =
          acknowledgmentLines arrivals + forged arrivals) ∧
    ((∀ stream selectors, stream.arrivals = arrivals →
      acknowledgments stream selectors ≤ acknowledgmentLines arrivals) ↔
        forged arrivals ≤ spoiled arrivals) := by
  have balance := credits_balance arrivals
  have bounded : ∀ stream selectors, stream.arrivals = arrivals →
      acknowledgments stream selectors ≤ credits arrivals := by
    intro stream selectors same
    have shared := credits_registerAll selectors stream
    rw [same] at shared
    omega
  refine ⟨?_, ?_, ?_, ?_⟩
  · intro stream selectors same
    have most := bounded stream selectors same
    omega
  · rintro stream selectors rfl willing enough
    have all := acknowledgments_of_exhausted willing enough
    omega
  · intro claimed
    -- A stream that takes all that is written, and registrations until nothing is left to read.
    have willing : (Stream.mk arrivals [] [] []).Willing := ⟨rfl, rfl⟩
    obtain ⟨selectors, enough⟩ : ∃ selectors : List Selector,
        (signals arrivals).length ≤ selectors.length :=
      ⟨List.replicate (signals arrivals).length .empty, Nat.le_of_eq List.length_replicate.symm⟩
    have all := acknowledgments_of_exhausted willing enough
    have most := claimed ⟨arrivals, [], [], []⟩ selectors rfl
    rw [all] at most
    dsimp only at most
    omega
  · intro fewer stream selectors same
    have most := bounded stream selectors same
    omega

def torn : List Arrival :=
  [.chunk [0x4e, 0x4f, 0x54], .fault ⟨false, "x"⟩, .chunk [0x41, 0x43, 0x4b, 0x0a]]

/-- Two registrations over a torn line: the first fails, the second is granted an acknowledgment
that the stream does not have. -/
theorem acknowledged_by_tail :
    acknowledgments ⟨torn, [], [], []⟩ [.empty, .empty] = 1 ∧ acknowledgmentLines torn = 0 := by
  have first : register .empty ⟨torn, [], [], []⟩ =
      ⟨.error (.stream ⟨false, "x"⟩), ⟨[.chunk [0x41, 0x43, 0x4b, 0x0a]], [], [], [0x0a]⟩,
        [.sendingQuery ""]⟩ := by
    have sent : sendQuery .empty ⟨torn, [], [], []⟩ = (.ok (), ⟨torn, [], [], [0x0a]⟩) := rfl
    have failed : readLine [] torn =
        .failed ⟨false, "x"⟩ [.chunk [0x41, 0x43, 0x4b, 0x0a]] := by decide +kernel
    rw [register_of_sent sent, awaitAcknowledgment_of_failed failed]
    rfl
  have second : (register .empty
      ⟨[.chunk [0x41, 0x43, 0x4b, 0x0a]], [], [], [0x0a]⟩).answer = .ok true := by
    have sent : sendQuery .empty ⟨[.chunk [0x41, 0x43, 0x4b, 0x0a]], [], [], [0x0a]⟩ =
        (.ok (), ⟨[.chunk [0x41, 0x43, 0x4b, 0x0a]], [], [], [0x0a, 0x0a]⟩) := rfl
    have line : readLine [] [.chunk [0x41, 0x43, 0x4b, 0x0a]] =
        .line [0x41, 0x43, 0x4b] [.chunk []] := by decide +kernel
    rw [register_of_sent sent, awaitAcknowledgment_of_line line, if_pos (by decide +kernel)]
    rfl
  refine ⟨?_, by decide +kernel⟩
  simp [acknowledgments, registerAll, first, Registration.acknowledged, second]

end Reclaim.Wire
