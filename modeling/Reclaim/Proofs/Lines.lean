import Reclaim.Wire.Handshake

/-!
# The lines of a stream

The bytes of a stream fall into lines, however they are chunked.  A reader that
goes on after faults gets them too, but a fault in the middle of a line loses
what has been read of it: of such a line only the tail is kept.  What a reader
waiting for an acknowledgment does is then a walk along the bytes and faults
(`await_eq`).
-/

set_option autoImplicit false

namespace Reclaim.Wire

/-- What a reader can notice: a byte, or a fault that is no interruption. -/
inductive Signal where
  | byte (b : UInt8)
  | fault (fault : StreamFault)

def Arrival.signals : Arrival → List Signal
  | .chunk bytes => bytes.map .byte
  | .fault cause => if cause.interrupted then [] else [.fault cause]

def signals (arrivals : List Arrival) : List Signal := arrivals.flatMap Arrival.signals

def Signal.byte? : Signal → Option UInt8
  | .byte b => some b
  | .fault _ => none

@[simp] theorem signals_cons (arrival : Arrival) (rest : List Arrival) :
    signals (arrival :: rest) = arrival.signals ++ signals rest := rfl

theorem filterMap_byte (bytes : List UInt8) :
    (bytes.map Signal.byte).filterMap Signal.byte? = bytes := by
  induction bytes with
  | nil => rfl
  | cons b rest ih => exact congrArg (b :: ·) ih

theorem bytes_signals (arrivals : List Arrival) :
    (signals arrivals).filterMap Signal.byte? = unread arrivals := by
  induction arrivals with
  | nil => rfl
  | cons arrival rest ih =>
    rw [signals_cons, List.filterMap_append, ih]
    cases arrival with
    | chunk bytes => rw [Arrival.signals, filterMap_byte, unread]
    | fault fault =>
      rw [Arrival.signals, unread]
      split <;> rfl

/-! ## Lines and readings -/

/-- The lines of some bytes, of the first of which some bytes are known already.  Every line feed
and every carriage return ends a line; what is left behind the last one is a line unless it is
empty. -/
def linesFrom (begun : List UInt8) : List UInt8 → List (List UInt8)
  | [] => if begun.isEmpty then [] else [begun]
  | b :: rest =>
    if endsLine b then begun :: linesFrom [] rest else linesFrom (begun ++ [b]) rest

def linesOf (bytes : List UInt8) : List (List UInt8) := linesFrom [] bytes

/-- A line as a reader gets it that goes on after faults: what the faults lost, and what was kept
of it. -/
structure Reading where
  lost : List UInt8
  kept : List UInt8

def Reading.whole (reading : Reading) : List UInt8 := reading.lost ++ reading.kept

def readingsFrom (begun : Reading) : List Signal → List Reading
  | [] => if begun.whole.isEmpty then [] else [begun]
  | .fault _ :: rest => readingsFrom ⟨begun.whole, []⟩ rest
  | .byte b :: rest =>
    if endsLine b then begun :: readingsFrom ⟨[], []⟩ rest
    else readingsFrom ⟨begun.lost, begun.kept ++ [b]⟩ rest

def readings (arrivals : List Arrival) : List Reading := readingsFrom ⟨[], []⟩ (signals arrivals)

theorem whole_readingsFrom (received : List Signal) (begun : Reading) :
    (readingsFrom begun received).map Reading.whole =
      linesFrom begun.whole (received.filterMap Signal.byte?) := by
  induction received generalizing begun with
  | nil =>
    simp only [readingsFrom, List.filterMap_nil, linesFrom]
    split <;> rfl
  | cons signal rest ih =>
    cases signal with
    | fault fault =>
      have same : (Reading.mk begun.whole []).whole = begun.whole := List.append_nil _
      rw [readingsFrom, ih, same]
      rfl
    | byte b =>
      have same : (Reading.mk begun.lost (begun.kept ++ [b])).whole = begun.whole ++ [b] :=
        (List.append_assoc _ _ _).symm
      have bytes : (Signal.byte b :: rest).filterMap Signal.byte? =
          b :: rest.filterMap Signal.byte? := rfl
      rw [bytes, readingsFrom, linesFrom]
      split
      · rw [List.map_cons, ih]
        rfl
      · rw [ih, same]

/-- Lost or kept, the readings are the lines of the stream. -/
theorem whole_readings (arrivals : List Arrival) :
    (readings arrivals).map Reading.whole = linesOf (unread arrivals) := by
  rw [readings, whole_readingsFrom, bytes_signals]
  rfl

/-! ## Waiting for an acknowledgment -/

/-- What a reader answers that waits for an acknowledgment, and what it has not noticed yet. -/
def waitFrom (begun : List UInt8) : List Signal → Except StreamFault Bool × List Signal
  | [] => (.ok (isAcknowledgment begun), [])
  | .fault fault :: rest => (.error fault, rest)
  | .byte b :: rest =>
    if endsLine b then
      if isAcknowledgment begun then (.ok true, rest) else waitFrom [] rest
    else waitFrom (begun ++ [b]) rest

theorem waitFrom_of_uncut {bytes : List UInt8} (uncut : cutLine bytes = none)
    (begun : List UInt8) (rest : List Signal) :
    waitFrom begun (bytes.map .byte ++ rest) = waitFrom (begun ++ bytes) rest := by
  induction bytes generalizing begun with
  | nil => simp
  | cons b more ih =>
    unfold cutLine at uncut
    split at uncut
    next => cases uncut
    next inside =>
      rw [List.map_cons, List.cons_append, waitFrom, if_neg inside,
        ih (Option.map_eq_none_iff.mp uncut), List.append_assoc]
      rfl

theorem waitFrom_of_cut {bytes before after : List UInt8}
    (cut : cutLine bytes = some (before, after)) (begun : List UInt8) (rest : List Signal) :
    waitFrom begun (bytes.map .byte ++ rest) =
      if isAcknowledgment (begun ++ before) then (.ok true, after.map .byte ++ rest)
      else waitFrom [] (after.map .byte ++ rest) := by
  induction bytes generalizing begun before with
  | nil => cases cut
  | cons b more ih =>
    unfold cutLine at cut
    split at cut
    next ends =>
      cases cut
      rw [List.map_cons, List.cons_append, waitFrom, if_pos ends, List.append_nil]
    next inside =>
      obtain ⟨⟨first, second⟩, found, same⟩ := Option.map_eq_some_iff.mp cut
      cases same
      rw [List.map_cons, List.cons_append, waitFrom, if_neg inside, ih found, List.append_assoc]
      rfl

theorem waitFrom_of_readLine (arrivals : List Arrival) (begun : List UInt8) :
    waitFrom begun (signals arrivals) =
      match readLine begun arrivals with
      | .line bytes left =>
        if isAcknowledgment bytes then (.ok true, signals left) else waitFrom [] (signals left)
      | .ended => (.ok false, [])
      | .failed fault left => (.error fault, signals left) := by
  induction arrivals generalizing begun with
  | nil =>
    rw [readLine]
    cases begun with
    | nil => rfl
    | cons b rest =>
      cases isAcknowledged : isAcknowledgment (b :: rest) <;>
        simp [signals, waitFrom, isAcknowledged]
      rfl
  | cons arrival rest ih =>
    cases arrival with
    | fault fault =>
      rw [signals_cons, Arrival.signals, readLine]
      cases fault.interrupted with
      | true => exact ih begun
      | false => rfl
    | chunk bytes =>
      rw [signals_cons, Arrival.signals, readLine]
      cases cut : cutLine bytes with
      | none =>
        rw [waitFrom_of_uncut cut]
        exact ih _
      | some parts => exact waitFrom_of_cut cut begun (signals rest)

/-- Waiting for an acknowledgment depends on the bytes and the faults only, not on the chunks. -/
theorem await_eq (arrivals : List Arrival) :
    ((awaitAcknowledgment arrivals).answer, signals (awaitAcknowledgment arrivals).left) =
      waitFrom [] (signals arrivals) := by
  -- Each line read is one unfolding of the wait and one stretch of the walk.
  induction arrivals using awaitAcknowledgment.induct with
  | case1 arrivals ended =>
    rw [awaitAcknowledgment_of_ended ended, waitFrom_of_readLine, ended]
    rfl
  | case2 arrivals fault left failed =>
    rw [awaitAcknowledgment_of_failed failed, waitFrom_of_readLine, failed]
  | case3 arrivals bytes left line acknowledged =>
    rw [awaitAcknowledgment_of_line line, waitFrom_of_readLine, line]
    simp only [acknowledged, if_true]
  | case4 arrivals bytes left line other ih =>
    rw [awaitAcknowledgment_of_line line, waitFrom_of_readLine, line, if_neg other]
    simp only [other]
    exact ih

end Reclaim.Wire
