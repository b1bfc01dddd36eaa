import Reclaim.Proofs.Answers

/-!
# The first acknowledgment

The bytes of a stream are cut at each line feed and each carriage return.  A
wait ends right behind the first line that is an acknowledgment, or at the
first fault that comes before such a line is complete
(`awaitAcknowledgment_exact`); where the chunks begin and end, and how often
reads are interrupted, is of no consequence.
-/

set_option autoImplicit false

namespace Reclaim.Wire

/-! ## Cut bytes -/

def Unbroken (bytes : List UInt8) : Prop := ∀ b ∈ bytes, endsLine b = false

instance (bytes : List UInt8) : Decidable (Unbroken bytes) := List.decidableBAll _ bytes

theorem unbroken_nil : Unbroken [] := nofun

theorem Unbroken.cons {b : UInt8} {bytes : List UInt8} (inside : endsLine b = false)
    (unbroken : Unbroken bytes) : Unbroken (b :: bytes) :=
  List.forall_mem_cons.mpr ⟨inside, unbroken⟩

structure EndedLine where
  body : List UInt8
  ending : UInt8
  unbroken : Unbroken body
  ends : endsLine ending = true

def EndedLine.bytes (line : EndedLine) : List UInt8 := line.body ++ [line.ending]

def joined (lines : List EndedLine) : List UInt8 := lines.flatMap EndedLine.bytes

/-- Bytes that are cut into lines, and what is left behind the last of these. -/
structure CutBytes where
  ended : List EndedLine
  tail : List UInt8
  unbroken : Unbroken tail

namespace CutBytes

def bytes (cut : CutBytes) : List UInt8 := joined cut.ended ++ cut.tail

def lines (cut : CutBytes) : List (List UInt8) :=
  cut.ended.map EndedLine.body ++ if cut.tail.isEmpty then [] else [cut.tail]

def push (b : UInt8) (cut : CutBytes) : CutBytes :=
  if ends : endsLine b = true then { cut with ended := ⟨[], b, unbroken_nil, ends⟩ :: cut.ended }
  else
    have inside : endsLine b = false := Bool.eq_false_iff.mpr ends
    match cut.ended with
    | [] => ⟨[], b :: cut.tail, cut.unbroken.cons inside⟩
    | line :: rest =>
      { cut with
        ended := ⟨b :: line.body, line.ending, line.unbroken.cons inside, line.ends⟩ :: rest }

theorem bytes_push (b : UInt8) (cut : CutBytes) : (cut.push b).bytes = b :: cut.bytes := by
  obtain ⟨ended, tail, unbroken⟩ := cut
  unfold push
  split
  · rfl
  · cases ended <;> rfl

end CutBytes

/-- Cuts bytes at each line feed and each carriage return. -/
def cutBytes (bytes : List UInt8) : CutBytes := bytes.foldr CutBytes.push ⟨[], [], unbroken_nil⟩

theorem bytes_cutBytes (bytes : List UInt8) : (cutBytes bytes).bytes = bytes := by
  induction bytes with
  | nil => rfl
  | cons b rest ih => exact (CutBytes.bytes_push b (cutBytes rest)).trans (congrArg _ ih)

theorem linesFrom_unbroken {bytes : List UInt8} (unbroken : Unbroken bytes)
    (begun rest : List UInt8) :
    linesFrom begun (bytes ++ rest) = linesFrom (begun ++ bytes) rest := by
  induction bytes generalizing begun with
  | nil => simp
  | cons b more ih =>
    obtain ⟨inside, later⟩ := List.forall_mem_cons.mp unbroken
    simp [linesFrom, inside, ih later]

theorem linesOf_joined (lines : List EndedLine) (rest : List UInt8) :
    linesOf (joined lines ++ rest) = lines.map EndedLine.body ++ linesOf rest := by
  induction lines with
  | nil => rfl
  | cons line more ih =>
    have cut : joined (line :: more) ++ rest =
        line.body ++ line.ending :: (joined more ++ rest) := by
      simp [joined, EndedLine.bytes]
    rw [linesOf] at ih
    rw [cut, linesOf, linesFrom_unbroken line.unbroken, linesFrom, if_pos line.ends, ih]
    rfl

theorem linesOf_bytes (cut : CutBytes) : linesOf cut.bytes = cut.lines := by
  have tail := linesFrom_unbroken cut.unbroken [] []
  rw [List.append_nil, List.nil_append, linesFrom] at tail
  rw [CutBytes.bytes, linesOf_joined, linesOf, tail, CutBytes.lines]

/-! ## Walking over lines -/

theorem cutLine_of_unbroken {bytes : List UInt8} (unbroken : Unbroken bytes) :
    cutLine bytes = none := by
  induction bytes with
  | nil => rfl
  | cons b rest ih =>
    obtain ⟨inside, later⟩ := List.forall_mem_cons.mp unbroken
    simp [cutLine, inside, ih later]

theorem waitFrom_line (line : EndedLine) (rest : List Signal) :
    waitFrom [] (line.bytes.map .byte ++ rest) =
      if isAcknowledgment line.body then (.ok true, rest) else waitFrom [] rest := by
  rw [EndedLine.bytes, List.map_append, List.append_assoc,
    waitFrom_of_uncut (cutLine_of_unbroken line.unbroken)]
  simp [waitFrom, line.ends]

theorem waitFrom_joined {lines : List EndedLine}
    (others : ∀ line ∈ lines, isAcknowledgment line.body = false) (rest : List Signal) :
    waitFrom [] ((joined lines).map .byte ++ rest) = waitFrom [] rest := by
  induction lines with
  | nil => rfl
  | cons line more ih =>
    obtain ⟨other, later⟩ := List.forall_mem_cons.mp others
    have cut : (joined (line :: more)).map Signal.byte ++ rest =
        line.bytes.map .byte ++ ((joined more).map .byte ++ rest) := by
      simp [joined]
    rw [cut, waitFrom_line, other, if_neg Bool.false_ne_true, ih later]

section Exact

variable {before : List Arrival} {cut : CutBytes}

theorem signals_of_cut (undisturbed : Undisturbed before) (received : cut.bytes = unread before)
    (after : List Arrival) :
    signals (before ++ after) =
      (joined cut.ended).map .byte ++ (cut.tail.map .byte ++ signals after) := by
  have same : signals (before ++ after) = signals before ++ signals after :=
    List.flatMap_append
  rw [same, signals_of_undisturbed undisturbed, ← received, CutBytes.bytes, List.map_append,
    List.append_assoc]

/-- A wait stops behind the first line that is an acknowledgment. -/
theorem await_of_first (undisturbed : Undisturbed before) (received : cut.bytes = unread before)
    {early late : List EndedLine} {line : EndedLine} (split : cut.ended = early ++ line :: late)
    (others : ∀ other ∈ early, isAcknowledgment other.body = false)
    (acknowledged : isAcknowledgment line.body = true) (after : List Arrival) :
    (awaitAcknowledgment (before ++ after)).answer = .ok true ∧
      signals (awaitAcknowledgment (before ++ after)).left =
        (joined late ++ cut.tail).map .byte ++ signals after := by
  have walked := await_eq (before ++ after)
  have parts : joined cut.ended = joined early ++ (line.bytes ++ joined late) := by
    simp [split, joined]
  rw [signals_of_cut undisturbed received, parts, List.map_append, List.append_assoc,
    waitFrom_joined others, List.map_append, List.append_assoc, waitFrom_line,
    if_pos acknowledged] at walked
  obtain ⟨answered, left⟩ := Prod.mk.inj walked
  exact ⟨answered, by rw [left, List.map_append, List.append_assoc]⟩

/-- Without one among the ended lines a wait goes on to the end, or to the first fault. -/
theorem await_of_none (undisturbed : Undisturbed before) (received : cut.bytes = unread before)
    (others : ∀ line ∈ cut.ended, isAcknowledgment line.body = false) (after : List Arrival) :
    ((awaitAcknowledgment (before ++ after)).answer,
        signals (awaitAcknowledgment (before ++ after)).left) =
      waitFrom cut.tail (signals after) := by
  rw [await_eq, signals_of_cut undisturbed received, waitFrom_joined others,
    waitFrom_of_uncut (cutLine_of_unbroken cut.unbroken), List.nil_append]

end Exact

/-- Over bytes that come in any chunks, with any number of interruptions between them, a wait is
granted exactly if one of the lines is an acknowledgment.  It stops right behind the first ended
line that is one, whatever comes after these bytes.  If there is none, the bytes are read to their
end, where the stream ends too, or a fault comes that is answered; and only the bytes and the faults
count, not the chunks. -/
theorem awaitAcknowledgment_exact {before : List Arrival} (undisturbed : Undisturbed before) :
    let cut := cutBytes (unread before)
    cut.bytes = unread before ∧
    ((awaitAcknowledgment before).answer = .ok true ↔
      ∃ line ∈ cut.lines, isAcknowledgment line = true) ∧
    (∀ early line late, cut.ended = early ++ line :: late →
      (∀ other ∈ early, isAcknowledgment other.body = false) →
      isAcknowledgment line.body = true → ∀ after,
        (awaitAcknowledgment (before ++ after)).answer = .ok true ∧
          signals (awaitAcknowledgment (before ++ after)).left =
            (joined late ++ cut.tail).map .byte ++ signals after) ∧
    ((∀ line ∈ cut.ended, isAcknowledgment line.body = false) →
      (awaitAcknowledgment before).answer = .ok (isAcknowledgment cut.tail) ∧
      signals (awaitAcknowledgment before).left = [] ∧
      ∀ fault later, fault.interrupted = false →
        (awaitAcknowledgment (before ++ .fault fault :: later)).answer = .error fault ∧
          signals (awaitAcknowledgment (before ++ .fault fault :: later)).left =
            signals later) ∧
    ∀ other, signals other = signals before →
      (awaitAcknowledgment other).answer = (awaitAcknowledgment before).answer ∧
        signals (awaitAcknowledgment other).left = signals (awaitAcknowledgment before).left := by
  intro cut
  have received : cut.bytes = unread before := bytes_cutBytes _
  refine ⟨received, ?_, ?_, ?_, ?_⟩
  · obtain ⟨answered, -, -⟩ := await_of_bytes (signals_of_undisturbed undisturbed)
    rw [answered, credits_of_undisturbed undisturbed, acknowledgmentLines, ← linesOf_bytes,
      received]
    simp [List.countP_pos_iff]
  · intro early line late split others acknowledged after
    exact await_of_first undisturbed received split others acknowledged after
  · intro others
    have ended := await_of_none undisturbed received others []
    rw [List.append_nil] at ended
    obtain ⟨answered, left⟩ := Prod.mk.inj ended
    refine ⟨answered, left, ?_⟩
    intro fault later lasting
    have failed := await_of_none undisturbed received others (.fault fault :: later)
    have noticed : signals (.fault fault :: later) = .fault fault :: signals later := by
      simp [Arrival.signals, lasting]
    rw [noticed, waitFrom] at failed
    exact Prod.mk.inj failed
  · intro other same
    have walked := await_eq other
    rw [same, ← await_eq] at walked
    exact Prod.mk.inj walked

/-- An acknowledgment in three chunks, of which the last parts the two bytes of a line ending. -/
def parted : List Arrival :=
  [.chunk [0x6e, 0x6f, 0x0d, 0x41], .fault ⟨true, "interrupted"⟩, .chunk [0x63],
    .chunk [0x6b, 0x0d], .chunk [0x0a, 0x41, 0x43, 0x4b]]

theorem undisturbed_parted : Undisturbed parted := by
  intro fault member
  simp only [parted, List.mem_cons, List.not_mem_nil, reduceCtorEq, false_or, or_false,
    Arrival.fault.injEq] at member
  rw [member]

/-- The line feed behind the carriage return is left, and so is the unterminated line. -/
theorem awaitAcknowledgment_exact_parted :
    Undisturbed parted ∧ (awaitAcknowledgment parted).answer = .ok true ∧
      signals (awaitAcknowledgment parted).left = [0x0a, 0x41, 0x43, 0x4b].map .byte := by
  obtain ⟨-, -, stops, -, -⟩ := awaitAcknowledgment_exact undisturbed_parted
  have acknowledged : (cutBytes (unread parted)).ended =
      [⟨[0x6e, 0x6f], 0x0d, by decide, rfl⟩] ++ ⟨[0x41, 0x63, 0x6b], 0x0d, by decide, rfl⟩ ::
        [⟨[], 0x0a, nofun, rfl⟩] := rfl
  have stopped := stops _ _ _ acknowledged (by decide +kernel) (by decide +kernel) []
  exact ⟨undisturbed_parted, stopped⟩

end Reclaim.Wire
