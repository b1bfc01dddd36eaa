import Reclaim.Proofs.Delivery

/-!
# How sending a line ends

Bytes are written by as many attempts as it takes.  An attempt takes some of
them, or is interrupted and made again, or ends the writing with a fault; the
script of the stream tells which of these comes first (`deliver_of_whole`,
`deliver_of_short`).  A line is sent by writing its form, writing a line feed,
and flushing.  A registration that fails in one of these has written a beginning
of its line and read nothing; any other has written the whole line before it
reads (`register_writes_first`).
-/

set_option autoImplicit false

namespace Reclaim.Wire

/-! ## Attempts to write -/

namespace Acceptance

def takes : Acceptance → Nat
  | .upTo count => count
  | .fault _ => 0

/-- The fault by which an attempt ends the writing, if it ends it. -/
def stop? : Acceptance → Option StreamFault
  | .upTo count => if count = 0 then some nothingTaken else none
  | .fault cause => if cause.interrupted then none else some cause

def isInterruption : Acceptance → Bool
  | .upTo _ => false
  | .fault cause => cause.interrupted

theorem stop?_of_isInterruption {attempt : Acceptance}
    (interrupted : attempt.isInterruption = true) : attempt.stop? = none := by
  cases attempt with
  | upTo count => cases interrupted
  | fault cause => exact if_pos interrupted

theorem takes_of_isInterruption {attempt : Acceptance}
    (interrupted : attempt.isInterruption = true) : attempt.takes = 0 := by
  cases attempt with
  | upTo count => cases interrupted
  | fault cause => rfl

end Acceptance

def capacity : List Acceptance → Nat
  | [] => 0
  | attempt :: rest => attempt.takes + capacity rest

@[simp] theorem deliver_nothing (acceptances : List Acceptance) :
    deliver [] acceptances = ⟨none, [], acceptances⟩ := by
  cases acceptances with
  | nil => rfl
  | cons attempt rest => rfl

section Attempt

variable {bytes : List UInt8} {attempt : Acceptance} {rest : List Acceptance}

theorem deliver_of_ne_nil (unwritten : bytes ≠ []) :
    deliver bytes (attempt :: rest) =
      match attempt with
      | .fault fault => if fault.interrupted then deliver bytes rest else ⟨some fault, [], rest⟩
      | .upTo count =>
        if count = 0 then ⟨some nothingTaken, [], rest⟩
        else
          { deliver (bytes.drop count) rest with
            taken := bytes.take count ++ (deliver (bytes.drop count) rest).taken } :=
  if_neg (by simpa using unwritten)

theorem deliver_of_passing (unwritten : bytes ≠ []) (passes : attempt.stop? = none) :
    deliver bytes (attempt :: rest) =
      { deliver (bytes.drop attempt.takes) rest with
        taken := bytes.take attempt.takes ++ (deliver (bytes.drop attempt.takes) rest).taken } := by
  rw [deliver_of_ne_nil unwritten]
  cases attempt with
  | upTo count =>
    have positive : count ≠ 0 := by
      intro zero
      simp [Acceptance.stop?, zero] at passes
    simp [positive, Acceptance.takes]
  | fault cause =>
    have interrupted : cause.interrupted = true := by simpa [Acceptance.stop?] using passes
    simp [interrupted, Acceptance.takes]

theorem deliver_of_failing (unwritten : bytes ≠ []) {fault : StreamFault}
    (stops : attempt.stop? = some fault) :
    deliver bytes (attempt :: rest) = ⟨some fault, [], rest⟩ := by
  rw [deliver_of_ne_nil unwritten]
  cases attempt with
  | upTo count =>
    obtain ⟨zero, rfl⟩ : count = 0 ∧ nothingTaken = fault := by
      simpa [Acceptance.stop?] using stops
    simp [zero]
  | fault cause =>
    obtain ⟨final, rfl⟩ : cause.interrupted = false ∧ cause = fault := by
      simpa [Acceptance.stop?] using stops
    simp [final]

end Attempt

/-! ## Writing all or not -/

/-- Some attempts take all of some bytes, none of them too many, and `left` are not made.  Where the
script ends, all that is left is taken. -/
inductive WritesWhole (bytes : List UInt8) : List Acceptance → List Acceptance → Prop where
  | made {attempts left : List Acceptance}
      (pass : ∀ attempt ∈ attempts, attempt.stop? = none)
      (enough : bytes.length ≤ capacity attempts ∨ left = [])
      (needed : ∀ fewer last, attempts = fewer ++ [last] → capacity fewer < bytes.length) :
      WritesWhole bytes (attempts ++ left) left

/-- Some attempts take a part of some bytes, and the next one ends the writing with a fault. -/
inductive StopsShort (bytes : List UInt8) :
    List Acceptance → List UInt8 → StreamFault → List Acceptance → Prop where
  | made {attempts left : List Acceptance} {last : Acceptance} {fault : StreamFault}
      (pass : ∀ attempt ∈ attempts, attempt.stop? = none)
      (short : capacity attempts < bytes.length)
      (stops : last.stop? = some fault) :
      StopsShort bytes (attempts ++ last :: left) (bytes.take (capacity attempts)) fault left

section Endings

variable {bytes taken : List UInt8} {acceptances left : List Acceptance} {fault : StreamFault}

theorem deliver_of_whole (whole : WritesWhole bytes acceptances left) :
    deliver bytes acceptances = ⟨none, bytes, left⟩ := by
  obtain ⟨pass, enough, needed⟩ := whole
  rename_i attempts
  -- Each attempt takes its bytes off the front; the bounds for the others shrink as much.
  induction attempts generalizing bytes with
  | nil =>
    rcases enough with nothing | rfl
    · have empty : bytes = [] := List.length_eq_zero_iff.mp (Nat.le_zero.mp nothing)
      simp [empty]
    · rfl
  | cons attempt rest ih =>
    have unwritten : bytes ≠ [] := by
      intro empty
      have bound := needed _ _ (List.dropLast_concat_getLast (List.cons_ne_nil attempt rest)).symm
      simp [empty] at bound
    have later : deliver (bytes.drop attempt.takes) (rest ++ left) =
        ⟨none, bytes.drop attempt.takes, left⟩ := by
      apply ih (fun other member => pass other (.tail _ member))
      · intro fewer last split
        have bound := needed (attempt :: fewer) last (congrArg _ split)
        simp only [capacity, List.length_drop] at bound ⊢
        omega
      · refine enough.imp_left fun enough => ?_
        simp only [capacity, List.length_drop] at enough ⊢
        omega
    rw [List.cons_append, deliver_of_passing unwritten (pass attempt (.head _)), later]
    simp

theorem deliver_of_short (short : StopsShort bytes acceptances taken fault left) :
    deliver bytes acceptances = ⟨some fault, taken, left⟩ := by
  obtain ⟨pass, short, stops⟩ := short
  rename_i attempts last
  induction attempts generalizing bytes with
  | nil =>
    have unwritten : bytes ≠ [] := List.ne_nil_of_length_pos short
    simpa [capacity] using deliver_of_failing unwritten stops
  | cons attempt rest ih =>
    have unwritten : bytes ≠ [] := List.ne_nil_of_length_pos (by omega)
    have later : deliver (bytes.drop attempt.takes) (rest ++ last :: left) =
        ⟨some fault, (bytes.drop attempt.takes).take (capacity rest), left⟩ := by
      apply ih (fun other member => pass other (.tail _ member))
      simp only [capacity, List.length_drop] at short ⊢
      omega
    rw [List.cons_append, deliver_of_passing unwritten (pass attempt (.head _)), later]
    simp [capacity, List.take_add]

theorem WritesWhole.after {attempt : Acceptance} (unwritten : bytes ≠ [])
    (passes : attempt.stop? = none)
    (whole : WritesWhole (bytes.drop attempt.takes) acceptances left) :
    WritesWhole bytes (attempt :: acceptances) left := by
  obtain ⟨pass, enough, needed⟩ := whole
  rename_i attempts
  refine @made bytes (attempt :: attempts) left (List.forall_mem_cons.mpr ⟨passes, pass⟩) ?_ ?_
  · refine enough.imp_left fun enough => ?_
    simp only [capacity, List.length_drop] at enough ⊢
    omega
  · intro fewer last split
    have positive : 0 < bytes.length := List.length_pos_iff.mpr unwritten
    cases fewer with
    | nil => exact positive
    | cons first fewer =>
      injection split with same split
      subst same
      have bound := needed fewer last split
      simp only [capacity, List.length_drop] at bound ⊢
      omega

theorem StopsShort.after {attempt : Acceptance} (passes : attempt.stop? = none)
    (short : StopsShort (bytes.drop attempt.takes) acceptances taken fault left) :
    StopsShort bytes (attempt :: acceptances) (bytes.take attempt.takes ++ taken) fault left := by
  obtain ⟨pass, short, stops⟩ := short
  rename_i attempts last
  have bound : capacity (attempt :: attempts) < bytes.length := by
    simp only [capacity, List.length_drop] at short ⊢
    omega
  have longer := @made bytes (attempt :: attempts) left last fault
    (List.forall_mem_cons.mpr ⟨passes, pass⟩) bound stops
  rwa [capacity, List.take_add] at longer

/-- However a script goes, it takes all or stops short. -/
theorem whole_or_short (bytes : List UInt8) (acceptances : List Acceptance) :
    (∃ left, WritesWhole bytes acceptances left) ∨
      ∃ taken fault left, StopsShort bytes acceptances taken fault left := by
  induction acceptances generalizing bytes with
  | nil => exact .inl ⟨[], @WritesWhole.made bytes [] [] (by simp) (.inr rfl) (by simp)⟩
  | cons attempt rest ih =>
    by_cases nothing : bytes = []
    · have enough : bytes.length ≤ capacity [] := by simp [nothing]
      exact .inl ⟨attempt :: rest,
        @WritesWhole.made bytes [] (attempt :: rest) (by simp) (.inl enough) (by simp)⟩
    cases stops : attempt.stop? with
    | some fault =>
      have unwritten : capacity [] < bytes.length := List.length_pos_iff.mpr nothing
      exact .inr ⟨_, fault, rest,
        @StopsShort.made bytes [] rest attempt fault (by simp) unwritten stops⟩
    | none =>
      rcases ih (bytes.drop attempt.takes) with ⟨left, whole⟩ | ⟨taken, fault, left, short⟩
      · exact .inl ⟨left, whole.after nothing stops⟩
      · exact .inr ⟨_, fault, left, short.after stops⟩

end Endings

/-! ## Interruptions -/

/-- Some attempts without those that are interrupted. -/
def uninterrupted (acceptances : List Acceptance) : List Acceptance :=
  acceptances.filter fun attempt => !attempt.isInterruption

/-- Interrupted attempts make no difference, neither to what is taken nor to how it ends. -/
theorem deliver_uninterrupted (bytes : List UInt8) (acceptances : List Acceptance) :
    deliver bytes (uninterrupted acceptances) =
      { deliver bytes acceptances with
        acceptances := uninterrupted (deliver bytes acceptances).acceptances } := by
  induction acceptances generalizing bytes with
  | nil => rfl
  | cons attempt rest ih =>
    by_cases nothing : bytes = []
    · simp [nothing]
    cases interrupted : attempt.isInterruption with
    | true =>
      have skipped : uninterrupted (attempt :: rest) = uninterrupted rest := by
        simp [uninterrupted, interrupted]
      rw [skipped, ih, deliver_of_passing nothing (Acceptance.stop?_of_isInterruption interrupted),
        Acceptance.takes_of_isInterruption interrupted]
      simp
    | false =>
      have kept : uninterrupted (attempt :: rest) = attempt :: uninterrupted rest := by
        simp [uninterrupted, interrupted]
      rw [kept]
      cases stops : attempt.stop? with
      | some fault => rw [deliver_of_failing nothing stops, deliver_of_failing nothing stops]
      | none => rw [deliver_of_passing nothing stops, deliver_of_passing nothing stops, ih]

namespace Stream

/-- The stream on which no write is interrupted, and which is otherwise the same. -/
def calmed (stream : Stream) : Stream :=
  { stream with acceptances := uninterrupted stream.acceptances }

theorem write_calmed (stream : Stream) (bytes : List UInt8) :
    stream.calmed.write bytes = ((stream.write bytes).1, (stream.write bytes).2.calmed) := by
  simp only [write, calmed, deliver_uninterrupted]
  cases (deliver bytes stream.acceptances).fault? <;> rfl

theorem flush_calmed (stream : Stream) :
    stream.calmed.flush = (stream.flush.1, stream.flush.2.calmed) := by
  obtain ⟨arrivals, acceptances, flushes, written⟩ := stream
  cases flushes with
  | nil => rfl
  | cons next rest => cases next <;> rfl

def receiving (stream : Stream) (arrivals : List Arrival) : Stream :=
  { stream with arrivals := arrivals }

theorem write_receiving (stream : Stream) (arrivals : List Arrival) (bytes : List UInt8) :
    (stream.receiving arrivals).write bytes =
      ((stream.write bytes).1, (stream.write bytes).2.receiving arrivals) := by
  simp only [write, receiving]
  cases (deliver bytes stream.acceptances).fault? <;> rfl

theorem flush_receiving (stream : Stream) (arrivals : List Arrival) :
    (stream.receiving arrivals).flush = (stream.flush.1, stream.flush.2.receiving arrivals) := by
  obtain ⟨_, acceptances, flushes, written⟩ := stream
  cases flushes with
  | nil => rfl
  | cons next rest => cases next <;> rfl

end Stream

theorem sendQuery_of_commutes {change : Stream → Stream}
    (write : ∀ stream bytes,
      (change stream).write bytes = ((stream.write bytes).1, change (stream.write bytes).2))
    (flush : ∀ stream, (change stream).flush = (stream.flush.1, change stream.flush.2))
    (selector : Selector) (stream : Stream) :
    sendQuery selector (change stream) =
      ((sendQuery selector stream).1, change (sendQuery selector stream).2) := by
  simp only [sendQuery, write]
  rcases stream.write (Form.query selector) with ⟨fault | _, queried⟩
  · rfl
  · simp only [write]
    rcases queried.write [0x0a] with ⟨fault | _, ended⟩
    · rfl
    · exact flush ended

/-! ## Sending a line -/

/-- Sending a line fails when some of it has been written: in its form, at its end, or when it is
flushed. -/
inductive SendingFails (selector : Selector) (stream : Stream) :
    List UInt8 → StreamFault → Prop where
  | form {sent : List UInt8} {fault : StreamFault} {left : List Acceptance}
      (short : StopsShort (Form.query selector) stream.acceptances sent fault left) :
      SendingFails selector stream sent fault
  | ending {sent : List UInt8} {fault : StreamFault} {between left : List Acceptance}
      (form : WritesWhole (Form.query selector) stream.acceptances between)
      (short : StopsShort [0x0a] between sent fault left) :
      SendingFails selector stream (Form.query selector ++ sent) fault
  | flush {fault : StreamFault} {between left : List Acceptance}
      (form : WritesWhole (Form.query selector) stream.acceptances between)
      (ending : WritesWhole [0x0a] between left)
      (refused : stream.flushes.head? = some (some fault)) :
      SendingFails selector stream (Form.query selector ++ [0x0a]) fault

inductive Sends (selector : Selector) (stream : Stream) : Prop where
  | sent {between left : List Acceptance}
      (form : WritesWhole (Form.query selector) stream.acceptances between)
      (ending : WritesWhole [0x0a] between left)
      (flushed : ∀ fault, stream.flushes.head? ≠ some (some fault))

theorem sends_or_fails (selector : Selector) (stream : Stream) :
    Sends selector stream ∨ ∃ sent fault, SendingFails selector stream sent fault := by
  rcases whole_or_short (Form.query selector) stream.acceptances with
    ⟨between, form⟩ | ⟨sent, fault, left, short⟩
  · rcases whole_or_short [0x0a] between with ⟨left, ending⟩ | ⟨sent, fault, left, short⟩
    · by_cases flushed : ∀ fault, stream.flushes.head? ≠ some (some fault)
      · exact .inl (.sent form ending flushed)
      · obtain ⟨fault, refused⟩ := Classical.not_forall.mp flushed
        exact .inr ⟨_, fault, .flush form ending (Classical.not_not.mp refused)⟩
    · exact .inr ⟨_, fault, .ending form short⟩
  · exact .inr ⟨sent, fault, .form short⟩

namespace Stream

variable {stream : Stream} {bytes taken : List UInt8} {left : List Acceptance}
  {fault : StreamFault}

theorem write_of_whole (whole : WritesWhole bytes stream.acceptances left) :
    stream.write bytes =
      (.ok (), { stream with acceptances := left, written := stream.written ++ bytes }) := by
  simp only [write, deliver_of_whole whole]

theorem write_of_short (short : StopsShort bytes stream.acceptances taken fault left) :
    stream.write bytes =
      (.error fault, { stream with acceptances := left, written := stream.written ++ taken }) := by
  simp only [write, deliver_of_short short]

end Stream

theorem sendQuery_of_fails {selector : Selector} {stream : Stream} {sent : List UInt8}
    {fault : StreamFault} (fails : SendingFails selector stream sent fault) :
    ∃ after, sendQuery selector stream = (.error fault, after) ∧
      after.written = stream.written ++ sent := by
  cases fails with
  | form short => exact ⟨_, by rw [sendQuery, Stream.write_of_short short], rfl⟩
  | @ending sent _ between left form short =>
    refine ⟨{ stream with
      acceptances := left
      written := stream.written ++ Form.query selector ++ sent }, ?_, List.append_assoc ..⟩
    rw [sendQuery, Stream.write_of_whole form]
    dsimp only
    rw [Stream.write_of_short short]
  | @flush _ between left form ending refused =>
    obtain ⟨later, flushes⟩ : ∃ later, stream.flushes = some fault :: later :=
      List.head?_eq_some_iff.mp refused
    refine ⟨{ stream with
      acceptances := left
      flushes := later
      written := stream.written ++ Form.query selector ++ [0x0a] }, ?_, List.append_assoc ..⟩
    rw [sendQuery, Stream.write_of_whole form]
    dsimp only
    rw [Stream.write_of_whole ending]
    simp only [Stream.flush, flushes]

theorem sendQuery_of_sends {selector : Selector} {stream : Stream} (sends : Sends selector stream) :
    ∃ after, sendQuery selector stream = (.ok (), after) := by
  obtain ⟨form, ending, flushed⟩ := sends
  rw [sendQuery, Stream.write_of_whole form]
  dsimp only
  rw [Stream.write_of_whole ending]
  simp only [Stream.flush]
  split
  next => exact ⟨_, rfl⟩
  next => exact ⟨_, rfl⟩
  next fault later refused => exact absurd (by rw [refused]; rfl) (flushed fault)

section Registration

variable {selector : Selector} {stream : Stream}

theorem register_of_fails {sent : List UInt8} {fault : StreamFault}
    (fails : SendingFails selector stream sent fault) :
    (register selector stream).answer = .error (.stream fault) ∧
      (register selector stream).stream.written = stream.written ++ sent ∧
      (register selector stream).stream.arrivals = stream.arrivals := by
  obtain ⟨after, broken, written⟩ := sendQuery_of_fails fails
  have unread := arrivals_sendQuery selector stream
  rw [broken] at unread
  rw [register, broken]
  exact ⟨rfl, written, unread⟩

theorem register_of_sends (sends : Sends selector stream) :
    (register selector stream).answer =
        (awaitAcknowledgment stream.arrivals).answer.mapError .stream ∧
      (register selector stream).stream.written =
        stream.written ++ (Form.query selector ++ [0x0a]) ∧
      (register selector stream).stream.arrivals =
        (awaitAcknowledgment stream.arrivals).left := by
  obtain ⟨after, sent⟩ := sendQuery_of_sends sends
  have whole := written_sendQuery sent
  rw [register_of_sent sent]
  exact ⟨rfl, whole, rfl⟩

theorem written_of_read
    (read : (register selector stream).stream.arrivals ≠ stream.arrivals) :
    (register selector stream).stream.written =
      stream.written ++ (Form.query selector ++ [0x0a]) := by
  rcases sends_or_fails selector stream with sends | ⟨sent, fault, fails⟩
  · exact (register_of_sends sends).2.1
  · exact absurd (register_of_fails fails).2.2 read

theorem written_receiving (arrivals : List Arrival) :
    (register selector (stream.receiving arrivals)).stream.written =
      (register selector stream).stream.written := by
  have commutes := @sendQuery_of_commutes (·.receiving arrivals)
    (·.write_receiving arrivals) (·.flush_receiving arrivals) selector stream
  rw [written_register, written_register, commutes]
  rfl

theorem register_calmed (selector : Selector) (stream : Stream) :
    register selector stream.calmed =
      { register selector stream with stream := (register selector stream).stream.calmed } := by
  have commutes := sendQuery_of_commutes Stream.write_calmed Stream.flush_calmed selector stream
  rw [register, register, commutes]
  rcases sendQuery selector stream with ⟨fault | _, after⟩ <;> rfl

end Registration

/-- Whatever the scripts of its writer, its flushes and its reader, a registration writes a
beginning of one line, and the whole of it before it reads anything.  If sending the line fails,
the answer is the fault of the write or flush that failed, and nothing has been read; otherwise the
answer is what reading brings.  What arrives has no influence on what is written, and interrupted
writes have none on anything. -/
theorem register_writes_first (selector : Selector) (stream : Stream) :
    let line := Form.query selector ++ [0x0a]
    let done := register selector stream
    (∃ sent, sent <+: line ∧ done.stream.written = stream.written ++ sent) ∧
    (Sends selector stream ∨ ∃ sent fault, SendingFails selector stream sent fault) ∧
    (∀ sent fault, SendingFails selector stream sent fault →
      done.answer = .error (.stream fault) ∧ done.stream.written = stream.written ++ sent ∧
        done.stream.arrivals = stream.arrivals) ∧
    (Sends selector stream →
      done.answer = (awaitAcknowledgment stream.arrivals).answer.mapError .stream ∧
        done.stream.written = stream.written ++ line ∧
        done.stream.arrivals = (awaitAcknowledgment stream.arrivals).left) ∧
    (done.stream.arrivals ≠ stream.arrivals → done.stream.written = stream.written ++ line) ∧
    (∀ arrivals, (register selector (stream.receiving arrivals)).stream.written =
      done.stream.written) ∧
    register selector stream.calmed = { done with stream := done.stream.calmed } := by
  intro line done
  obtain ⟨sent, appended, begins⟩ := sendQuery_appends selector stream
  refine ⟨⟨sent, begins, (written_register selector stream).trans appended⟩,
    sends_or_fails selector stream, ?_, register_of_sends, written_of_read, written_receiving,
    register_calmed selector stream⟩
  intro sent fault fails
  exact register_of_fails fails

/-- A stream that takes three bytes, is interrupted, and then takes nothing, while an
acknowledgment has arrived already. -/
def faltering : Stream :=
  ⟨[.chunk [0x41, 0x43, 0x4b, 0x0a]], [.upTo 3, .fault ⟨true, "again"⟩, .upTo 0], [], []⟩

def unflushed : Stream :=
  ⟨[.chunk [0x41, 0x43, 0x4b, 0x0a]], [.fault ⟨true, "again"⟩, .upTo 1], [some ⟨true, "late"⟩], []⟩

/-- The acknowledgment is not read on either stream: one takes only a beginning of the line, and on
the other the line is the line feed of an empty form, which is not flushed. -/
theorem register_writes_first_faltering :
    (register ⟨[⟨labelKey, "a=1", labelKey_ne_empty⟩]⟩ faltering).answer =
        .error (.stream nothingTaken) ∧
      (register ⟨[⟨labelKey, "a=1", labelKey_ne_empty⟩]⟩ faltering).stream.written =
        [0x6c, 0x61, 0x62] ∧
      (register ⟨[⟨labelKey, "a=1", labelKey_ne_empty⟩]⟩ faltering).stream.arrivals =
        faltering.arrivals ∧
      (register .empty unflushed).answer = .error (.stream ⟨true, "late"⟩) ∧
      (register .empty unflushed).stream.written = [0x0a] ∧
      (register .empty unflushed).stream.arrivals = unflushed.arrivals := by
  have short : SendingFails ⟨[⟨labelKey, "a=1", labelKey_ne_empty⟩]⟩ faltering
      [0x6c, 0x61, 0x62] nothingTaken :=
    .form (@StopsShort.made _ [.upTo 3, .fault ⟨true, "again"⟩] [] (.upTo 0) _
      (by decide) (by decide +kernel) rfl)
  have empty : WritesWhole (Form.query .empty) unflushed.acceptances unflushed.acceptances :=
    @WritesWhole.made _ [] _ (by simp) (.inl (by decide)) (by simp)
  have ending : WritesWhole [0x0a] unflushed.acceptances [] := by
    refine @WritesWhole.made _ unflushed.acceptances [] (by decide) (.inr rfl) ?_
    intro fewer last split
    have same : fewer = unflushed.acceptances.dropLast := by simp [split]
    rw [same]
    decide
  obtain ⟨-, -, first, -⟩ :=
    register_writes_first ⟨[⟨labelKey, "a=1", labelKey_ne_empty⟩]⟩ faltering
  obtain ⟨-, -, second, -⟩ := register_writes_first .empty unflushed
  obtain ⟨answer, written, unread⟩ := first _ _ short
  exact ⟨answer, written, unread, second _ _ (.flush empty ending rfl)⟩

end Reclaim.Wire
