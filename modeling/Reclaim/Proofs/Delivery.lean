import Reclaim.Wire.Handshake

/-!
# What a registration writes

Whatever becomes of a registration, it writes a beginning of its line.  Bytes
that are written without a fault are all taken, however many writes it needs,
so a watchdog that acknowledges has been sent the whole line.  A reliable
stream takes every line.
-/

set_option autoImplicit false

namespace Reclaim.Wire

theorem taken_of_deliver {bytes : List UInt8} {acceptances : List Acceptance}
    (whole : (deliver bytes acceptances).fault? = none) :
    (deliver bytes acceptances).taken = bytes := by
  induction acceptances generalizing bytes with
  | nil => rfl
  | cons acceptance rest ih =>
    unfold deliver at whole ⊢
    split
    next nothing => rw [List.isEmpty_iff.mp nothing]
    next something =>
      rw [if_neg something] at whole
      cases acceptance with
      | fault fault =>
        dsimp only at whole ⊢
        split at whole
        next again =>
          rw [if_pos again]
          exact ih whole
        next final => cases whole
      | upTo count =>
        dsimp only at whole ⊢
        split at whole
        next zero => cases whole
        next positive =>
          rw [if_neg positive]
          have later := ih whole
          rw [later]
          exact List.take_append_drop count bytes

/-- However the writes go, what is taken of some bytes is a beginning of them. -/
theorem taken_prefix (bytes : List UInt8) (acceptances : List Acceptance) :
    (deliver bytes acceptances).taken <+: bytes := by
  induction acceptances generalizing bytes with
  | nil => exact List.prefix_refl bytes
  | cons acceptance rest ih =>
    unfold deliver
    by_cases nothing : bytes.isEmpty = true
    · rw [if_pos nothing]
      exact List.nil_prefix
    · rw [if_neg nothing]
      cases acceptance with
      | fault fault =>
        dsimp only
        split
        · exact ih bytes
        · exact List.nil_prefix
      | upTo count =>
        dsimp only
        split
        · exact List.nil_prefix
        · obtain ⟨untaken, whole⟩ := ih (bytes.drop count)
          refine ⟨untaken, ?_⟩
          rw [List.append_assoc, whole]
          exact List.take_append_drop count bytes

theorem Stream.written_write {stream after : Stream} {bytes : List UInt8}
    (written : stream.write bytes = (.ok (), after)) : after.written = stream.written ++ bytes := by
  unfold Stream.write at written
  dsimp only at written
  split at written
  next fault found => cases written
  next whole =>
    cases written
    rw [taken_of_deliver whole]

theorem Stream.write_appends (stream : Stream) (bytes : List UInt8) :
    ∃ sent, (stream.write bytes).2.written = stream.written ++ sent ∧ sent <+: bytes := by
  refine ⟨(deliver bytes stream.acceptances).taken, ?_, taken_prefix bytes _⟩
  unfold Stream.write
  dsimp only
  split <;> rfl

theorem Stream.arrivals_write (stream : Stream) (bytes : List UInt8) :
    (stream.write bytes).2.arrivals = stream.arrivals := by
  unfold Stream.write
  dsimp only
  split <;> rfl

theorem Stream.flush_keeps (stream : Stream) :
    stream.flush.2.written = stream.written ∧ stream.flush.2.arrivals = stream.arrivals := by
  unfold Stream.flush
  split <;> exact ⟨rfl, rfl⟩

theorem written_sendQuery {selector : Selector} {stream after : Stream}
    (sent : sendQuery selector stream = (.ok (), after)) :
    after.written = stream.written ++ (Form.query selector ++ [0x0a]) := by
  unfold sendQuery at sent
  split at sent
  next => cases sent
  next queried query =>
    split at sent
    next => cases sent
    next ended ending =>
      have flushed := ended.flush_keeps.1
      rw [sent, Stream.written_write ending, Stream.written_write query] at flushed
      rw [flushed, List.append_assoc]

/-- Whatever comes of it, sending a line writes a beginning of the line. -/
theorem sendQuery_appends (selector : Selector) (stream : Stream) :
    ∃ sent, (sendQuery selector stream).2.written = stream.written ++ sent ∧
      sent <+: Form.query selector ++ [0x0a] := by
  obtain ⟨sent, appended, begins⟩ := stream.write_appends (Form.query selector)
  unfold sendQuery
  cases first : stream.write (Form.query selector) with
  | mk outcome queried =>
    rw [first] at appended
    cases outcome with
    | error fault => exact ⟨sent, appended, begins.trans (List.prefix_append _ _)⟩
    | ok value =>
      have whole := Stream.written_write first
      obtain ⟨ending, endAppended, endBegins⟩ := queried.write_appends [0x0a]
      dsimp only
      cases second : queried.write [0x0a] with
      | mk outcome ended =>
        rw [second] at endAppended
        have both : ended.written = stream.written ++ (Form.query selector ++ ending) := by
          rw [← List.append_assoc, ← whole]
          exact endAppended
        refine ⟨Form.query selector ++ ending, ?_, (List.prefix_append_right_inj _).mpr endBegins⟩
        cases outcome with
        | error fault => exact both
        | ok value => exact ended.flush_keeps.1.trans both

theorem arrivals_sendQuery (selector : Selector) (stream : Stream) :
    (sendQuery selector stream).2.arrivals = stream.arrivals := by
  have query := stream.arrivals_write (Form.query selector)
  unfold sendQuery
  split
  next fault failed first => rwa [first] at query
  next queried first =>
    rw [first] at query
    have ending := queried.arrivals_write [0x0a]
    split
    next fault failed second =>
      rw [second] at ending
      exact ending.trans query
    next ended second =>
      rw [second] at ending
      exact ended.flush_keeps.2.trans (ending.trans query)

theorem register_of_sent {selector : Selector} {stream after : Stream}
    (sent : sendQuery selector stream = (.ok (), after)) :
    register selector stream =
      ⟨(awaitAcknowledgment stream.arrivals).answer.mapError .stream,
        { after with arrivals := (awaitAcknowledgment stream.arrivals).left },
        .sendingQuery (Form.queryText selector) ::
          (awaitAcknowledgment stream.arrivals).events⟩ := by
  have unread := arrivals_sendQuery selector stream
  rw [sent] at unread
  rw [register, sent]
  dsimp only at unread ⊢
  rw [unread]

theorem written_register (selector : Selector) (stream : Stream) :
    (register selector stream).stream.written = (sendQuery selector stream).2.written := by
  rw [register]
  cases sendQuery selector stream with
  | mk outcome after => cases outcome <;> rfl

/-- When a registration gets as far as an answer from the watchdog, all of its line is written. -/
theorem written_of_register {selector : Selector} {stream : Stream} {acknowledged : Bool}
    (answered : (register selector stream).answer = .ok acknowledged) :
    (register selector stream).stream.written =
      stream.written ++ (Form.query selector ++ [0x0a]) := by
  cases sent : sendQuery selector stream with
  | mk outcome after =>
    cases outcome with
    | error fault =>
      rw [register, sent] at answered
      cases answered
    | ok value =>
      have whole := written_sendQuery sent
      rw [register_of_sent sent]
      exact whole

/-! ## Reliable streams -/

def Acceptance.Passes : Acceptance → Prop
  | .upTo count => count ≠ 0
  | .fault cause => cause.interrupted = true

/-- A stream on which no write and no flush ever fails for good; writes may still be short or
interrupted, and reads may do as they like. -/
structure Stream.Reliable (stream : Stream) : Prop where
  acceptances : ∀ acceptance ∈ stream.acceptances, acceptance.Passes
  flushes : ∀ flush ∈ stream.flushes, flush = none

theorem deliver_of_passes {acceptances : List Acceptance}
    (passes : ∀ acceptance ∈ acceptances, acceptance.Passes) (bytes : List UInt8) :
    (deliver bytes acceptances).fault? = none ∧
      ∀ acceptance ∈ (deliver bytes acceptances).acceptances, acceptance.Passes := by
  induction acceptances generalizing bytes with
  | nil => exact ⟨rfl, passes⟩
  | cons acceptance rest ih =>
    have later : ∀ acceptance ∈ rest, acceptance.Passes := fun other member =>
      passes other (List.mem_cons_of_mem _ member)
    have first := passes acceptance List.mem_cons_self
    unfold deliver
    by_cases nothing : bytes.isEmpty = true
    · rw [if_pos nothing]
      exact ⟨rfl, passes⟩
    · rw [if_neg nothing]
      cases acceptance with
      | fault cause =>
        have interrupted : cause.interrupted = true := first
        dsimp only
        rw [if_pos interrupted]
        exact ih later bytes
      | upTo count =>
        have positive : count ≠ 0 := first
        dsimp only
        rw [if_neg positive]
        exact ih later (bytes.drop count)

namespace Stream.Reliable

variable {stream : Stream}

theorem write (reliable : stream.Reliable) (bytes : List UInt8) :
    ∃ after, stream.write bytes = (.ok (), after) ∧ after.Reliable := by
  obtain ⟨unfailing, passes⟩ := deliver_of_passes reliable.acceptances bytes
  refine ⟨{ stream with
    acceptances := (deliver bytes stream.acceptances).acceptances
    written := stream.written ++ (deliver bytes stream.acceptances).taken }, ?_, passes,
    reliable.flushes⟩
  unfold Stream.write
  dsimp only
  rw [unfailing]

theorem flush (reliable : stream.Reliable) :
    ∃ after, stream.flush = (.ok (), after) ∧ after.Reliable := by
  obtain ⟨arrivals, acceptances, flushes, written⟩ := stream
  cases flushes with
  | nil => exact ⟨_, rfl, reliable⟩
  | cons next rest =>
    have calm : next = none := reliable.flushes next List.mem_cons_self
    subst calm
    refine ⟨⟨arrivals, acceptances, rest, written⟩, rfl, reliable.acceptances, ?_⟩
    intro flush member
    exact reliable.flushes flush (List.mem_cons_of_mem _ member)

theorem sendQuery (reliable : stream.Reliable) (selector : Selector) :
    ∃ after, sendQuery selector stream = (.ok (), after) ∧ after.Reliable := by
  obtain ⟨queried, first, stillReliable⟩ := reliable.write (Form.query selector)
  obtain ⟨ended, second, endedReliable⟩ := stillReliable.write [0x0a]
  obtain ⟨after, third, afterReliable⟩ := endedReliable.flush
  refine ⟨after, ?_, afterReliable⟩
  rw [Wire.sendQuery, first]
  dsimp only
  rw [second]
  exact third

/-- On a reliable stream a registration writes its line, whatever is answered, and leaves the
stream reliable. -/
theorem register (reliable : stream.Reliable) (selector : Selector) :
    (register selector stream).stream.Reliable ∧
      (Wire.register selector stream).stream.written =
        stream.written ++ (Form.query selector ++ [0x0a]) ∧
      (Wire.register selector stream).answer =
        (awaitAcknowledgment stream.arrivals).answer.mapError .stream ∧
      (Wire.register selector stream).stream.arrivals =
        (awaitAcknowledgment stream.arrivals).left := by
  obtain ⟨after, sent, afterReliable⟩ := reliable.sendQuery selector
  have whole := written_sendQuery sent
  rw [register_of_sent sent]
  exact ⟨⟨afterReliable.acceptances, afterReliable.flushes⟩, whole, rfl, rfl⟩

end Stream.Reliable

end Reclaim.Wire
