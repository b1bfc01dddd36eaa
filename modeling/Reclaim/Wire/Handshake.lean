import Reclaim.Journal
import Reclaim.Selector
import Reclaim.Text.Utf8
import Reclaim.Wire.Stream

/-!
# The handshake with a watchdog

A watchdog is told what to watch by one line, the form of a selector, and
answers with the line `ACK`, in upper or lower case, once it has taken over.
Other lines are passed over.  When the stream ends first, nobody has taken
over, which is no failure.

The form of a selector is `key=value` pairs joined by `&`.  In keys and values
the letters, the digits and `*`, `-`, `.`, `_` stand for themselves, a space is
written `+`, and every other byte as `%` and two upper-case hexadecimal digits,
so neither separator nor a line ending occurs in them.
-/

set_option autoImplicit false

namespace Reclaim.Wire

/-! ## Selectors as forms -/

namespace Form

def isPlain (b : UInt8) : Bool :=
  (0x30 ≤ b && b ≤ 0x39) || (0x41 ≤ b && b ≤ 0x5a) || (0x61 ≤ b && b ≤ 0x7a) ||
    b == 0x2a || b == 0x2d || b == 0x2e || b == 0x5f

def hexDigit (value : UInt8) : UInt8 := if value < 10 then 0x30 + value else 0x37 + value

def encodeByte (b : UInt8) : List UInt8 :=
  if isPlain b then [b]
  else if b = 0x20 then [0x2b]
  else [0x25, hexDigit (b / 16), hexDigit (b % 16)]

def encode (text : String) : List UInt8 := (Text.Utf8.encode text).flatMap encodeByte

def encodeClause (clause : Clause) : List UInt8 :=
  encode clause.key ++ 0x3d :: encode clause.value

def query (selector : Selector) : List UInt8 :=
  List.intercalate [0x26] (selector.clauses.map encodeClause)

/-- The form of a selector as a text; all its bytes are ASCII. -/
def queryText (selector : Selector) : String :=
  String.ofList ((query selector).map fun b => Char.ofNat b.toNat)

end Form

/-! ## Registration -/

inductive Fault where
  | stream (fault : StreamFault)
  | unreachable (address : String) (fault : StreamFault)
  | unresolved (address : String)
  deriving DecidableEq, Repr

def Fault.message : Fault → String
  | .stream fault => "IO error: " ++ fault.message
  | .unreachable address fault =>
    "failed to connect to watchdog at " ++ address ++ ": " ++ fault.message
  | .unresolved address =>
    "watchdog address `" ++ address ++ "` did not resolve to any socket address"

def Fault.cause? : Fault → Option String
  | .stream fault | .unreachable _ fault => some fault.message
  | .unresolved _ => none

def acknowledgment : String := "ACK"

def upperByte (b : UInt8) : UInt8 := if 0x61 ≤ b && b ≤ 0x7a then b - 0x20 else b

def isAcknowledgment (line : List UInt8) : Bool :=
  line.map upperByte == Text.Utf8.encode acknowledgment

/-- How waiting for the acknowledgment went: whether it came, what is still to arrive, and what
was reported. -/
structure Wait where
  answer : Except StreamFault Bool
  left : List Arrival
  events : List Journal.Event

def awaitAcknowledgment (arrivals : List Arrival) : Wait :=
  match _found : readLine [] arrivals with
  | .ended => ⟨.ok false, [], [.streamEnded]⟩
  | .failed fault left => ⟨.error fault, left, []⟩
  | .line bytes left =>
    if isAcknowledgment bytes then ⟨.ok true, left, []⟩
    else
      let wait := awaitAcknowledgment left
      { wait with events := .lineIgnored (Text.Utf8.lenient bytes) :: wait.events }
termination_by backlog arrivals
decreasing_by exact backlog_lt_of_line _found

theorem awaitAcknowledgment_of_ended {arrivals : List Arrival}
    (ended : readLine [] arrivals = .ended) :
    awaitAcknowledgment arrivals = ⟨.ok false, [], [.streamEnded]⟩ := by
  rw [awaitAcknowledgment]
  split <;> simp_all

theorem awaitAcknowledgment_of_failed {arrivals left : List Arrival} {fault : StreamFault}
    (failed : readLine [] arrivals = .failed fault left) :
    awaitAcknowledgment arrivals = ⟨.error fault, left, []⟩ := by
  rw [awaitAcknowledgment]
  split <;> simp_all

theorem awaitAcknowledgment_of_line {arrivals left : List Arrival} {bytes : List UInt8}
    (line : readLine [] arrivals = .line bytes left) :
    awaitAcknowledgment arrivals =
      if isAcknowledgment bytes then ⟨.ok true, left, []⟩
      else
        { awaitAcknowledgment left with
          events :=
            .lineIgnored (Text.Utf8.lenient bytes) :: (awaitAcknowledgment left).events } := by
  rw [awaitAcknowledgment]
  split <;> simp_all

/-- How a registration went: whether the watchdog has taken over, the stream afterwards, and what
was reported. -/
structure Registration where
  answer : Except Fault Bool
  stream : Stream
  events : List Journal.Event

def Registration.acknowledged (registration : Registration) : Bool :=
  match registration.answer with
  | .ok acknowledged => acknowledged
  | .error _ => false

def sendQuery (selector : Selector) (stream : Stream) : Except StreamFault Unit × Stream :=
  match stream.write (Form.query selector) with
  | (.error fault, stream) => (.error fault, stream)
  | (.ok (), stream) =>
    match stream.write [0x0a] with
    | (.error fault, stream) => (.error fault, stream)
    | (.ok (), stream) => stream.flush

/-- Tells a watchdog what to watch and waits for its acknowledgment. -/
def register (selector : Selector) (stream : Stream) : Registration :=
  let sent : Journal.Event := .sendingQuery (Form.queryText selector)
  match sendQuery selector stream with
  | (.error fault, stream) => ⟨.error (.stream fault), stream, [sent]⟩
  | (.ok (), stream) =>
    let wait := awaitAcknowledgment stream.arrivals
    ⟨wait.answer.mapError .stream, { stream with arrivals := wait.left }, sent :: wait.events⟩

end Reclaim.Wire
