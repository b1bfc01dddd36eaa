import Reclaim.Text.Digits
import Reclaim.Wire.Handshake

/-!
# Connecting to a watchdog

An address is a host and a port with a colon between them; the last colon
counts.  What the host stands for is for a network to say, which is only asked
about hosts without zero characters.

A network finds the places that a host stands for and opens streams to them.
They are tried in turn until one opens; when none does, the last fault is
reported.  An attempt that is not decided at once is waited for, and so is the
acknowledgment; neither wait may have the length zero.
-/

set_option autoImplicit false

namespace Reclaim.Wire

/-! ## Addresses -/

structure Address where
  host : String
  port : Nat
  deriving DecidableEq, Repr

def splitLast (test : Char → Bool) : List Char → Option (List Char × List Char)
  | [] => none
  | c :: rest =>
    match splitLast test rest with
    | some (before, after) => some (c :: before, after)
    | none => if test c then some ([], rest) else none

def Address.read (text : String) : Except StreamFault Address :=
  match splitLast (· == ':') text.toList with
  | none => .error ⟨false, "invalid socket address"⟩
  | some (host, port) =>
    match Text.readNumeral 65536 port with
    | .error _ => .error ⟨false, "invalid port value"⟩
    | .ok port =>
      if '\x00' ∈ host then .error ⟨false, "file name contained an unexpected NUL byte"⟩
      else .ok ⟨String.ofList host, port⟩

/-! ## Networks -/

inductive Attempt where
  | failed (fault : StreamFault)
  | opened (stream : Stream)
  /-- It is decided in the time that one is ready to wait. -/
  | decidedLater (outcome : Except StreamFault Stream)

structure Network where
  places : Address → Except StreamFault (List String)
  connect : String → Attempt

/-- A network that knows no host by name and on which no place can be reached. -/
def Network.unreachable : Network where
  places address := .ok [address.host ++ ":" ++ toString address.port]
  connect _ := .failed ⟨false, "Network is unreachable (os error 101)"⟩

structure Patience where
  connect : Nat
  acknowledgment : Nat
  deriving DecidableEq, Repr

def zeroPatience : StreamFault := ⟨false, "cannot set a 0 duration timeout"⟩

def Attempt.outcome (attempt : Attempt) (patience : Nat) : Except StreamFault Stream :=
  match attempt with
  | .failed fault => .error fault
  | .opened stream => .ok stream
  | .decidedLater outcome => if patience = 0 then .error zeroPatience else outcome

/-- Tries places in turn; `last` is the fault of those tried before. -/
def tryPlaces (network : Network) (patience : Nat) (last : Option StreamFault) :
    List String → Except (Option StreamFault) (String × Stream)
  | [] => .error last
  | place :: rest =>
    match (network.connect place).outcome patience with
    | .ok stream => .ok (place, stream)
    | .error fault => tryPlaces network patience (some fault) rest

def dial (network : Network) (patience : Patience) (address : String) :
    Except Fault (String × Stream) :=
  match Address.read address >>= network.places with
  | .error fault => .error (.stream fault)
  | .ok places =>
    match tryPlaces network patience.connect none places with
    | .error none => .error (.unresolved address)
    | .error (some fault) => .error (.unreachable address fault)
    | .ok opened =>
      if patience.acknowledgment = 0 then .error (.stream zeroPatience) else .ok opened

end Reclaim.Wire
