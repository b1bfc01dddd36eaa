/-!
# Byte streams with a script

A stream to another process, as far as this side can tell it from the way its
reads and writes go: the chunks that arrive, how much each write takes, how
each flush ends, and the faults in between.  Whatever is not scripted goes
well: a stream ends after the last chunk, and writes take all they are given.
-/

set_option autoImplicit false

namespace Reclaim.Wire

/-- A failed read, write or flush.  An interrupted read or write is tried again. -/
structure StreamFault where
  interrupted : Bool
  message : String
  deriving DecidableEq, Repr

inductive Arrival where
  | chunk (bytes : List UInt8)
  | fault (fault : StreamFault)
  deriving DecidableEq, Repr

inductive Acceptance where
  | upTo (count : Nat)
  | fault (fault : StreamFault)
  deriving DecidableEq, Repr

/-- An open stream: what is still to arrive, how writes and flushes will go, and what has been
written so far. -/
structure Stream where
  arrivals : List Arrival
  acceptances : List Acceptance
  flushes : List (Option StreamFault)
  written : List UInt8
  deriving DecidableEq, Repr

def nothingTaken : StreamFault := ⟨false, "failed to write whole buffer"⟩

/-! ## Writing -/

/-- How writing all of some bytes went: the fault that ended it, the bytes that were taken, and
the acceptances left. -/
structure Delivery where
  fault? : Option StreamFault
  taken : List UInt8
  acceptances : List Acceptance
  deriving DecidableEq, Repr

def deliver (bytes : List UInt8) : List Acceptance → Delivery
  | [] => ⟨none, bytes, []⟩
  | acceptance :: rest =>
    if bytes.isEmpty then ⟨none, [], acceptance :: rest⟩
    else
      match acceptance with
      | .fault fault => if fault.interrupted then deliver bytes rest else ⟨some fault, [], rest⟩
      | .upTo count =>
        if count = 0 then ⟨some nothingTaken, [], rest⟩
        else
          let delivery := deliver (bytes.drop count) rest
          { delivery with taken := bytes.take count ++ delivery.taken }

def Stream.write (stream : Stream) (bytes : List UInt8) : Except StreamFault Unit × Stream :=
  let delivery := deliver bytes stream.acceptances
  let after := { stream with
    acceptances := delivery.acceptances, written := stream.written ++ delivery.taken }
  match delivery.fault? with
  | some fault => (.error fault, after)
  | none => (.ok (), after)

def Stream.flush (stream : Stream) : Except StreamFault Unit × Stream :=
  match stream.flushes with
  | [] => (.ok (), stream)
  | none :: rest => (.ok (), { stream with flushes := rest })
  | some fault :: rest => (.error fault, { stream with flushes := rest })

/-! ## Reading lines -/

/-- Whether a byte ends a line.  A carriage return does, so the line feed after one ends an empty
line of its own. -/
def endsLine (b : UInt8) : Bool := b == 0x0a || b == 0x0d

def cutLine : List UInt8 → Option (List UInt8 × List UInt8)
  | [] => none
  | b :: rest =>
    if endsLine b then some ([], rest)
    else (cutLine rest).map fun cut => (b :: cut.1, cut.2)

inductive LineRead where
  | line (bytes : List UInt8) (left : List Arrival)
  | ended
  | failed (fault : StreamFault) (left : List Arrival)
  deriving DecidableEq, Repr

/-- Reads a line of which `read` has been read.  A fault loses what has been read of the line. -/
def readLine (read : List UInt8) : List Arrival → LineRead
  | [] => if read.isEmpty then .ended else .line read []
  | .fault fault :: rest =>
    if fault.interrupted then readLine read rest else .failed fault rest
  | .chunk bytes :: rest =>
    match cutLine bytes with
    | some (before, after) => .line (read ++ before) (.chunk after :: rest)
    | none => readLine (read ++ bytes) rest

def unread : List Arrival → List UInt8
  | [] => []
  | .chunk bytes :: rest => bytes ++ unread rest
  | .fault _ :: rest => unread rest

/-- How much there is still to read: a unit for each arrival and one for each byte. -/
def backlog : List Arrival → Nat
  | [] => 0
  | .chunk bytes :: rest => bytes.length + 1 + backlog rest
  | .fault _ :: rest => 1 + backlog rest

theorem length_of_cutLine {bytes before after : List UInt8}
    (cut : cutLine bytes = some (before, after)) :
    before.length + after.length + 1 = bytes.length := by
  induction bytes generalizing before after with
  | nil => simp [cutLine] at cut
  | cons b rest ih =>
    unfold cutLine at cut
    split at cut
    · cases cut
      simp
    · obtain ⟨inner, found, same⟩ := Option.map_eq_some_iff.mp cut
      obtain ⟨first, second⟩ := inner
      cases same
      have shorter := ih found
      simp only [List.length_cons]
      omega

theorem backlog_le_of_line {read bytes : List UInt8} {arrivals left : List Arrival}
    (line : readLine read arrivals = .line bytes left) :
    backlog left < backlog arrivals ∨ left = [] := by
  induction arrivals generalizing read with
  | nil =>
    simp only [readLine] at line
    split at line
    · cases line
    · cases line
      exact Or.inr rfl
  | cons arrival rest ih =>
    cases arrival with
    | fault fault =>
      simp only [readLine] at line
      split at line
      · rcases ih line with less | ended
        · exact Or.inl (by simp only [backlog]; omega)
        · exact Or.inr ended
      · cases line
    | chunk chunk =>
      simp only [readLine] at line
      split at line
      next before after found =>
        cases line
        have shorter := length_of_cutLine found
        exact Or.inl (by simp only [backlog]; omega)
      next _ =>
        rcases ih line with less | ended
        · exact Or.inl (by simp only [backlog]; omega)
        · exact Or.inr ended

theorem backlog_lt_of_line {bytes : List UInt8} {arrivals left : List Arrival}
    (line : readLine [] arrivals = .line bytes left) : backlog left < backlog arrivals := by
  rcases backlog_le_of_line line with less | ended
  · exact less
  · subst ended
    cases arrivals with
    | nil => simp [readLine] at line
    | cons arrival rest => cases arrival <;> simp only [backlog] <;> omega

end Reclaim.Wire
