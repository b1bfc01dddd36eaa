/-!
# Exit queues

Work to be done once when a host ends.  Callbacks wait in the order in which
they were installed; firing takes all that wait and runs them, discarding takes
them and runs none.  A callback may itself install, fire and discard, to any
depth, while a firing is still going through the callbacks that it took.

The agenda of a run holds what is still to be done, innermost first.  A run
comes to an end because every step makes the agenda and the queue together
lighter.
-/

set_option autoImplicit false

namespace Reclaim

/-- Callbacks of type `κ` that wait, in the order of their installation, and the number of
installations so far. -/
structure ExitQueue (κ : Type) where
  pending : List κ
  installs : Nat
  deriving DecidableEq, Repr

namespace ExitQueue

variable {κ : Type}

def empty : ExitQueue κ := ⟨[], 0⟩

def install (queue : ExitQueue κ) (callback : κ) : ExitQueue κ :=
  ⟨queue.pending ++ [callback], queue.installs + 1⟩

def emptied (queue : ExitQueue κ) : ExitQueue κ := { queue with pending := [] }

inductive Deed where
  | fire
  | discard
  | install (words : String) (deeds : List Deed)

structure Callback where
  words : String
  deeds : List Deed

inductive Task where
  | deed (deed : Deed)
  | run (callback : Callback)

mutual

/-- The number of steps that a deed can take, with those of the callback it installs. -/
def Deed.weight : Deed → Nat
  | .fire => 1
  | .discard => 1
  | .install _ deeds => 2 + weightOfDeeds deeds

def weightOfDeeds : List Deed → Nat
  | [] => 0
  | deed :: rest => deed.weight + weightOfDeeds rest

end

def Callback.weight (callback : Callback) : Nat := 1 + weightOfDeeds callback.deeds

def Task.weight : Task → Nat
  | .deed single => single.weight
  | .run callback => callback.weight

def weightOfPending : List Callback → Nat
  | [] => 0
  | callback :: rest => callback.weight + weightOfPending rest

def weightOfAgenda : List Task → Nat
  | [] => 0
  | task :: rest => task.weight + weightOfAgenda rest

def Task.ofDeeds (deeds : List Deed) : List Task := deeds.map .deed

def Task.ofCallbacks (callbacks : List Callback) : List Task := callbacks.map .run

theorem weightOfAgenda_append (first second : List Task) :
    weightOfAgenda (first ++ second) = weightOfAgenda first + weightOfAgenda second := by
  induction first with
  | nil => simp [weightOfAgenda]
  | cons task rest ih =>
    simp only [List.cons_append, weightOfAgenda, ih]
    omega

theorem weightOfAgenda_ofDeeds (deeds : List Deed) :
    weightOfAgenda (Task.ofDeeds deeds) = weightOfDeeds deeds := by
  induction deeds with
  | nil => rfl
  | cons first rest ih =>
    have unfolded : weightOfAgenda (Task.ofDeeds (first :: rest)) =
        first.weight + weightOfAgenda (Task.ofDeeds rest) := rfl
    rw [unfolded, ih]
    rfl

theorem weightOfAgenda_ofCallbacks (callbacks : List Callback) :
    weightOfAgenda (Task.ofCallbacks callbacks) = weightOfPending callbacks := by
  induction callbacks with
  | nil => rfl
  | cons first rest ih =>
    have unfolded : weightOfAgenda (Task.ofCallbacks (first :: rest)) =
        first.weight + weightOfAgenda (Task.ofCallbacks rest) := rfl
    rw [unfolded, ih]
    rfl

theorem weightOfPending_append (first second : List Callback) :
    weightOfPending (first ++ second) = weightOfPending first + weightOfPending second := by
  induction first with
  | nil => simp [weightOfPending]
  | cons callback rest ih =>
    simp only [List.cons_append, weightOfPending, ih]
    omega

/-- How a run went: the queue afterwards, and what was said, in order. -/
structure Run where
  queue : ExitQueue Callback
  said : List String

def perform (queue : ExitQueue Callback) : List Task → Run
  | [] => ⟨queue, []⟩
  | .deed .fire :: rest =>
    perform queue.emptied (Task.ofCallbacks queue.pending ++ rest)
  | .deed .discard :: rest => perform queue.emptied rest
  | .deed (.install words deeds) :: rest => perform (queue.install ⟨words, deeds⟩) rest
  | .run callback :: rest =>
    let run := perform queue (Task.ofDeeds callback.deeds ++ rest)
    { run with said := callback.words :: run.said }
termination_by agenda => weightOfAgenda agenda + weightOfPending queue.pending
decreasing_by
  · rw [weightOfAgenda_append, weightOfAgenda_ofCallbacks]
    simp only [weightOfAgenda, weightOfPending, Task.weight, Deed.weight, emptied]
    omega
  · simp only [weightOfAgenda, weightOfPending, Task.weight, Deed.weight, emptied]
    omega
  · simp only [install, weightOfPending_append]
    simp only [weightOfAgenda, weightOfPending, Task.weight, Deed.weight, Callback.weight]
    omega
  · rw [weightOfAgenda_append, weightOfAgenda_ofDeeds]
    simp only [weightOfAgenda, Task.weight, Callback.weight]
    omega

def step (queue : ExitQueue Callback) (deed : Deed) : Run := perform queue [.deed deed]

end ExitQueue

end Reclaim
