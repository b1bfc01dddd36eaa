import Reclaim.ExitQueue

/-!
# Runs of an exit queue

A run of an exit queue, told happening by happening.  Callbacks have the numbers
of their installations, and what is run is noted with the firing that took it
(`Stage.next`); so it can be said of a run what becomes of each callback.  What
is told says the same as the queue, and leaves the same to wait (`stepAll_eq`).
-/

set_option autoImplicit false

namespace Reclaim.ExitQueue

structure Numbered where
  number : Nat
  callback : Callback

inductive Happening where
  | installed (callback : Numbered)
  /-- A firing begins and takes some callbacks out. -/
  | fired (fire : Nat) (taken : List Nat)
  | ran (fire : Nat) (callback : Numbered)
  | discarded (dropped : List Nat)

namespace Happening

def words? : Happening → Option String
  | .ran _ callback => some callback.callback.words
  | .installed _ | .fired _ _ | .discarded _ => none

def ran? : Happening → Option Nat
  | .ran _ callback => some callback.number
  | .installed _ | .fired _ _ | .discarded _ => none

def ranBy? (fire : Nat) : Happening → Option Nat
  | .ran other callback => if other = fire then some callback.number else none
  | .installed _ | .fired _ _ | .discarded _ => none

def dropped : Happening → List Nat
  | .discarded dropped => dropped
  | .installed _ | .fired _ _ | .ran _ _ => []

def isInstalled : Happening → Bool
  | .installed _ => true
  | .fired _ _ | .ran _ _ | .discarded _ => false

def isFired : Happening → Bool
  | .fired _ _ => true
  | .installed _ | .ran _ _ | .discarded _ => false

/-- What a happening leaves of the callbacks that wait. -/
def leave (waiting : List Numbered) : Happening → List Numbered
  | .installed callback => waiting ++ [callback]
  | .fired _ _ | .discarded _ => []
  | .ran _ _ => waiting

end Happening

def waitingAfter (tale : List Happening) : List Numbered := tale.foldl Happening.leave []

/-! ## Stages of a run -/

/-- Something to be done; of a callback it is known which firing took it. -/
inductive Errand where
  | deed (deed : Deed)
  | run (fire : Nat) (callback : Numbered)

/-- A run that is under way: the callbacks that wait, the numbers of installations and firings so
far, and what is still to be done, innermost first. -/
structure Stage where
  waiting : List Numbered
  installs : Nat
  fires : Nat
  agenda : List Errand

namespace Errand

def task : Errand → Task
  | .deed single => .deed single
  | .run _ callback => .run callback.callback

def due? : Errand → Option (Nat × Numbered)
  | .deed _ => none
  | .run fire callback => some (fire, callback)

end Errand

namespace Stage

def queue (stage : Stage) : ExitQueue Callback :=
  ⟨stage.waiting.map Numbered.callback, stage.installs⟩

def tasks (stage : Stage) : List Task := stage.agenda.map Errand.task

def weight (stage : Stage) : Nat :=
  weightOfAgenda stage.tasks + weightOfPending stage.queue.pending

/-- The next happening and the stage after it, unless nothing is left to be done. -/
def next : Stage → Option (Happening × Stage)
  | ⟨_, _, _, []⟩ => none
  | ⟨waiting, installs, fires, .deed .fire :: rest⟩ =>
    some (.fired fires (waiting.map Numbered.number),
      ⟨[], installs, fires + 1, waiting.map (.run fires) ++ rest⟩)
  | ⟨waiting, installs, fires, .deed .discard :: rest⟩ =>
    some (.discarded (waiting.map Numbered.number), ⟨[], installs, fires, rest⟩)
  | ⟨waiting, installs, fires, .deed (.install words deeds) :: rest⟩ =>
    some (.installed ⟨installs, ⟨words, deeds⟩⟩,
      ⟨waiting ++ [⟨installs, ⟨words, deeds⟩⟩], installs + 1, fires, rest⟩)
  | ⟨waiting, installs, fires, .run fire callback :: rest⟩ =>
    some (.ran fire callback,
      ⟨waiting, installs, fires, callback.callback.deeds.map .deed ++ rest⟩)

def Moves (stage : Stage) (happening : Happening) (after : Stage) : Prop :=
  stage.next = some (happening, after)

/-- The stages by what is to be done next. -/
@[elab_as_elim]
theorem byErrand {motive : Stage → Prop} (stage : Stage)
    (ended : ∀ waiting installs fires, motive ⟨waiting, installs, fires, []⟩)
    (fire : ∀ waiting installs fires rest,
      motive ⟨waiting, installs, fires, .deed .fire :: rest⟩)
    (discard : ∀ waiting installs fires rest,
      motive ⟨waiting, installs, fires, .deed .discard :: rest⟩)
    (install : ∀ waiting installs fires words deeds rest,
      motive ⟨waiting, installs, fires, .deed (.install words deeds) :: rest⟩)
    (run : ∀ waiting installs fires number callback rest,
      motive ⟨waiting, installs, fires, .run number callback :: rest⟩) : motive stage := by
  obtain ⟨waiting, installs, fires, agenda⟩ := stage
  cases agenda with
  | nil => exact ended ..
  | cons errand rest =>
    cases errand with
    | run fire callback => exact run ..
    | deed single =>
      cases single with
      | fire => exact fire ..
      | discard => exact discard ..
      | install words deeds => exact install ..

theorem agenda_of_next {stage : Stage} (ended : stage.next = none) : stage.agenda = [] := by
  cases stage using byErrand with
  | ended waiting installs fires => rfl
  | _ => cases ended

theorem tasks_deeds (deeds : List Deed) :
    (deeds.map Errand.deed).map Errand.task = Task.ofDeeds deeds := by
  rw [List.map_map]
  rfl

theorem tasks_runs (fire : Nat) (waiting : List Numbered) :
    (waiting.map (Errand.run fire)).map Errand.task =
      Task.ofCallbacks (waiting.map Numbered.callback) := by
  rw [Task.ofCallbacks, List.map_map, List.map_map]
  rfl

theorem Moves.weight_lt {stage after : Stage} {happening : Happening}
    (moves : stage.Moves happening after) : after.weight < stage.weight := by
  cases stage using byErrand with
  | ended waiting installs fires => cases moves
  | fire waiting installs fires rest =>
    cases moves
    simp only [weight, tasks, queue, List.map_append, tasks_runs, weightOfAgenda_append,
      weightOfAgenda_ofCallbacks, List.map_cons, List.map_nil, weightOfAgenda, weightOfPending,
      Errand.task, Task.weight, Deed.weight]
    omega
  | discard waiting installs fires rest =>
    cases moves
    simp only [weight, tasks, queue, List.map_cons, List.map_nil, weightOfAgenda, weightOfPending,
      Errand.task, Task.weight, Deed.weight]
    omega
  | install waiting installs fires words deeds rest =>
    cases moves
    simp only [weight, tasks, queue, List.map_append, List.map_cons, List.map_nil, weightOfAgenda,
      weightOfPending_append, weightOfPending, Errand.task, Task.weight, Deed.weight,
      Callback.weight]
    omega
  | run waiting installs fires number callback rest =>
    cases moves
    simp only [weight, tasks, queue, List.map_append, tasks_deeds, weightOfAgenda_append,
      weightOfAgenda_ofDeeds, List.map_cons, weightOfAgenda, Errand.task, Task.weight,
      Callback.weight]
    omega

/-- All that happens until nothing is left to be done, and the stage in which that is so. -/
def tell (stage : Stage) : List Happening × Stage :=
  match _found : stage.next with
  | none => ([], stage)
  | some (happening, after) => (happening :: after.tell.1, after.tell.2)
termination_by stage.weight
decreasing_by all_goals exact Moves.weight_lt _found

theorem tell_of_ended {stage : Stage} (ended : stage.next = none) : stage.tell = ([], stage) := by
  rw [tell]
  split <;> simp_all

theorem tell_of_next {stage after : Stage} {happening : Happening}
    (next : stage.next = some (happening, after)) :
    stage.tell = (happening :: after.tell.1, after.tell.2) := by
  rw [tell]
  split <;> simp_all

theorem agenda_tell (stage : Stage) : stage.tell.2.agenda = [] := by
  induction stage using tell.induct with
  | case1 stage ended =>
    rw [tell_of_ended ended]
    exact agenda_of_next ended
  | case2 stage happening after next ih =>
    rw [tell_of_next next]
    exact ih

/-! ## Runs of the queue -/

theorem perform_of_moves {stage after : Stage} {happening : Happening}
    (moves : stage.Moves happening after) :
    perform stage.queue stage.tasks =
      ⟨(perform after.queue after.tasks).queue,
        happening.words?.toList ++ (perform after.queue after.tasks).said⟩ := by
  cases stage using byErrand with
  | ended waiting installs fires => cases moves
  | fire waiting installs fires rest =>
    cases moves
    simp only [tasks, List.map_cons, List.map_append, Errand.task, perform, tasks_runs]
    rfl
  | discard waiting installs fires rest =>
    cases moves
    simp only [tasks, List.map_cons, Errand.task, perform]
    rfl
  | install waiting installs fires words deeds rest =>
    cases moves
    simp only [tasks, queue, List.map_cons, List.map_append, List.map_nil, Errand.task, perform]
    rfl
  | run waiting installs fires number callback rest =>
    cases moves
    simp only [tasks, List.map_cons, List.map_append, Errand.task, perform, tasks_deeds]
    rfl

/-- What is told is what the queue does. -/
theorem perform_eq (stage : Stage) :
    perform stage.queue stage.tasks =
      ⟨stage.tell.2.queue, stage.tell.1.filterMap Happening.words?⟩ := by
  induction stage using tell.induct with
  | case1 stage ended =>
    rw [tell_of_ended ended, tasks, agenda_of_next ended, List.map_nil, perform]
    rfl
  | case2 stage happening after next ih =>
    rw [tell_of_next next, perform_of_moves next, ih]
    cases happening <;> rfl

def followedBy (stage : Stage) (more : List Errand) : Stage :=
  { stage with agenda := stage.agenda ++ more }

theorem next_followedBy {stage after : Stage} {happening : Happening}
    (next : stage.next = some (happening, after)) (more : List Errand) :
    (stage.followedBy more).next = some (happening, after.followedBy more) := by
  cases stage using byErrand with
  | ended waiting installs fires => cases next
  | _ =>
    cases next
    simp [followedBy, Stage.next]

theorem tell_followedBy (stage : Stage) (more : List Errand) :
    (stage.followedBy more).tell =
      (stage.tell.1 ++ (stage.tell.2.followedBy more).tell.1,
        (stage.tell.2.followedBy more).tell.2) := by
  induction stage using tell.induct with
  | case1 stage ended => rw [tell_of_ended ended, List.nil_append]
  | case2 stage happening after next ih =>
    rw [tell_of_next next, tell_of_next (next_followedBy next more), ih]
    rfl

end Stage

def stepAll (queue : ExitQueue Callback) : List Deed → Run
  | [] => ⟨queue, []⟩
  | deed :: rest =>
    let later := stepAll (step queue deed).queue rest
    { later with said := (step queue deed).said ++ later.said }

def Stage.opening (deeds : List Deed) : Stage := ⟨[], 0, 0, deeds.map .deed⟩

/-- All that happens when some deeds are done from outside, one after another. -/
def history (deeds : List Deed) : List Happening := (Stage.opening deeds).tell.1

theorem stepAll_eq {stage : Stage} (idle : stage.agenda = []) (deeds : List Deed) :
    stepAll stage.queue deeds =
      ⟨(stage.followedBy (deeds.map .deed)).tell.2.queue,
        (stage.followedBy (deeds.map .deed)).tell.1.filterMap Happening.words?⟩ := by
  induction deeds generalizing stage with
  | nil =>
    have ended : (stage.followedBy []).next = none := by
      simp [Stage.followedBy, Stage.next, idle]
    rw [List.map_nil, Stage.tell_of_ended ended]
    rfl
  | cons deed rest ih =>
    have first : step stage.queue deed =
        ⟨(stage.followedBy [.deed deed]).tell.2.queue,
          (stage.followedBy [.deed deed]).tell.1.filterMap Happening.words?⟩ := by
      rw [← Stage.perform_eq]
      simp [step, Stage.followedBy, Stage.tasks, Stage.queue, Errand.task, idle]
    have later := ih (stage.followedBy [.deed deed]).agenda_tell
    have joined : stage.followedBy ((deed :: rest).map .deed) =
        (stage.followedBy [.deed deed]).followedBy (rest.map .deed) := by
      simp [Stage.followedBy]
    rw [stepAll, first, joined,
      (stage.followedBy [.deed deed]).tell_followedBy (rest.map .deed), List.filterMap_append]
    dsimp only
    rw [later]

end Reclaim.ExitQueue
