import Mathlib.Data.List.Nodup
import Reclaim.Lifetime
import Reclaim.Proofs.Handover

/-!
# What the exit handler leaves

The lifetime of a process, told happening by happening: what is installed, when
the handler is called, and what it performs.  The handler is registered once, so
it is called once, and it takes what waits then; whatever is installed while it
is at work waits for ever.  So everything that is installed is performed, once
and in order, exactly if nothing is installed so late
(`performed_exactly_if_timely`).
-/

set_option autoImplicit false

namespace Reclaim.Lifetime

/-! ## Tales -/

structure Installation where
  number : Nat
  duty : Duty

/-- Duties in the order of their installation, the first of which has a certain number. -/
def numbered (first : Nat) : List Duty → List Installation
  | [] => []
  | duty :: rest => ⟨first, duty⟩ :: numbered (first + 1) rest

theorem numbered_append (first : Nat) (front back : List Duty) :
    numbered first (front ++ back) =
      numbered first front ++ numbered (first + front.length) back := by
  induction front generalizing first with
  | nil => rfl
  | cons duty rest ih =>
    have next : first + 1 + rest.length = first + (duty :: rest).length := by
      rw [List.length_cons]
      omega
    rw [List.cons_append, numbered, ih, next, numbered, List.cons_append]

theorem map_number_numbered (first : Nat) (duties : List Duty) :
    (numbered first duties).map Installation.number = List.range' first duties.length := by
  induction duties generalizing first with
  | nil => rfl
  | cons duty rest ih => rw [numbered, List.map_cons, ih, List.length_cons, List.range'_succ]

theorem map_duty_numbered (first : Nat) (duties : List Duty) :
    (numbered first duties).map Installation.duty = duties := by
  induction duties generalizing first with
  | nil => rfl
  | cons duty rest ih => rw [numbered, List.map_cons, ih]

inductive Happening where
  | installed (installation : Installation)
  | called
  | performed (installation : Installation)

namespace Happening

def installed? : Happening → Option Installation
  | .installed installation => some installation
  | .called | .performed _ => none

def performed? : Happening → Option Installation
  | .performed installation => some installation
  | .installed _ | .called => none

def words? : Happening → Option String
  | .performed ⟨_, .host callback⟩ => some callback.words
  | .performed ⟨_, .custody _⟩ | .installed _ | .called => none

def isCalled : Happening → Bool
  | .called => true
  | .installed _ | .performed _ => false

end Happening

def installedIn (tale : List Happening) : List Installation := tale.filterMap Happening.installed?

def performedIn (tale : List Happening) : List Installation := tale.filterMap Happening.performed?

def saidIn (tale : List Happening) : List String := tale.filterMap Happening.words?

/-- What happens before the handler is called for the first time. -/
def beforeCall (tale : List Happening) : List Happening :=
  tale.takeWhile fun happening => !happening.isCalled

/-- Nothing is installed once the first duty is performed. -/
def Timely (tale : List Happening) : Prop :=
  tale.Pairwise fun first second => first.performed? = none ∨ second.installed? = none

theorem installedIn_installed (installations : List Installation) :
    installedIn (installations.map .installed) = installations := by
  induction installations with
  | nil => rfl
  | cons installation rest ih => exact congrArg (installation :: ·) ih

theorem filterMap_installed {α : Type} {select : Happening → Option α}
    (passed : ∀ installation, select (.installed installation) = none)
    (installations : List Installation) :
    (installations.map Happening.installed).filterMap select = [] := by
  rw [List.filterMap_map, List.filterMap_eq_nil_iff]
  exact fun installation _ => passed installation

theorem timely_of_nothing_installed {tale : List Happening} (nothing : installedIn tale = []) :
    Timely tale :=
  List.pairwise_of_forall_mem_list fun _ _ second told =>
    .inr (List.filterMap_eq_nil_iff.mp nothing second told)

theorem timely_performed_cons_iff (installation : Installation) (tale : List Happening) :
    Timely (.performed installation :: tale) ↔ installedIn tale = [] := by
  constructor
  · intro timely
    rw [installedIn, List.filterMap_eq_nil_iff]
    intro second told
    exact ((List.pairwise_cons.mp timely).1 second told).resolve_left (Option.some_ne_none _)
  · intro nothing
    refine List.pairwise_cons.mpr ⟨fun second told => .inr ?_, timely_of_nothing_installed nothing⟩
    exact List.filterMap_eq_nil_iff.mp nothing second told

/-! ## Courses -/

/-- A tale in which some duties are installed, and then the handler is called and goes its walk.
It is not called if there are no duties. -/
inductive Course : List Installation → List Happening → List Happening → Prop where
  | silent : Course [] [] []
  | called (due : List Installation) (walk : List Happening) :
    Course due walk (due.map .installed ++ .called :: walk)

namespace Course

variable {due : List Installation} {walk tale : List Happening}

theorem installedIn_eq (course : Course due walk tale) :
    installedIn tale = due ++ installedIn walk := by
  cases course with
  | silent => rfl
  | called =>
    rw [installedIn, List.filterMap_append]
    exact congrArg (· ++ installedIn walk) (installedIn_installed due)

/-- What is neither about installations nor about the call is in the walk. -/
theorem filterMap_eq {α : Type} {select : Happening → Option α} (course : Course due walk tale)
    (passed : ∀ installation, select (.installed installation) = none)
    (uncalled : select .called = none) : tale.filterMap select = walk.filterMap select := by
  cases course with
  | silent => rfl
  | called =>
    rw [List.filterMap_append, filterMap_installed passed, List.nil_append,
      List.filterMap_cons_none uncalled]

theorem performedIn_eq (course : Course due walk tale) : performedIn tale = performedIn walk :=
  course.filterMap_eq (fun _ => rfl) rfl

theorem saidIn_eq (course : Course due walk tale) : saidIn tale = saidIn walk :=
  course.filterMap_eq (fun _ => rfl) rfl

theorem installedIn_beforeCall (course : Course due walk tale) :
    installedIn (beforeCall tale) = due := by
  cases course with
  | silent => rfl
  | called =>
    induction due with
    | nil => rfl
    | cons installation rest ih => exact congrArg (installation :: ·) ih

theorem countP_le (course : Course due walk tale) (quiet : walk.countP Happening.isCalled = 0) :
    tale.countP Happening.isCalled ≤ 1 := by
  cases course with
  | silent => exact Nat.zero_le 1
  | called =>
    induction due with
    | nil =>
      refine Nat.le_of_eq ((List.countP_cons_of_pos rfl).trans ?_)
      rw [quiet]
    | cons installation rest ih => exact ih

theorem timely_iff (course : Course due walk tale) : Timely tale ↔ Timely walk := by
  cases course with
  | silent => rfl
  | called =>
    induction due with
    | nil =>
      exact List.pairwise_cons.trans ⟨And.right, fun timely => ⟨fun _ _ => .inl rfl, timely⟩⟩
    | cons installation rest ih =>
      refine List.pairwise_cons.trans ⟨fun timely => ih.mp timely.2, fun timely => ?_⟩
      exact ⟨fun _ _ => .inl rfl, ih.mpr timely⟩

end Course

/-! ## Telling -/

namespace Exits

theorem queue_installAll (exits : Exits) (duties : List Duty) :
    (exits.installAll duties).queue =
      ⟨exits.queue.pending ++ duties, exits.queue.installs + duties.length⟩ := by
  induction duties generalizing exits with
  | nil => rw [List.append_nil]; rfl
  | cons duty rest ih =>
    refine (ih (exits.install duty)).trans ?_
    simp only [install, ExitQueue.install, List.append_assoc, List.singleton_append,
      List.length_cons, Nat.add_assoc, Nat.add_comm 1]

theorem installAll_of_registered {exits : Exits} (registered : exits.registered = true)
    (duties : List Duty) :
    exits.installAll duties = { exits with queue := (exits.installAll duties).queue } := by
  induction duties generalizing exits with
  | nil => rfl
  | cons duty rest ih =>
    have same : (exits.install duty).handlers = exits.handlers := if_pos registered
    have next := @ih (exits.install duty) rfl
    rw [same] at next
    rw [registered]
    exact next

theorem opening_installAll (duty : Duty) (rest : List Duty) :
    opening.installAll (duty :: rest) = ⟨⟨duty :: rest, 1 + rest.length⟩, true, 1⟩ := by
  have registered : (opening.install duty).registered = true := rfl
  have later := installAll_of_registered registered rest
  rw [queue_installAll] at later
  exact later

end Exits

namespace State

variable {ω : Type}

def gained (before after : State ω) : List Installation :=
  numbered before.exits.queue.installs
    (after.exits.queue.pending.drop before.exits.queue.pending.length)

def waiting (state : State ω) : List Installation :=
  numbered (state.exits.queue.installs - state.exits.queue.pending.length)
    state.exits.queue.pending

theorem gained_eq {before after : State ω} {duties : List Duty}
    (same : after.exits = before.exits.installAll duties) :
    before.gained after = numbered before.exits.queue.installs duties := by
  rw [gained, same, Exits.queue_installAll, List.drop_left]

theorem gained_self (state : State ω) : state.gained state = [] := by
  rw [gained, List.drop_length, numbered]

theorem gained_trans {first second third : State ω} (earlier : first.Installs second)
    (later : second.Installs third) :
    first.gained third = first.gained second ++ second.gained third := by
  obtain ⟨front, earlier⟩ := earlier
  obtain ⟨back, later⟩ := later
  have both : third.exits = first.exits.installAll (front ++ back) := by
    rw [later, earlier, Exits.installAll, Exits.installAll, Exits.installAll, List.foldl_append]
  have counted : second.exits.queue.installs = first.exits.queue.installs + front.length := by
    rw [earlier, Exits.queue_installAll]
  rw [gained_eq earlier, gained_eq later, gained_eq both, counted, numbered_append]

/-- After a state in which nothing waits, only what was installed since then does. -/
theorem waiting_eq_gained {before after : State ω} (nothing : before.exits.queue.pending = [])
    (installs : before.Installs after) : after.waiting = before.gained after := by
  obtain ⟨duties, same⟩ := installs
  rw [gained_eq same, waiting, same, Exits.queue_installAll, nothing, List.nil_append,
    Nat.add_sub_cancel]

theorem installs_eq_add {before after : State ω} (nothing : before.exits.queue.pending = [])
    (installs : before.Installs after) :
    after.exits.queue.installs =
      before.exits.queue.installs + after.exits.queue.pending.length := by
  obtain ⟨duties, same⟩ := installs
  rw [same, Exits.queue_installAll, nothing, List.nil_append]

section Telling

variable (engine : Engine ω) (fresh : Custody)

def attemptAll (state : State ω) (due : List Installation) : State ω :=
  (due.map Installation.duty).foldl (attempt engine fresh) state

def tellDuties (state : State ω) : List Installation → List Happening
  | [] => []
  | installation :: rest =>
    let after := state.attempt engine fresh installation.duty
    .performed installation :: ((state.gained after).map .installed ++ after.tellDuties rest)

def tellFinish (state : State ω) : List Happening :=
  match _left : state.exits.handlers with
  | 0 => []
  | others + 1 =>
    let called := state.calling others
    .called :: (called.relieved.tellDuties engine fresh called.waiting ++
      (called.handle engine fresh).tellFinish)
termination_by state.exits.owed
decreasing_by
  rw [owed_handle]
  exact owed_calling _left

theorem installs_attemptAll (state : State ω) (due : List Installation) :
    state.Installs (state.attemptAll engine fresh due) :=
  Installs.foldl (installs_attempt engine fresh) state (due.map Installation.duty)

theorem performedIn_tellDuties (state : State ω) (due : List Installation) :
    performedIn (state.tellDuties engine fresh due) = due := by
  induction due generalizing state with
  | nil => rfl
  | cons installation rest ih =>
    let after := state.attempt engine fresh installation.duty
    have later : performedIn ((state.gained after).map .installed ++
        after.tellDuties engine fresh rest) = rest := by
      rw [performedIn, List.filterMap_append, filterMap_installed fun _ => rfl, List.nil_append]
      exact ih after
    exact congrArg (installation :: ·) later

theorem installedIn_tellDuties (state : State ω) (due : List Installation) :
    installedIn (state.tellDuties engine fresh due) =
      state.gained (state.attemptAll engine fresh due) := by
  induction due generalizing state with
  | nil => exact state.gained_self.symm
  | cons installation rest ih =>
    let after := state.attempt engine fresh installation.duty
    calc installedIn (state.tellDuties engine fresh (installation :: rest))
        = installedIn ((state.gained after).map .installed ++
            after.tellDuties engine fresh rest) := rfl
      _ = state.gained after ++ after.gained (after.attemptAll engine fresh rest) := by
        rw [installedIn, List.filterMap_append]
        exact congrArg₂ (· ++ ·) (installedIn_installed _) (ih after)
      _ = state.gained (state.attemptAll engine fresh (installation :: rest)) :=
        (gained_trans (state.installs_attempt engine fresh _)
          (after.installs_attemptAll engine fresh rest)).symm

theorem countP_tellDuties (state : State ω) (due : List Installation) :
    (state.tellDuties engine fresh due).countP Happening.isCalled = 0 := by
  induction due generalizing state with
  | nil => rfl
  | cons installation rest ih =>
    let after := state.attempt engine fresh installation.duty
    have quiet : ((state.gained after).map Happening.installed).countP Happening.isCalled = 0 := by
      rw [List.countP_map]
      exact List.countP_eq_zero.mpr fun _ _ => Bool.false_ne_true
    rw [tellDuties, List.countP_cons_of_neg Bool.false_ne_true, List.countP_append, quiet, ih]

theorem timely_tellDuties_iff (state : State ω) (due : List Installation) :
    Timely (state.tellDuties engine fresh due) ↔
      installedIn (state.tellDuties engine fresh due) = [] := by
  cases due with
  | nil => exact iff_of_true List.Pairwise.nil rfl
  | cons installation rest => exact timely_performed_cons_iff installation _

/-! ## What is said -/

theorem said_work (state : State ω) (position : Nat) (change : Scene ω → Scene ω) :
    (state.work position change).said = state.said := by
  unfold work
  split
  · rfl
  · dsimp only
    split <;> rfl

theorem said_workOnNewest (state : State ω) (change : Scene ω → Scene ω) :
    (state.workOnNewest change).said = state.said := by
  unfold workOnNewest
  split
  · rfl
  · exact state.said_work _ change

theorem said_step (state : State ω) (step : Step) :
    (state.step engine fresh step).said = state.said := by
  cases step with
  | setUp | drop | install => rfl
  | act act => exact state.said_workOnNewest _
  | cleanup => exact state.said_workOnNewest _

theorem said_steps (state : State ω) (steps : List Step) :
    (steps.foldl (step engine fresh) state).said = state.said := by
  induction steps generalizing state with
  | nil => rfl
  | cons step rest ih => exact (ih _).trans (state.said_step engine fresh step)

theorem said_attempt (state : State ω) (installation : Installation) :
    (state.attempt engine fresh installation.duty).said =
      state.said ++ (Happening.performed installation).words?.toList := by
  have performed : (state.perform engine fresh installation.duty).2.said =
      state.said ++ (Happening.performed installation).words?.toList := by
    cases installation with
    | mk number duty =>
      cases duty with
      | custody position => exact (state.said_work _ _).trans (List.append_nil _).symm
      | host callback => exact said_steps engine fresh _ callback.steps
  rw [← performed, attempt]
  split <;> rename_i ended <;> rw [ended]

theorem said_attemptAll (state : State ω) (due : List Installation) :
    (state.attemptAll engine fresh due).said =
      state.said ++ saidIn (state.tellDuties engine fresh due) := by
  induction due generalizing state with
  | nil => exact (List.append_nil _).symm
  | cons installation rest ih =>
    let after := state.attempt engine fresh installation.duty
    have told : saidIn (state.tellDuties engine fresh (installation :: rest)) =
        (Happening.performed installation).words?.toList ++
          saidIn (after.tellDuties engine fresh rest) := by
      rw [tellDuties, saidIn, filterMap_cons_toList, List.filterMap_append,
        filterMap_installed fun _ => rfl, List.nil_append]
      rfl
    rw [told, ← List.append_assoc, ← said_attempt engine fresh state installation]
    exact ih after

/-! ## The end -/

theorem finish_of_idle {state : State ω} (idle : state.exits.handlers = 0) :
    state.finish engine fresh = state := by
  rw [finish]
  split
  · rfl
  · rename_i left
    cases idle.symm.trans left

theorem finish_of_called {state : State ω} {others : Nat}
    (left : state.exits.handlers = others + 1) :
    state.finish engine fresh =
      ((state.calling others).handle engine fresh).finish engine fresh := by
  rw [finish]
  split
  · rename_i idle
    cases left.symm.trans idle
  · rename_i same
    cases left.symm.trans same
    rfl

theorem tellFinish_of_idle {state : State ω} (idle : state.exits.handlers = 0) :
    state.tellFinish engine fresh = [] := by
  rw [tellFinish]
  split
  · rfl
  · rename_i left
    cases idle.symm.trans left

theorem tellFinish_of_called {state : State ω} {others : Nat}
    (left : state.exits.handlers = others + 1) :
    state.tellFinish engine fresh =
      .called :: ((state.calling others).relieved.tellDuties engine fresh
          (state.calling others).waiting ++
        ((state.calling others).handle engine fresh).tellFinish engine fresh) := by
  rw [tellFinish]
  split
  · rename_i idle
    cases left.symm.trans idle
  · rename_i same
    cases left.symm.trans same
    rfl

theorem handle_eq (state : State ω) :
    state.handle engine fresh = state.relieved.attemptAll engine fresh state.waiting := by
  rw [handle, attemptAll, waiting, map_duty_numbered]

/-- At the end no handler has been registered, or one is called and no other after it. -/
theorem ends {world : ω} {left : State ω} (installs : (opening world).Installs left) :
    left.finish engine fresh = (left.calling 0).relieved.attemptAll engine fresh left.waiting ∧
      Course left.waiting ((left.calling 0).relieved.tellDuties engine fresh left.waiting)
        (left.waiting.map .installed ++ left.tellFinish engine fresh) := by
  obtain ⟨duties, same⟩ := installs
  cases duties with
  | nil =>
    have idle : left.exits.handlers = 0 := by rw [same]; rfl
    have nothing : left.waiting = [] := by rw [waiting, same]; rfl
    rw [finish_of_idle engine fresh idle, tellFinish_of_idle engine fresh idle, nothing]
    refine ⟨?_, .silent⟩
    cases left
    cases same
    rfl
  | cons duty rest =>
    have opened := same.trans (Exits.opening_installAll duty rest)
    have one : left.exits.handlers = 0 + 1 := congrArg Exits.handlers opened
    have registered : (left.calling 0).relieved.exits.registered = true :=
      congrArg Exits.registered opened
    -- What is installed while the handler is at work registers no other one.
    have last : ((left.calling 0).handle engine fresh).exits.handlers = 0 := by
      obtain ⟨late, after⟩ := Installs.foldl (installs_attempt engine fresh)
        (left.calling 0).relieved left.exits.queue.pending
      exact congrArg Exits.handlers
        (after.trans (Exits.installAll_of_registered registered late))
    rw [finish_of_called engine fresh one, finish_of_idle engine fresh last, handle_eq,
      tellFinish_of_called engine fresh one, tellFinish_of_idle engine fresh last, List.append_nil]
    exact ⟨rfl, .called _ _⟩

end Telling

end State

def history {ω : Type} (engine : Engine ω) (fresh : Custody) (world : ω) (steps : List Step) :
    List Happening :=
  let left := steps.foldl (State.step engine fresh) (.opening world)
  ((State.opening world).gained left).map .installed ++ left.tellFinish engine fresh

/-- What is installed before the handler is called is performed, once and in the order of
installation, also if some of it panics; what is installed later waits for ever. -/
theorem performed_exactly_if_timely {ω : Type} (engine : Engine ω) (fresh : Custody) (world : ω)
    (steps : List Step) :
    let left := steps.foldl (State.step engine fresh) (.opening world)
    let ended := run engine fresh world steps
    let tale := history engine fresh world steps
    (installedIn tale).map Installation.number = List.range ended.exits.queue.installs ∧
      performedIn tale = installedIn (beforeCall tale) ∧
      installedIn tale = performedIn tale ++ ended.waiting ∧
      (performedIn tale = installedIn tale ↔ Timely tale) ∧
      tale.countP Happening.isCalled ≤ 1 ∧
      ended.said = saidIn tale ∧
      ended = (left.calling 0).relieved.attemptAll engine fresh (performedIn tale) := by
  intro left ended tale
  have installs : (State.opening world).Installs left :=
    State.Installs.foldl (State.installs_step engine fresh) _ steps
  obtain ⟨finished, course⟩ := State.ends engine fresh installs
  change ended = (left.calling 0).relieved.attemptAll engine fresh left.waiting at finished
  have tale_eq : tale = left.waiting.map .installed ++ left.tellFinish engine fresh := by
    rw [State.waiting_eq_gained rfl installs]
    rfl
  rw [← tale_eq] at course
  have walks : (left.calling 0).relieved.Installs ended := by
    rw [finished]
    exact State.installs_attemptAll engine fresh _ _
  have performed : performedIn tale = left.waiting := by
    rw [course.performedIn_eq, State.performedIn_tellDuties]
  have late : ended.waiting =
      installedIn ((left.calling 0).relieved.tellDuties engine fresh left.waiting) := by
    rw [State.installedIn_tellDuties, ← finished, State.waiting_eq_gained rfl walks]
  have given : installedIn tale = left.waiting ++ ended.waiting := by
    rw [course.installedIn_eq, late]
  have early : left.exits.queue.installs = 0 + left.exits.queue.pending.length :=
    State.installs_eq_add rfl installs
  have total : ended.exits.queue.installs =
      left.exits.queue.installs + ended.exits.queue.pending.length :=
    (State.installs_eq_add rfl walks :)
  refine ⟨?_, ?_, ?_, ?_, course.countP_le (State.countP_tellDuties engine fresh _ _), ?_, ?_⟩
  · rw [given, List.map_append, State.waiting, State.waiting, map_number_numbered,
      map_number_numbered, total, Nat.add_sub_cancel, early, Nat.add_sub_cancel,
      List.range'_append_1, List.range_eq_range', Nat.zero_add]
  · rw [performed, course.installedIn_beforeCall]
  · rw [performed, given]
  · rw [performed, given, List.self_eq_append_right, late, course.timely_iff]
    exact (State.timely_tellDuties_iff engine fresh _ _).symm
  · rw [finished, State.said_attemptAll, course.saidIn_eq]
    exact congrArg (· ++ _) (State.said_steps engine fresh (.opening world) steps)
  · rw [performed, finished]

def handingOn : List Step := [.install (.mk "a" [.install (.mk "b" [] false)] false)]

/-- A callback that is installed by another one while the process ends is not run. -/
theorem late_callback_not_run :
    let tale := history Engine.Simulated.engine Bequest.custody .empty handingOn
    (installedIn tale).map Installation.number = [0, 1] ∧
      (performedIn tale).map Installation.number = [0] ∧
      (run Engine.Simulated.engine Bequest.custody .empty handingOn).said = ["a"] := by
  intro tale
  obtain ⟨finished, course⟩ := State.ends Engine.Simulated.engine Bequest.custody
    (State.Installs.foldl (State.installs_step Engine.Simulated.engine Bequest.custody)
      (.opening .empty) handingOn)
  change Course _ _ tale at course
  refine ⟨?_, ?_, congrArg State.said finished⟩
  · rw [course.installedIn_eq]
    rfl
  · rw [course.performedIn_eq]
    rfl

end Reclaim.Lifetime
