import Mathlib.Data.List.Nodup
import Reclaim.Proofs.Agenda

/-!
# The fate of callbacks

A callback that has been installed waits until the queue is fired or discarded.
A firing takes all that wait and runs them one after another, and each of them
may install, fire and discard in its turn, while the others are still due.
`Follows` says what a stage has in common with the happenings that led to it;
from it follows that no callback is lost or run twice, and by which firing each
one is run (`callbacks_conserved`).
-/

set_option autoImplicit false

namespace Reclaim.ExitQueue

/-! ## What happenings lead to -/

def dueOn (agenda : List Errand) : List (Nat × Numbered) := agenda.filterMap Errand.due?

@[simp] theorem dueOn_append (first second : List Errand) :
    dueOn (first ++ second) = dueOn first ++ dueOn second := List.filterMap_append

@[simp] theorem dueOn_deeds (deeds : List Deed) : dueOn (deeds.map .deed) = [] := by
  rw [dueOn, List.filterMap_map, List.filterMap_eq_nil_iff]
  intro deed _
  rfl

@[simp] theorem dueOn_runs (fire : Nat) (waiting : List Numbered) :
    dueOn (waiting.map (.run fire)) = waiting.map fun callback => (fire, callback) := by
  rw [dueOn, List.filterMap_map, ← List.filterMap_eq_map]
  rfl

@[simp] theorem dueOn_deed (deed : Deed) (rest : List Errand) :
    dueOn (.deed deed :: rest) = dueOn rest := rfl

@[simp] theorem dueOn_run (fire : Nat) (callback : Numbered) (rest : List Errand) :
    dueOn (.run fire callback :: rest) = (fire, callback) :: dueOn rest := rfl

@[simp] theorem waitingAfter_concat (tale : List Happening) (happening : Happening) :
    waitingAfter (tale ++ [happening]) = happening.leave (waitingAfter tale) := by
  simp [waitingAfter]

namespace Stage.Moves

variable {stage following : Stage} {happening : Happening}

theorem waiting_eq (moves : stage.Moves happening following) :
    following.waiting = happening.leave stage.waiting := by
  cases stage using byErrand with
  | ended waiting installs fires => cases moves
  | _ =>
    cases moves
    rfl

theorem installs_eq (moves : stage.Moves happening following) :
    following.installs = stage.installs + happening.isInstalled.toNat := by
  cases stage using byErrand with
  | ended waiting installs fires => cases moves
  | _ =>
    cases moves
    rfl

theorem fires_eq (moves : stage.Moves happening following) :
    following.fires = stage.fires + happening.isFired.toNat := by
  cases stage using byErrand with
  | ended waiting installs fires => cases moves
  | _ =>
    cases moves
    rfl

theorem due (moves : stage.Moves happening following) {due : Nat × Numbered}
    (member : due ∈ dueOn following.agenda) :
    due ∈ dueOn stage.agenda ∨
      due.1 = stage.fires ∧ due.2 ∈ stage.waiting ∧
        happening = .fired stage.fires (stage.waiting.map Numbered.number) := by
  cases stage using byErrand with
  | ended waiting installs fires => cases moves
  | fire waiting installs fires rest =>
    cases moves
    rw [dueOn_append, dueOn_runs, List.mem_append, List.mem_map] at member
    rcases member with ⟨callback, waited, rfl⟩ | later
    · exact .inr ⟨rfl, waited, rfl⟩
    · exact .inl later
  | discard waiting installs fires rest =>
    cases moves
    exact .inl member
  | install waiting installs fires words deeds rest =>
    cases moves
    exact .inl member
  | run waiting installs fires number callback rest =>
    cases moves
    rw [dueOn_append, dueOn_deeds, List.nil_append] at member
    exact .inl (.tail _ member)

theorem ran {fire : Nat} {callback : Numbered}
    (moves : stage.Moves (.ran fire callback) following) :
    dueOn stage.agenda = (fire, callback) :: dueOn following.agenda := by
  cases stage using byErrand with
  | run waiting installs fires number callback rest =>
    cases moves
    simp
  | _ => cases moves

theorem fired {fire : Nat} {taken : List Nat}
    (moves : stage.Moves (.fired fire taken) following) :
    fire = stage.fires ∧ taken = stage.waiting.map Numbered.number ∧
      dueOn following.agenda =
        stage.waiting.map (fun callback => (fire, callback)) ++ dueOn stage.agenda := by
  cases stage using byErrand with
  | fire waiting installs fires rest =>
    cases moves
    simp
  | _ => cases moves

theorem discarded {dropped : List Nat}
    (moves : stage.Moves (.discarded dropped) following) :
    dropped = stage.waiting.map Numbered.number := by
  cases stage using byErrand with
  | discard waiting installs fires rest =>
    cases moves
    rfl
  | _ => cases moves

theorem installed {callback : Numbered}
    (moves : stage.Moves (.installed callback) following) :
    callback.number = stage.installs ∧ following.waiting = stage.waiting ++ [callback] := by
  cases stage using byErrand with
  | install waiting installs fires words deeds rest =>
    cases moves
    exact ⟨rfl, rfl⟩
  | _ => cases moves

end Stage.Moves

/-! ## What a tale leads to -/

def ranIn (tale : List Happening) : List Nat := tale.filterMap Happening.ran?

def droppedIn (tale : List Happening) : List Nat := tale.flatMap Happening.dropped

@[simp] theorem ranIn_concat (tale : List Happening) (happening : Happening) :
    ranIn (tale ++ [happening]) = ranIn tale ++ happening.ran?.toList := by
  cases happening <;> simp [ranIn, Happening.ran?]

@[simp] theorem droppedIn_concat (tale : List Happening) (happening : Happening) :
    droppedIn (tale ++ [happening]) = droppedIn tale ++ happening.dropped := by
  simp [droppedIn]

def numbersDue (agenda : List Errand) : List Nat := (dueOn agenda).map fun due => due.2.number

/-- Each callback that has been installed was run, was dropped, waits, or is due, and only one of
these, once. -/
def Balanced (stage : Stage) (tale : List Happening) : Prop :=
  ∀ number, (ranIn tale).count number + (droppedIn tale).count number +
      (stage.waiting.map Numbered.number).count number + (numbersDue stage.agenda).count number =
    if number < stage.installs then 1 else 0

/-- Only callbacks that have been installed are met with. -/
structure Known (stage : Stage) (tale : List Happening) : Prop where
  waiting : ∀ callback ∈ stage.waiting, Happening.installed callback ∈ tale
  due : ∀ due ∈ dueOn stage.agenda, Happening.installed due.2 ∈ tale
  ran : ∀ fire callback, Happening.ran fire callback ∈ tale → Happening.installed callback ∈ tale

/-- A stage is what a tale leads to. -/
structure Follows (stage : Stage) (tale : List Happening) : Prop where
  waiting : stage.waiting = waitingAfter tale
  installs : stage.installs = tale.countP Happening.isInstalled
  fires : stage.fires = tale.countP Happening.isFired
  balanced : Balanced stage tale
  known : Known stage tale
  ascending : (stage.waiting.map Numbered.number).Pairwise (· < ·)
  due : ∀ due ∈ dueOn stage.agenda, due.1 < stage.fires
  fired : ∀ fire taken, Happening.fired fire taken ∈ tale → fire < stage.fires

section Step

variable {stage following : Stage} {happening : Happening} {tale : List Happening}

theorem Balanced.moved (moves : stage.Moves happening following) (balanced : Balanced stage tale) :
    Balanced following (tale ++ [happening]) := by
  intro number
  have before := balanced number
  -- What leaves one of the four lists enters another; only an installation adds a number.
  cases stage using Stage.byErrand with
  | ended waiting installs fires => cases moves
  | fire waiting installs fires rest =>
    cases moves
    have moved : numbersDue (waiting.map (.run fires) ++ rest) =
        waiting.map Numbered.number ++ numbersDue rest := by
      simp [numbersDue, Function.comp_def]
    have same : numbersDue (.deed .fire :: rest) = numbersDue rest := rfl
    simp only [moved, same, ranIn_concat, droppedIn_concat, Happening.ran?, Happening.dropped,
      Option.toList_none, List.append_nil, List.map_nil, List.count_nil, List.count_append]
      at before ⊢
    omega
  | discard waiting installs fires rest =>
    cases moves
    have same : numbersDue (.deed .discard :: rest) = numbersDue rest := rfl
    simp only [same, ranIn_concat, droppedIn_concat, Happening.ran?, Happening.dropped,
      Option.toList_none, List.append_nil, List.map_nil, List.count_nil, List.count_append]
      at before ⊢
    omega
  | install waiting installs fires words deeds rest =>
    cases moves
    have same : numbersDue (.deed (.install words deeds) :: rest) = numbersDue rest := rfl
    simp only [same, ranIn_concat, droppedIn_concat, Happening.ran?, Happening.dropped,
      Option.toList_none, List.append_nil, List.map_append, List.map_cons, List.map_nil,
      List.count_append, List.count_singleton, beq_iff_eq] at before ⊢
    split at before <;> split <;> split <;> omega
  | run waiting installs fires number callback rest =>
    cases moves
    have first : numbersDue (.run number callback :: rest) =
        callback.number :: numbersDue rest := rfl
    have same : numbersDue (callback.callback.deeds.map .deed ++ rest) = numbersDue rest := by
      simp [numbersDue]
    simp only [first, same, ranIn_concat, droppedIn_concat, Happening.ran?, Happening.dropped,
      Option.toList_some, List.append_nil, List.count_append, List.count_cons, List.count_nil]
      at before ⊢
    omega

theorem Known.moved (moves : stage.Moves happening following) (known : Known stage tale) :
    Known following (tale ++ [happening]) := by
  constructor
  · intro callback member
    rw [moves.waiting_eq] at member
    cases happening with
    | installed latest =>
      rcases List.mem_append.mp member with waited | isLatest
      · exact List.mem_append_left _ (known.waiting callback waited)
      · rw [List.mem_singleton.mp isLatest]
        exact List.mem_append_right _ (.head _)
    | ran fire other => exact List.mem_append_left _ (known.waiting callback member)
    | fired fire taken => cases member
    | discarded dropped => cases member
  · intro due member
    apply List.mem_append_left
    rcases moves.due member with before | ⟨-, waited, -⟩
    · exact known.due due before
    · exact known.waiting due.2 waited
  · intro fire callback member
    apply List.mem_append_left
    rcases List.mem_append.mp member with before | isLatest
    · exact known.ran fire callback before
    · rw [← List.mem_singleton.mp isLatest] at moves
      exact known.due (fire, callback) (moves.ran ▸ .head _)

theorem Balanced.number_lt (balanced : Balanced stage tale) {callback : Numbered}
    (waits : callback ∈ stage.waiting) : callback.number < stage.installs := by
  have once := balanced callback.number
  have present : 0 < (stage.waiting.map Numbered.number).count callback.number :=
    List.count_pos_iff.mpr (List.mem_map_of_mem waits)
  by_contra beyond
  rw [if_neg beyond] at once
  omega

theorem Follows.moved (moves : stage.Moves happening following) (follows : Follows stage tale) :
    Follows following (tale ++ [happening]) := by
  have fires_le : stage.fires ≤ following.fires := by
    rw [moves.fires_eq]
    exact Nat.le_add_right _ _
  constructor
  · rw [waitingAfter_concat, ← follows.waiting, moves.waiting_eq]
  · rw [List.countP_append, ← follows.installs, moves.installs_eq, List.countP_singleton]
    cases happening.isInstalled <;> rfl
  · rw [List.countP_append, ← follows.fires, moves.fires_eq, List.countP_singleton]
    cases happening.isFired <;> rfl
  · exact follows.balanced.moved moves
  · exact follows.known.moved moves
  · rw [moves.waiting_eq]
    cases happening with
    | installed latest =>
      have newest := moves.installed.1
      rw [Happening.leave, List.map_append, List.pairwise_append]
      refine ⟨follows.ascending, List.pairwise_singleton _ _, ?_⟩
      intro earlier member later isLatest
      obtain ⟨callback, waits, rfl⟩ := List.mem_map.mp member
      rw [List.mem_singleton.mp isLatest, newest]
      exact follows.balanced.number_lt waits
    | ran fire other => exact follows.ascending
    | fired fire taken => exact .nil
    | discarded dropped => exact .nil
  · intro due member
    rcases moves.due member with before | ⟨taken, -, fired⟩
    · exact Nat.lt_of_lt_of_le (follows.due due before) fires_le
    · rw [moves.fires_eq, taken, fired]
      exact Nat.lt_succ_self _
  · intro fire taken member
    rcases List.mem_append.mp member with before | isLatest
    · exact Nat.lt_of_lt_of_le (follows.fired fire taken before) fires_le
    · rw [← List.mem_singleton.mp isLatest] at moves
      rw [moves.fires_eq, moves.fired.1]
      exact Nat.lt_succ_self _

end Step

/-! ## Whole runs -/

namespace Stage

inductive Reaches : Stage → List Happening → Stage → Prop where
  | here (stage : Stage) : Reaches stage [] stage
  | move {stage following last : Stage} {happening : Happening} {tale : List Happening}
      (next : stage.next = some (happening, following)) (rest : Reaches following tale last) :
      Reaches stage (happening :: tale) last

theorem reaches_tell (stage : Stage) : stage.Reaches stage.tell.1 stage.tell.2 := by
  induction stage using tell.induct with
  | case1 stage ended =>
    rw [tell_of_ended ended]
    exact .here stage
  | case2 stage happening after next ih =>
    rw [tell_of_next next]
    exact .move next ih

theorem next_of_tell {stage : Stage} {happening : Happening} {later : List Happening}
    (told : stage.tell.1 = happening :: later) :
    ∃ following, stage.next = some (happening, following) ∧ following.tell.1 = later := by
  cases next : stage.next with
  | none =>
    rw [tell_of_ended next] at told
    cases told
  | some found =>
    rw [tell_of_next next] at told
    cases told
    exact ⟨found.2, rfl, rfl⟩

/-- Wherever a tale is cut, there is a stage that the first part leads to and the second part is
told from. -/
theorem reaches_of_split {before later : List Happening} {stage : Stage}
    (split : stage.tell.1 = before ++ later) :
    ∃ last, stage.Reaches before last ∧ last.tell.1 = later := by
  induction before generalizing stage with
  | nil => exact ⟨stage, .here stage, split⟩
  | cons happening rest ih =>
    obtain ⟨following, next, told⟩ := next_of_tell split
    obtain ⟨last, reaches, toldLast⟩ := ih told
    exact ⟨last, .move next reaches, toldLast⟩

end Stage

theorem Follows.reached {stage last : Stage} {later : List Happening}
    (reaches : stage.Reaches later last) {tale : List Happening} (follows : Follows stage tale) :
    Follows last (tale ++ later) := by
  induction reaches generalizing tale with
  | here stage => rwa [List.append_nil]
  | @move stage following last happening later next rest ih =>
    have onward := ih (follows.moved next)
    rwa [List.append_assoc, List.singleton_append] at onward

/-! ## Firings -/

def ranBy (fire : Nat) (tale : List Happening) : List Nat := tale.filterMap (Happening.ranBy? fire)

def dueBy (fire : Nat) (due : List (Nat × Numbered)) : List Nat :=
  due.filterMap fun due => if due.1 = fire then some due.2.number else none

@[simp] theorem dueBy_append (fire : Nat) (first second : List (Nat × Numbered)) :
    dueBy fire (first ++ second) = dueBy fire first ++ dueBy fire second := List.filterMap_append

theorem dueBy_eq_nil {fire : Nat} {due : List (Nat × Numbered)}
    (others : ∀ one ∈ due, one.1 ≠ fire) : dueBy fire due = [] := by
  rw [dueBy, List.filterMap_eq_nil_iff]
  intro one member
  exact if_neg (others one member)

theorem dueBy_taken (fire : Nat) (waiting : List Numbered) :
    dueBy fire (waiting.map fun callback => (fire, callback)) = waiting.map Numbered.number := by
  rw [dueBy, List.filterMap_map, ← List.filterMap_eq_map]
  congr 1
  funext callback
  exact if_pos rfl

theorem Stage.Moves.dueBy_eq {stage following : Stage} {happening : Happening}
    (moves : stage.Moves happening following) {fire : Nat} (begun : fire < stage.fires) :
    dueBy fire (dueOn stage.agenda) =
      (happening.ranBy? fire).toList ++ dueBy fire (dueOn following.agenda) := by
  cases stage using byErrand with
  | ended waiting installs fires => cases moves
  | fire waiting installs fires rest =>
    cases moves
    have others : dueBy fire (waiting.map fun callback => (fires, callback)) = [] := by
      apply dueBy_eq_nil
      intro one member
      obtain ⟨callback, -, rfl⟩ := List.mem_map.mp member
      exact Nat.ne_of_gt begun
    simp [others, Happening.ranBy?]
  | discard waiting installs fires rest =>
    cases moves
    rfl
  | install waiting installs fires words deeds rest =>
    cases moves
    rfl
  | run waiting installs fires number callback rest =>
    cases moves
    by_cases same : number = fire <;> simp [dueBy, Happening.ranBy?, same]

/-- A firing that has begun runs what it has still to run, and nothing else. -/
theorem ranBy_tell {stage : Stage} {fire : Nat} (begun : fire < stage.fires) :
    ranBy fire stage.tell.1 = dueBy fire (dueOn stage.agenda) := by
  induction stage using Stage.tell.induct with
  | case1 stage ended =>
    rw [Stage.tell_of_ended ended, Stage.agenda_of_next ended]
    rfl
  | case2 stage happening after next ih =>
    have moves : stage.Moves _ _ := next
    -- A firing that has begun takes nothing more, since only later ones can begin.
    have still : fire < after.fires := by
      rw [moves.fires_eq]
      omega
    rw [Stage.tell_of_next next, moves.dueBy_eq begun, ← ih still, ranBy, List.filterMap_cons]
    cases happening.ranBy? fire <;> rfl

theorem fires_le_of_fired {stage : Stage} {fire : Nat} {taken : List Nat}
    (member : .fired fire taken ∈ stage.tell.1) : stage.fires ≤ fire := by
  induction stage using Stage.tell.induct with
  | case1 stage ended =>
    rw [Stage.tell_of_ended ended] at member
    cases member
  | case2 stage happening after next ih =>
    have moves : stage.Moves _ _ := next
    rw [Stage.tell_of_next next] at member
    rcases List.mem_cons.mp member with rfl | later
    · exact Nat.le_of_eq moves.fired.1.symm
    · have bound := ih later
      rw [moves.fires_eq] at bound
      omega

/-- Whatever is run is due already, or a firing that is still to come takes it. -/
theorem due_or_fired_of_ran {stage : Stage} {fire : Nat} {callback : Numbered}
    (member : .ran fire callback ∈ stage.tell.1) :
    (fire, callback) ∈ dueOn stage.agenda ∨ ∃ taken, .fired fire taken ∈ stage.tell.1 := by
  induction stage using Stage.tell.induct with
  | case1 stage ended =>
    rw [Stage.tell_of_ended ended] at member
    cases member
  | case2 stage happening after next ih =>
    have moves : stage.Moves _ _ := next
    rw [Stage.tell_of_next next] at member ⊢
    rcases List.mem_cons.mp member with rfl | later
    · exact .inl (moves.ran ▸ .head _)
    · rcases ih later with due | ⟨taken, fired⟩
      · rcases moves.due due with before | ⟨same, -, fired⟩
        · exact .inl before
        · have same : fire = stage.fires := same
          refine .inr ⟨stage.waiting.map Numbered.number, ?_⟩
          rw [fired, same]
          exact .head _
      · exact .inr ⟨taken, .tail _ fired⟩

section Split

variable {stage following : Stage} {before : List Happening}

/-- A firing runs what waits when it begins, in the order of installation. -/
theorem Follows.firing (follows : Follows stage before) {fire : Nat} {taken : List Nat}
    (next : stage.next = some (.fired fire taken, following)) :
    fire = before.countP Happening.isFired ∧
      taken = (waitingAfter before).map Numbered.number ∧ taken.Pairwise (· < ·) ∧
      ranBy fire following.tell.1 = taken := by
  have moves : stage.Moves _ _ := next
  obtain ⟨number, waited, due⟩ := moves.fired
  have begun : fire < following.fires := by
    rw [moves.fires_eq, number]
    exact Nat.lt_succ_self _
  have others : dueBy fire (dueOn stage.agenda) = [] := by
    apply dueBy_eq_nil
    intro one member
    rw [number]
    exact Nat.ne_of_lt (follows.due one member)
  refine ⟨number.trans follows.fires, ?_, ?_, ?_⟩
  · rw [waited, follows.waiting]
  · rw [waited]
    exact follows.ascending
  · rw [ranBy_tell begun, due, dueBy_append, dueBy_taken, others, List.append_nil, waited]

theorem Balanced.not_ran_of_waiting {stage : Stage} {tale : List Happening}
    (balanced : Balanced stage tale) {callback : Numbered} (waits : callback ∈ stage.waiting) :
    callback.number ∉ ranIn tale ∧ callback.number ∉ numbersDue stage.agenda := by
  have once := balanced callback.number
  have present : 0 < (stage.waiting.map Numbered.number).count callback.number :=
    List.count_pos_iff.mpr (List.mem_map_of_mem waits)
  rw [if_pos (balanced.number_lt waits)] at once
  constructor
  · rw [← List.count_eq_zero]
    omega
  · rw [← List.count_eq_zero]
    omega

/-- A callback is run only by a firing that begins after its installation. -/
theorem Follows.installation (follows : Follows stage before) {callback : Numbered}
    (next : stage.next = some (.installed callback, following)) :
    callback.number = before.countP Happening.isInstalled ∧
      ∀ fire other, .ran fire other ∈ before ++ .installed callback :: following.tell.1 →
        other.number = callback.number →
        (∀ taken, .fired fire taken ∉ before) ∧
          ∃ taken, .fired fire taken ∈ following.tell.1 := by
  have moves : stage.Moves _ _ := next
  obtain ⟨number, waiting⟩ := moves.installed
  have onward := follows.moved moves
  have waits : callback ∈ following.waiting := by
    rw [waiting]
    exact List.mem_append_right _ (.head _)
  obtain ⟨notRan, notDue⟩ := onward.balanced.not_ran_of_waiting waits
  refine ⟨number.trans follows.installs, ?_⟩
  intro fire other member same
  have later : .ran fire other ∈ following.tell.1 := by
    rcases List.mem_append.mp member with early | late
    · refine absurd ?_ notRan
      rw [← same]
      exact List.mem_filterMap.mpr ⟨_, List.mem_append_left _ early, rfl⟩
    · rcases List.mem_cons.mp late with isInstallation | later
      · cases isInstallation
      · exact later
  have taken : ∃ taken, .fired fire taken ∈ following.tell.1 := by
    rcases due_or_fired_of_ran later with due | taken
    · refine absurd ?_ notDue
      rw [← same]
      exact List.mem_map.mpr ⟨_, due, rfl⟩
    · exact taken
  refine ⟨?_, taken⟩
  intro earlier fired
  obtain ⟨taken, again⟩ := taken
  have first := onward.fired fire earlier (List.mem_append_left _ fired)
  exact absurd (fires_le_of_fired again) (Nat.not_le_of_gt first)

end Split

/-- Where nothing is left to be done, each callback was run or dropped, or waits. -/
theorem Balanced.perm {stage : Stage} {tale : List Happening} (balanced : Balanced stage tale)
    (idle : stage.agenda = []) :
    (ranIn tale ++ droppedIn tale ++ stage.waiting.map Numbered.number).Perm
      (List.range stage.installs) := by
  rw [List.perm_iff_count]
  intro number
  have once := balanced number
  rw [idle] at once
  rw [List.count_append, List.count_append]
  refine once.trans ?_
  by_cases installed : number < stage.installs
  · rw [if_pos installed,
      List.count_eq_one_of_mem List.nodup_range (List.mem_range.mpr installed)]
  · rw [if_neg installed, List.count_eq_zero.mpr (mt List.mem_range.mp installed)]

theorem Follows.opening (deeds : List Deed) : Follows (.opening deeds) [] where
  waiting := rfl
  installs := rfl
  fires := rfl
  balanced := by
    intro number
    simp [Stage.opening, ranIn, droppedIn, numbersDue]
  known := ⟨nofun, by simp [Stage.opening], nofun⟩
  ascending := .nil
  due := by simp [Stage.opening]
  fired := nofun

theorem history_prefix {earlier deeds : List Deed} (begins : earlier <+: deeds) :
    history earlier <+: history deeds := by
  obtain ⟨rest, rfl⟩ := begins
  have joined : Stage.opening (earlier ++ rest) =
      (Stage.opening earlier).followedBy (rest.map .deed) := by
    simp [Stage.opening, Stage.followedBy]
  rw [history, history, joined, Stage.tell_followedBy]
  exact List.prefix_append _ _

/-- Exit callbacks are conserved.  A run is told happening by happening: what is told says the same
as the queue and leaves the same to wait.  After any deeds from outside, whatever callbacks do in
their turn, each installed callback was run or dropped or waits, and only one of these and once.
A firing runs those that waited when it began, in the order of installation, whatever happens
meanwhile, and a callback is run by no firing but one that begins after its installation. -/
theorem callbacks_conserved (deeds : List Deed) :
    let tale := history deeds
    let run := stepAll .empty deeds
    run.said = tale.filterMap Happening.words? ∧
    run.queue.pending = (waitingAfter tale).map Numbered.callback ∧
    (∀ earlier, earlier <+: deeds → history earlier <+: tale) ∧
    run.queue.installs = tale.countP Happening.isInstalled ∧
    (ranIn tale ++ droppedIn tale ++ (waitingAfter tale).map Numbered.number).Perm
      (List.range run.queue.installs) ∧
    (ranIn tale).Nodup ∧
    (∀ fire callback, .ran fire callback ∈ tale → .installed callback ∈ tale) ∧
    (∀ before fire taken after, tale = before ++ .fired fire taken :: after →
      fire = before.countP Happening.isFired ∧
        taken = (waitingAfter before).map Numbered.number ∧ taken.Pairwise (· < ·) ∧
        ranBy fire after = taken) ∧
    (∀ before dropped after, tale = before ++ .discarded dropped :: after →
      dropped = (waitingAfter before).map Numbered.number) ∧
    ∀ before callback after, tale = before ++ .installed callback :: after →
      callback.number = before.countP Happening.isInstalled ∧
        ∀ fire other, .ran fire other ∈ tale → other.number = callback.number →
          (∀ taken, .fired fire taken ∉ before) ∧ ∃ taken, .fired fire taken ∈ after := by
  intro tale run
  have told : run =
      ⟨(Stage.opening deeds).tell.2.queue, tale.filterMap Happening.words?⟩ :=
    @stepAll_eq ⟨[], 0, 0, []⟩ rfl deeds
  have ends := (Follows.opening deeds).reached (Stage.reaches_tell _)
  rw [List.nil_append] at ends
  have perm := ends.balanced.perm (Stage.agenda_tell _)
  rw [ends.waiting] at perm
  -- Wherever the tale is cut, the stage there follows what was told before.
  have cut {before : List Happening} {happening : Happening} {after : List Happening}
      (split : tale = before ++ happening :: after) :
      ∃ stage following, Follows stage before ∧ stage.next = some (happening, following) ∧
        following.tell.1 = after := by
    obtain ⟨stage, reaches, later⟩ := Stage.reaches_of_split split
    obtain ⟨following, next, rest⟩ := Stage.next_of_tell later
    exact ⟨stage, following, (Follows.opening deeds).reached reaches, next, rest⟩
  refine ⟨by rw [told], ?_, fun earlier => history_prefix, ?_, ?_, ?_, ends.known.ran, ?_, ?_, ?_⟩
  · rw [told, Stage.queue, ends.waiting]
    rfl
  · rw [told]
    exact ends.installs
  · rw [told]
    exact perm
  · have distinct := perm.nodup_iff.mpr List.nodup_range
    exact (List.nodup_append.mp (List.nodup_append.mp distinct).1).1
  · intro before fire taken after split
    obtain ⟨stage, following, follows, next, rfl⟩ := cut split
    exact follows.firing next
  · intro before dropped after split
    obtain ⟨stage, following, follows, next, rfl⟩ := cut split
    rw [Stage.Moves.discarded next, follows.waiting]
  · intro before callback after split
    obtain ⟨stage, following, follows, next, rfl⟩ := cut split
    rw [split]
    exact follows.installation next

end Reclaim.ExitQueue
