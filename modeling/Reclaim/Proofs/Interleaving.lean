import Reclaim.Proofs.Sweeps

/-!
# Walks at the same time

The containers of a listing may also be given up at the same time, request by
request in any order.  Each of them is then walked to its end all the same: what
is exchanged is put together from one walk for each container, and one after
another is only the simplest order in which that can happen.
-/

set_option autoImplicit false

namespace Reclaim

open Engine (ListedContainer)

/-! ## Interleaved exchanges -/

/-- A list that is put together from two others, each of them in its own order. -/
inductive Merged {α : Type} : List α → List α → List α → Prop where
  | none : Merged [] [] []
  | left {item : α} {first second whole : List α} (rest : Merged first second whole) :
      Merged (item :: first) second (item :: whole)
  | right {item : α} {first second whole : List α} (rest : Merged first second whole) :
      Merged first (item :: second) (item :: whole)

namespace Merged

variable {α : Type} {first second whole : List α}

theorem prepend_left (more : List α) (merged : Merged first second whole) :
    Merged (more ++ first) second (more ++ whole) := by
  induction more with
  | nil => exact merged
  | cons item rest ih => exact .left ih

theorem prepend_right (more : List α) (merged : Merged first second whole) :
    Merged first (more ++ second) (more ++ whole) := by
  induction more with
  | nil => exact merged
  | cons item rest ih => exact .right ih

end Merged

/-- What is exchanged on behalf of some items at the same time. -/
inductive Interleaved {β : Type} (part : β → List Exchange → Prop) :
    List β → List Exchange → Prop where
  | done : Interleaved part [] []
  | join {item : β} {rest : List β} {own others whole : List Exchange} (made : part item own)
      (rest_made : Interleaved part rest others) (merged : Merged own others whole) :
      Interleaved part (item :: rest) whole

namespace Interleaved

variable {β γ : Type} {part : β → List Exchange → Prop} {made : List Exchange}

theorem prepend {before after : List β} {item later : β} {more : List Exchange}
    (steps : ∀ own, part later own → part item (more ++ own))
    (interleaved : Interleaved part (before ++ later :: after) made) :
    Interleaved part (before ++ item :: after) (more ++ made) := by
  -- By induction on the items before it: none of the first exchanges is theirs.
  induction before generalizing made with
  | nil =>
    cases interleaved with
    | join own others merged => exact .join (steps _ own) others (merged.prepend_left more)
  | cons other rest ih =>
    cases interleaved with
    | join own others merged => exact .join own (ih others) (merged.prepend_right more)

theorem of_map {items : List γ} {name : γ → β}
    (interleaved : Interleaved part (items.map name) made) :
    Interleaved (fun item => part (name item)) items made := by
  induction items generalizing made with
  | nil =>
    cases interleaved
    exact .done
  | cons item rest ih =>
    cases interleaved with
    | join own others merged => exact .join own (ih others) merged

end Interleaved

/-! ## Interleaved procedures -/

namespace Procedure

/-- A procedure that makes the requests of several others, in any order; each of them goes on with
the replies to its own requests. -/
inductive Weaves : List (Procedure Unit) → Procedure Unit → Prop where
  | done {works : List (Procedure Unit)} (finished : ∀ work ∈ works, work = .done ()) :
      Weaves works (.done ())
  | ask (before : List (Procedure Unit)) {after : List (Procedure Unit)} {request : Request}
      {next rest : request.Reply → Procedure Unit}
      (step : ∀ reply, Weaves (before ++ next reply :: after) (rest reply)) :
      Weaves (before ++ .ask request next :: after) (.ask request rest)

theorem Weaves.finished {works : List (Procedure Unit)} {work : Procedure Unit}
    (weaves : Weaves works work) : Weaves (.done () :: works) work := by
  induction weaves with
  | done finished => exact .done (List.forall_mem_cons.mpr ⟨rfl, finished⟩)
  | ask before step ih => exact .ask (.done () :: before) ih

/-- Carrying one procedure out before the others are begun is one such order. -/
theorem Weaves.first {works : List (Procedure Unit)} {others : Procedure Unit}
    (weaves : Weaves works others) (work : Procedure Unit) :
    Weaves (work :: works) (work.bind fun _ => others) := by
  induction work with
  | done value => exact weaves.finished
  | ask request next ih => exact .ask [] ih

theorem weaves_each {β : Type} (work : β → Procedure Unit) (items : List β) :
    Weaves (items.map work) (each work items) := by
  induction items with
  | nil => exact .done (List.forall_mem_nil _)
  | cons item rest ih => exact ih.first (work item)

theorem exchanges_acted_cons (acts : List HolderAct) (moment : Moment) (tale : List Moment) :
    exchanges (acts.map .acted ++ moment :: tale) =
      exchanges [moment] ++ exchanges tale := by
  rw [exchanges_append, exchanges_acted, List.nil_append, ← exchanges_append,
    List.singleton_append]

theorem interleaved_of_finished {jobs : List (Procedure Unit × (List Exchange → Prop))}
    (finished : ∀ work ∈ jobs.map Prod.fst, work = .done ())
    (ensured : ∀ job ∈ jobs, job.1.Ensures fun tale _ => job.2 (exchanges tale)) :
    Interleaved Prod.snd jobs [] := by
  induction jobs with
  | nil => exact .done
  | cons job rest ih =>
    have made := ensured job (.head _)
    rw [finished job.1 (.head _), ensures_done] at made
    have others := ih (fun work member => finished work (.tail _ member))
      fun other member => ensured other (.tail _ member)
    exact .join made others .none

/-- What each of several procedures exchanges by itself is interleaved when they are woven. -/
theorem Weaves.ensures {jobs : List (Procedure Unit × (List Exchange → Prop))}
    {work : Procedure Unit} (weaves : Weaves (jobs.map Prod.fst) work)
    (ensured : ∀ job ∈ jobs, job.1.Ensures fun tale _ => job.2 (exchanges tale)) :
    work.Ensures fun tale _ => Interleaved Prod.snd jobs (exchanges tale) := by
  -- A step changes one of the procedures, and what is to be said of its exchanges with it.
  generalize same : jobs.map Prod.fst = works at weaves
  induction weaves generalizing jobs with
  | done finished =>
    subst same
    exact interleaved_of_finished finished ensured
  | @ask before after request next rest step ih =>
    obtain ⟨early, others, rfl, rfl, sameOthers⟩ := List.map_eq_append_iff.mp same
    obtain ⟨⟨first, part⟩, late, rfl, rfl, rfl⟩ := List.map_eq_cons_iff.mp sameOthers
    intro acts reply undisturbed
    have begun : (next reply).Ensures fun tale _ =>
        part (exchanges (acts.map .acted ++ .answered request reply :: tale)) :=
      ensured _ (List.mem_append_right _ (.head _)) acts reply undisturbed
    have resumed : ∀ job ∈ early ++
        (next reply, fun own => part (exchanges [.answered request reply] ++ own)) :: late,
        job.1.Ensures fun tale _ => job.2 (exchanges tale) := by
      intro job member
      rcases List.mem_append.mp member with inEarly | member
      · exact ensured job (List.mem_append_left _ inEarly)
      · rcases List.mem_cons.mp member with rfl | inLate
        · simpa only [exchanges_acted_cons] using begun
        · exact ensured job (List.mem_append_right _ (.tail _ inLate))
    have woven := ih reply resumed (by simp)
    refine woven.mono ?_
    intro tale _ interleaved
    dsimp only
    rw [exchanges_acted_cons]
    exact interleaved.prepend fun own made => made

end Procedure

/-! ## The walks of a sweep -/

theorem weaves_containers (listed : List ListedContainer) :
    Procedure.Weaves (listed.map Sweep.walk) (Sweep.containers listed) :=
  Procedure.weaves_each Sweep.walk listed

/-- In whatever order the requests of the walks for a listing are made, what is exchanged is put
together from one walk for each of its containers. -/
theorem walks_ensures {listed : List ListedContainer} {work : Procedure Unit}
    (weaves : Procedure.Weaves (listed.map Sweep.walk) work) :
    work.Ensures fun tale _ => Interleaved Walk listed (exchanges tale) := by
  have jobs : (listed.map fun container => (Sweep.walk container, Walk container)).map Prod.fst =
      listed.map Sweep.walk := List.map_map
  have ensured : ∀ job ∈ listed.map fun container => (Sweep.walk container, Walk container),
      job.1.Ensures fun tale _ => job.2 (exchanges tale) := by
    intro job member
    obtain ⟨container, -, rfl⟩ := List.mem_map.mp member
    exact walk_ensures container
  rw [← jobs] at weaves
  refine (weaves.ensures ensured).mono ?_
  intro tale _ interleaved
  exact interleaved.of_map

end Reclaim
