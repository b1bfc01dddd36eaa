import Reclaim.Proofs.Form
import Reclaim.Proofs.Handover
import Reclaim.Proofs.Takeover

/-!
# What a watchdog is told and what is swept for

The identifying labels leave a process in two ways: as a form, in the line that a
watchdog is told, and as filters, in the calls of the sweeps that are made when
no watchdog has taken over.  Both come from the one selector that a custody is
set up with, and both mean the same labels (`lines_agree_with_sweeps`).
-/

set_option autoImplicit false

namespace Reclaim

open Engine (SweepKind)

/-! ## Lines -/

namespace Wire

theorem eq_of_ended_prefix {line body : List UInt8} (unbroken : 0x0a ∉ body)
    (begins : line ++ [0x0a] <+: body ++ [0x0a]) : line = body := by
  -- A beginning that is shorter than the line does not reach its end, the only line feed.
  rcases List.prefix_concat_iff.mp begins with whole | within
  · exact List.append_cancel_right whole
  · exact absurd (within.subset (List.mem_append_right line (.head _))) unbroken

/-- A line that is written as a whole is the form of the selector. -/
theorem line_of_register {selector : Selector} {stream : Stream} {line : List UInt8}
    (written : (register selector stream).stream.written = stream.written ++ (line ++ [0x0a])) :
    line = Form.query selector := by
  obtain ⟨sent, appended, begins⟩ := sendQuery_appends selector stream
  rw [← written_register, written] at appended
  rw [← List.append_cancel_left appended] at begins
  exact eq_of_ended_prefix (Form.lineFeed_notMem_query selector) begins

end Wire

/-! ## The identifying labels -/

namespace Custody

theorem ofSettings_ok_iff {settings : Settings} :
    (∃ custody, ofSettings settings = .ok custody) ↔
      ∀ label ∈ settings.labels.entries, label.1 ≠ "" := by
  constructor
  · rintro ⟨custody, opened⟩
    exact Selector.named_of_ofLabels (eq_of_ofSettings opened).1
  · intro named
    rw [ofSettings, Selector.ofLabels_of_named named]
    exact ⟨_, rfl⟩

def ownFilters (custody : Custody) : List String :=
  custody.labels.entries.map fun label => Clause.labelText label.1 label.2

variable {settings : Settings} {custody : Custody}

theorem labelFilters_selector (opened : ofSettings settings = .ok custody) :
    custody.selector.labelFilters = custody.ownFilters := by
  obtain ⟨made, whole⟩ := eq_of_ofSettings opened
  have sameLabels : custody.labels = settings.labels := by rw [whole]
  rw [ownFilters, sameLabels]
  exact Selector.labelFilters_ofLabels made

theorem pairs_query_selector (opened : ofSettings settings = .ok custody) :
    Wire.Form.pairs (Wire.Form.query custody.selector) =
      custody.ownFilters.map fun filter => (labelKey, filter) := by
  obtain ⟨-, clauses⟩ := Selector.ofLabels_eq_ok_iff.mp (eq_of_ofSettings opened).1
  have sameLabels : custody.labels = settings.labels := by rw [(eq_of_ofSettings opened).2]
  rw [Wire.Form.pairs_query, ownFilters, sameLabels, clauses, List.map_map, List.map_map]
  rfl

end Custody

/-! ## Runs -/

theorem sweepPlan_cons (selector : Selector) (others : List Selector) :
    sweepPlan (selector :: others) =
      SweepKind.all.flatMap fun kind =>
        selector.asks kind ++ others.flatMap fun other => other.asks kind := rfl

namespace Scene

variable {ω : Type} {engine : Engine ω} {start scene : Scene ω} {tale : List Moment}

theorem Departs.selector_eq (departs : start.Departs engine tale scene) :
    scene.custody.selector = start.custody.selector := by
  rw [departs.custody_eq, Custody.selector_foldl]

theorem Departs.labels_eq (departs : start.Departs engine tale scene) :
    scene.custody.labels = start.custody.labels := by
  rw [departs.custody_eq, Custody.labels_foldl]

theorem Departs.testament_drained (departs : start.Departs engine tale scene) :
    (scene.drained engine).custody.testament =
      start.custody.testament ++ bequests (tale ++ scene.draining engine) := by
  rw [custody_drained, departs.custody_eq, ← List.foldl_append, Custody.testament_foldl_eq]

end Scene

/-- A watchdog is told just what the process would sweep for in its place.  There is a custody for
all labels with names that are not empty.  At whatever point of a run a watchdog is told what to
watch, and however the stream behaves, a line that is written as a whole is read back as clauses
on labels, and these are the identifying labels in the order of their names.  Where no watchdog has
taken over by the end of its drain, an exit cleanup hands the same filters to the engine for the
first selector of the testament, in all calls that it makes for it. -/
theorem lines_agree_with_sweeps {ω : Type} {engine : Engine ω} {settings : Settings}
    {custody : Custody} (opened : Custody.ofSettings settings = .ok custody) {world : ω}
    {tale : List Moment} {scene : Scene ω}
    (departs : (Scene.opening custody world).Departs engine tale scene) :
    (∀ other : Settings, (∃ custody, Custody.ofSettings other = .ok custody) ↔
      ∀ label ∈ other.labels.entries, label.1 ≠ "") ∧
    scene.custody.labels = settings.labels ∧
    (∀ network stream,
      let registration := Wire.register custody.selector stream
      (∃ after, scene.follow engine network (.attach stream) =
        (.registered registration, after)) ∧
      (∀ line, registration.stream.written = stream.written ++ (line ++ [0x0a]) →
        Wire.Form.pairs line = scene.custody.ownFilters.map fun filter => (labelKey, filter)) ∧
      (stream.Reliable →
        ∃ line, registration.stream.written = stream.written ++ (line ++ [0x0a]))) ∧
    ((scene.drained engine).custody.watched = false →
      ∃ others, (scene.drained engine).custody.testament = custody.selector :: others ∧
        sweepCalls (exchanges (Scene.chronicle engine Custody.exitCleanup scene)) =
          SweepKind.all.flatMap fun kind =>
            (if scene.custody.ownFilters = [] then [] else [kind.call scene.custody.ownFilters]) ++
              others.flatMap fun other => other.asks kind) := by
  have sameSelector : scene.custody.selector = custody.selector := departs.selector_eq
  have sameLabels : scene.custody.labels = custody.labels := departs.labels_eq
  have sameFilters : scene.custody.ownFilters = custody.ownFilters := by
    rw [Custody.ownFilters, sameLabels, Custody.ownFilters]
  rw [sameFilters]
  refine ⟨fun other => Custody.ofSettings_ok_iff, ?_, ?_, ?_⟩
  · rw [sameLabels, (Custody.eq_of_ofSettings opened).2]
  · intro network stream
    refine ⟨?_, ?_, ?_⟩
    · rw [← sameSelector, ← Scene.registration_attach]
      exact ⟨_, rfl⟩
    · intro line written
      rw [Wire.line_of_register written]
      exact Custody.pairs_query_selector opened
    · intro reliable
      exact ⟨_, (reliable.register custody.selector).2.1⟩
  · intro unwatched
    have testament : (scene.drained engine).custody.testament =
        custody.selector :: bequests (tale ++ scene.draining engine) := by
      rw [departs.testament_drained]
      exact congrArg (· ++ _) (Custody.ofSettings_ok opened).1
    refine ⟨_, testament, ?_⟩
    rw [Scene.sweepCalls_exitCleanup, unwatched, testament, if_neg Bool.false_ne_true,
      sweepPlan_cons]
    simp only [Selector.asks, Custody.labelFilters_selector opened]

namespace Bequest

open Scene
open Engine.Simulated (World)

/-- A watchdog that is told of a label, and the listing that is asked for if it does not take
over. -/
theorem lines_agree_with_sweeps_blue :
    Custody.ofSettings settings = .ok custody ∧
      start.Departs Engine.Simulated.engine [] start ∧
      (start.drained Engine.Simulated.engine).custody.watched = false ∧
      Wire.Form.pairs (Wire.Form.query custody.selector) = [("label", "team=blue")] ∧
      .listContainers ["team=blue"] ∈
        calls (chronicle Engine.Simulated.engine Custody.exitCleanup start) := by
  have departs : start.Departs Engine.Simulated.engine [] start := .asked .start
  have unwatched : (start.drained Engine.Simulated.engine).custody.watched = false := by
    decide +kernel
  obtain ⟨-, -, told, swept⟩ := lines_agree_with_sweeps opened departs
  obtain ⟨-, decoded, -⟩ := told Wire.Network.unreachable obliging
  obtain ⟨others, -, asked⟩ := swept unwatched
  refine ⟨opened, departs, unwatched, decoded _ (Wire.written_of_register answered), ?_⟩
  refine (mem_sweepCalls.mp ?_).1
  rw [asked]
  exact .head _

end Bequest

end Reclaim
