import Mathlib.Data.List.Forall2
import Reclaim.Engine.Client

/-!
# Commands and what they are answered

A call to an engine behind a client program is answered from one command: from
its output if it succeeds, and from its complaint otherwise.  Either the command
is run (`Runs`) or it cannot be started.  The listings among the answers are
made of the records that the lines of an output write (`decodeLines_eq_ok_iff`).
-/

set_option autoImplicit false

namespace Reclaim

/-! ## Steps that can fail -/

section Steps

variable {α β ε : Type} {step : α → Except ε β}

theorem mapM_eq_ok_iff {items : List α} {values : List β} :
    items.mapM step = .ok values ↔
      List.Forall₂ (fun item value => step item = .ok value) items values := by
  induction items generalizing values with
  | nil =>
    rw [List.mapM_nil, List.forall₂_nil_left_iff]
    constructor
    · intro same
      cases same
      rfl
    · rintro rfl
      rfl
  | cons item rest ih =>
    rw [List.mapM_cons, List.forall₂_cons_left_iff]
    cases first : step item with
    | error fault =>
      constructor
      · intro same
        cases same
      · rintro ⟨value, later, same, -⟩
        cases same
    | ok value =>
      constructor
      · intro same
        cases others : rest.mapM step with
        | error fault =>
          rw [others] at same
          cases same
        | ok later =>
          rw [others] at same
          cases same
          exact ⟨value, later, rfl, ih.mp others, rfl⟩
      · rintro ⟨other, later, same, others, rfl⟩
        cases same
        rw [ih.mpr others]
        rfl

theorem exists_of_forall₂ {relation : α → β → Prop} {items : List α} {values : List β}
    (paired : List.Forall₂ relation items values) :
    ∀ item ∈ items, ∃ value, relation item value := by
  induction paired with
  | nil => exact List.forall_mem_nil _
  | cons first others ih => exact List.forall_mem_cons.mpr ⟨⟨_, first⟩, ih⟩

theorem mapM_eq_error_iff {items : List α} {fault : ε} :
    items.mapM step = .error fault ↔
      ∃ early item late, items = early ++ item :: late ∧
        (∀ other ∈ early, ∃ value, step other = .ok value) ∧ step item = .error fault := by
  induction items with
  | nil => simp [pure, Except.pure]
  | cons item rest ih =>
    rw [List.mapM_cons]
    cases first : step item with
    | error other =>
      constructor
      · intro same
        cases same
        exact ⟨[], item, rest, rfl, by simp, first⟩
      · rintro ⟨early, bad, late, split, good, failed⟩
        cases early with
        | nil =>
          cases split
          rw [first] at failed
          cases failed
          rfl
        | cons head early =>
          cases split
          obtain ⟨value, went⟩ := good item (.head _)
          rw [first] at went
          cases went
    | ok value =>
      have passed : (rest.mapM step >>= fun later => pure (value :: later)) = .error fault ↔
          rest.mapM step = .error fault := by
        cases rest.mapM step with
        | error other => exact Iff.rfl
        | ok later => exact ⟨nofun, nofun⟩
      refine passed.trans ?_
      rw [ih]
      constructor
      · rintro ⟨early, bad, late, rfl, good, failed⟩
        refine ⟨item :: early, bad, late, rfl, ?_, failed⟩
        intro other member
        rcases List.mem_cons.mp member with rfl | later
        · exact ⟨value, first⟩
        · exact good other later
      · rintro ⟨early, bad, late, split, good, failed⟩
        cases early with
        | nil =>
          cases split
          rw [first] at failed
          cases failed
        | cons head early =>
          cases split
          exact ⟨early, bad, late, rfl, fun other member => good other (.tail _ member), failed⟩

theorem map_eq_ok_iff {outcome : Except ε α} {f : α → β} {value : β} :
    outcome.map f = .ok value ↔ ∃ inner, outcome = .ok inner ∧ value = f inner := by
  cases outcome with
  | error fault => exact ⟨nofun, nofun⟩
  | ok inner => simp [Except.map, eq_comm]

theorem error_of_map {outcome : Except ε α} {f : α → β} {fault : ε}
    (failed : outcome.map f = .error fault) : outcome = .error fault := by
  cases outcome with
  | error other =>
    cases failed
    rfl
  | ok value => cases failed

end Steps

namespace Engine.Client

/-! ## Commands -/

section Commands

variable {ω : Type}

/-- The command of a call is run, with some result. -/
structure Runs (shell : Shell ω) (program : String) (call : Call) (world : ω)
    (result : CommandResult) : Prop where
  writable : ∀ argument ∈ program :: arguments call, '\x00' ∉ argument.toList
  ran : (shell.run program (arguments call) world).1 = .ok result

variable {shell : Shell ω} {program : String} {call : Call} {world : ω}
  {result : CommandResult}

theorem Runs.turn_eq (runs : Runs shell program call world result) :
    engine shell program call world =
      ⟨readResult call result, (shell.run program (arguments call) world).2, [],
        [.runningCommand program (arguments call)], [arguments call]⟩ := by
  have clean : ((program :: arguments call).any fun argument =>
      argument.toList.contains '\x00') = false := by
    rw [List.any_eq_false]
    intro argument member
    simpa using runs.writable argument member
  have ran := runs.ran
  unfold engine
  simp only [clean, Bool.false_eq_true, if_false]
  split
  next reason after started =>
    rw [started] at ran
    cases ran
  next other after started =>
    rw [started] at ran
    cases ran
    rw [started]

theorem Runs.answer_eq (runs : Runs shell program call world result) :
    (engine shell program call world).answer = readResult call result := by
  rw [runs.turn_eq]

theorem Runs.unique {other : CommandResult} (runs : Runs shell program call world result)
    (again : Runs shell program call world other) : other = result := by
  have same := again.ran.symm.trans runs.ran
  injection same

/-- A command that is not run could not be started, for some reason. -/
theorem runs_or_unstarted (shell : Shell ω) (program : String) (call : Call) (world : ω) :
    (∃ result, Runs shell program call world result) ∨
      ∃ reason, (engine shell program call world).answer =
        .error (unstarted program call reason) := by
  by_cases unwritable : ((program :: arguments call).any fun argument =>
      argument.toList.contains '\x00') = true
  · refine .inr ⟨"nul byte found in provided data", ?_⟩
    unfold engine
    simp only [unwritable, if_true]
  · cases started : shell.run program (arguments call) world with
    | mk outcome after =>
      cases outcome with
      | error reason =>
        refine .inr ⟨reason, ?_⟩
        unfold engine
        simp only [unwritable, Bool.false_eq_true, if_false, started]
      | ok result =>
        refine .inl ⟨result, ⟨?_, congrArg Prod.fst started⟩⟩
        intro argument member holdsZero
        apply unwritable
        rw [List.any_eq_true]
        exact ⟨argument, member, by simpa using holdsZero⟩

theorem answer_eq_ok_iff {value : call.Value} :
    (engine shell program call world).answer = .ok value ↔
      ∃ result, Runs shell program call world result ∧ result.ending = .exited 0 ∧
        readOutput (Text.Utf8.lenientChars result.stdout) call = .ok value := by
  constructor
  · intro answered
    rcases runs_or_unstarted shell program call world with ⟨result, runs⟩ | ⟨reason, unstarted⟩
    · rw [runs.answer_eq, readResult] at answered
      by_cases succeeded : result.ending = .exited 0
      · rw [if_pos succeeded] at answered
        exact ⟨result, runs, succeeded, answered⟩
      · rw [if_neg succeeded] at answered
        cases answered
    · rw [unstarted] at answered
      cases answered
  · rintro ⟨result, runs, succeeded, read⟩
    rw [runs.answer_eq, readResult, if_pos succeeded, read]

end Commands

/-! ## Records -/

section Records

variable {operation : String} {layout : Json.Layout} {output : List Char}

/-- The records of an output are those that its lines write, in order. -/
theorem decodeLines_eq_ok_iff {rows : List Json.Row} :
    decodeLines operation layout output = .ok rows ↔
      List.Forall₂ (fun line row => layout.decode line = .ok row) (recordLines output) rows := by
  have decoded (line : List Char) (row : Json.Row) :
      (layout.decode line).mapError (fun refusal =>
        (Report.bare (.undecodable operation refusal.message)).attach (String.ofList line)) =
          .ok row ↔ layout.decode line = .ok row := by
    cases layout.decode line with
    | error refusal => exact ⟨nofun, nofun⟩
    | ok other => simp [Except.mapError]
  rw [decodeLines, mapM_eq_ok_iff]
  simp only [decoded]

/-- An output makes no sense because of the first of its lines that writes no record. -/
theorem decodeLines_eq_error_iff {report : Report} :
    decodeLines operation layout output = .error report ↔
      ∃ early line late refusal, recordLines output = early ++ line :: late ∧
        (∀ other ∈ early, ∃ row, layout.decode other = .ok row) ∧
        layout.decode line = .error refusal ∧
        report = ⟨.undecodable operation refusal.message, [String.ofList line]⟩ := by
  rw [decodeLines, mapM_eq_error_iff]
  constructor
  · rintro ⟨early, line, late, split, good, failed⟩
    cases decoded : layout.decode line with
    | ok row =>
      rw [decoded] at failed
      cases failed
    | error refusal =>
      rw [decoded] at failed
      cases failed
      refine ⟨early, line, late, refusal, split, ?_, decoded, rfl⟩
      intro other member
      obtain ⟨row, went⟩ := good other member
      cases again : layout.decode other with
      | ok row => exact ⟨row, rfl⟩
      | error refusal =>
        rw [again] at went
        cases went
  · rintro ⟨early, line, late, refusal, split, good, failed, rfl⟩
    refine ⟨early, line, late, split, ?_, ?_⟩
    · intro other member
      obtain ⟨row, decoded⟩ := good other member
      exact ⟨row, by rw [decoded]; rfl⟩
    · rw [failed]
      rfl

end Records

end Engine.Client

end Reclaim
