import Reclaim.Engine.Scripted
import Reclaim.Proofs.Client
import Reclaim.Proofs.Handover
import Reclaim.Proofs.Quiet
import Reclaim.Proofs.Utf8

/-!
# How an absence is told

A client program says in words that a resource does not exist.  Certain words
are taken for that wherever a command about a resource fails with them
(`answer_of_failed`), and the complaint need not mention the resource at all.
Giving up a container ends there, as if the container were gone.
-/

set_option autoImplicit false

namespace Reclaim

open Engine (Call CommandResult Report Shell)
open Procedure

namespace Engine.Client

/-! ## Complaints -/

def Failed (result : CommandResult) : Prop := result.ending ≠ .exited 0

instance (result : CommandResult) : Decidable (Failed result) :=
  inferInstanceAs (Decidable (_ ≠ _))

def complaint (result : CommandResult) : String :=
  Text.trimmed (Text.Utf8.lenient result.stderr)

/-- A failed command whose complaint has the words by which an absence is told. -/
def TellsMissing (result : CommandResult) : Prop :=
  Failed result ∧ saysMissing (complaint result) = true

instance (result : CommandResult) : Decidable (TellsMissing result) :=
  inferInstanceAs (Decidable (_ ∧ _))

/-- Whether a text stands anywhere in what a client program wrote to its error stream. -/
def Mentions (result : CommandResult) (text : String) : Prop :=
  text.toList <:+: Text.Utf8.lenientChars result.stderr

instance (result : CommandResult) (text : String) : Decidable (Mentions result text) :=
  inferInstanceAs (Decidable (_ <:+: _))

/-! ## What a failure is taken for -/

variable {ω : Type} {shell : Shell ω} {program : String} {call : Call} {world : ω}
  {result : CommandResult}

/-- The answer to a call whose command failed: the absence of the resource that the call is about,
or the failure of the call. -/
theorem answer_of_failed (runs : Runs shell program call world result) (failed : Failed result) :
    (engine shell program call world).answer = .error
      (match target? call, saysMissing (complaint result) with
        | some (kind, id), true => ⟨.notFound kind id, [complaint result]⟩
        | _, _ => ⟨.transport (operationName call) (complaint result),
            ["exit status: " ++ result.ending.text]⟩) := by
  rw [runs.answer_eq, readResult, if_neg failed, failureReport, ← complaint]
  congr 1
  cases target? call with
  | none => rfl
  | some target => cases saysMissing (complaint result) <;> rfl

theorem decodeLines_not_missing {operation : String} {layout : Json.Layout} {output : List Char}
    {report : Report} (undecodable : decodeLines operation layout output = .error report) :
    report.isNotFound = false := by
  obtain ⟨early, line, late, refusal, -, -, -, rfl⟩ := decodeLines_eq_error_iff.mp undecodable
  rfl

/-- A command that succeeds never tells of an absence, whatever its output. -/
theorem readOutput_not_missing {output : List Char} {report : Report}
    (stopped : readOutput output call = .error report) : report.isNotFound = false := by
  cases call with
  | inspect id =>
    simp only [readOutput] at stopped
    split at stopped
    next other undecodable =>
      cases stopped
      exact decodeLines_not_missing undecodable
    next =>
      cases stopped
      rfl
    next => cases stopped
  | listContainers labels => exact decodeLines_not_missing (error_of_map stopped)
  | listNetworks id => exact decodeLines_not_missing (error_of_map stopped)
  | _ => cases stopped

/-- An absence is told of the resource that a call is about, and by a complaint. -/
theorem notFound_iff {report : Report}
    (answered : (engine shell program call world).answer = .error report) :
    report.isNotFound = true ↔ ∃ kind id result, target? call = some (kind, id) ∧
      Runs shell program call world result ∧ TellsMissing result ∧
      report = ⟨.notFound kind id, [complaint result]⟩ := by
  constructor
  · intro missing
    rcases runs_or_unstarted shell program call world with ⟨result, runs⟩ | ⟨reason, unstarted⟩
    · by_cases failed : Failed result
      · have told := answer_of_failed runs failed
        rw [answered] at told
        split at told
        next kind id about missed =>
          cases told
          exact ⟨kind, id, result, about, runs, ⟨failed, missed⟩, rfl⟩
        next =>
          cases told
          cases missing
      · have read := runs.answer_eq
        rw [answered, readResult, if_pos (not_not.mp failed)] at read
        rw [readOutput_not_missing read.symm] at missing
        cases missing
    · rw [answered] at unstarted
      cases unstarted
      cases missing
  · rintro ⟨kind, id, result, -, -, -, rfl⟩
    rfl

end Engine.Client

/-! ## Giving up on it -/

section Walk

variable {ω : Type} {engine : Engine ω} {scene : Scene ω} {id : String} {report : Report}

/-- When the first look at a container fails, its removal ends with that look. -/
theorem container_of_look (looked : (engine (.inspect id) scene.world).answer = .error report)
    (label : Option String) :
    (scene.carryOut engine (Removal.container id label)).1 =
        (if report.isNotFound then .alreadyGone else .gaveUp) ∧
      calls (Scene.chronicle engine (Removal.container id label) scene) = [.inspect id] := by
  have answered : (Scene.reply engine (.call (.inspect id)) scene).1 = .error report := looked
  simp only [Removal.container, bind_eq, pure_eq, call_eq, log_eq, bind_ask, bind_done,
    Scene.carryOut_ask, Scene.chronicle_ask, calls]
  rw [answered]
  cases missing : report.isNotFound <;>
    simp [missing, Scene.chronicle_ask, Scene.interruptions]

theorem stopContainer_of_look
    (looked : (engine (.inspect id) scene.world).answer = .error report) (label : Option String) :
    (scene.carryOut engine (Custody.stopContainer id label)).1 =
        (if report.isNotFound then .alreadyGone else .gaveUp) ∧
      calls (Scene.chronicle engine (Custody.stopContainer id label) scene) = [.inspect id] ∧
      (scene.carryOut engine (Custody.stopContainer id label)).2.custody.inventory.contains
        .container id = false := by
  obtain ⟨outcome, called⟩ :=
    container_of_look looked (label <|> scene.custody.inventory.label? id)
  have unfolded : Custody.stopContainer id label = .ask (.label id) fun held =>
      (Removal.container id (label <|> held)).bind fun outcome =>
        .ask (.forget .container id) fun _ => .done outcome := rfl
  rw [unfolded, Scene.carryOut_ask, Scene.chronicle_ask, Scene.carryOut_bind,
    Scene.chronicle_bind]
  refine ⟨outcome, ?_, ?_⟩
  · simpa [calls, Scene.chronicle_ask, Scene.interruptions, Scene.reply] using called
  · simp [Scene.reply, Custody.forget, Inventory.contains_erase]

end Walk

open Engine.Client in
/-- A command that fails is taken for the absence of the resource that its call is about exactly if
it complains in the words of an absence.  So every absence is told by a complaint that mentions the
resource if and only if no other complaint has these words; and a container is given up as gone,
rather than left alone, whenever the first look at it fails with these words. -/
theorem absence_told {ω : Type} (shell : Shell ω) (program : String) :
    (∀ call world result, Runs shell program call world result → Failed result →
      (engine shell program call world).answer = .error
        (match target? call, saysMissing (complaint result) with
          | some (kind, id), true => ⟨.notFound kind id, [complaint result]⟩
          | _, _ => ⟨.transport (operationName call) (complaint result),
              ["exit status: " ++ result.ending.text]⟩)) ∧
    ((∀ call world kind id notes,
        (engine shell program call world).answer = .error ⟨.notFound kind id, notes⟩ →
        ∃ result, Runs shell program call world result ∧ Mentions result id) ↔
      ∀ call world result kind id, target? call = some (kind, id) →
        Runs shell program call world result → TellsMissing result → Mentions result id) ∧
    ∀ (scene : Scene ω) id label result,
      Runs shell program (.inspect id) scene.world result → Failed result →
      let given := scene.carryOut (engine shell program) (Custody.stopContainer id label)
      given.1 = (if TellsMissing result then .alreadyGone else .gaveUp) ∧
        calls (Scene.chronicle (engine shell program) (Custody.stopContainer id label) scene) =
          [.inspect id] ∧
        given.2.custody.inventory.contains .container id = false := by
  refine ⟨?_, ?_, ?_⟩
  · intro call world result runs failed
    exact answer_of_failed runs failed
  · constructor
    · intro mentioned call world result kind id about runs missing
      have told := answer_of_failed runs missing.1
      rw [about, missing.2] at told
      obtain ⟨other, ran, mentions⟩ := mentioned call world kind id _ told
      rwa [runs.unique ran] at mentions
    · intro spared call world kind id notes told
      obtain ⟨otherKind, other, result, about, runs, missing, same⟩ := (notFound_iff told).mp rfl
      cases same
      exact ⟨result, runs, spared call world result kind id about runs missing⟩
  · intro scene id label result runs failed
    have told := answer_of_failed runs failed
    have taken := stopContainer_of_look told label
    cases missed : saysMissing (complaint result) with
    | true =>
      rw [if_pos ⟨failed, missed⟩]
      simpa [target?, missed, Report.isNotFound, Engine.Fault.isNotFound] using taken
    | false =>
      have present : ¬ TellsMissing result := fun missing => by
        rw [missing.2] at missed
        cases missed
      rw [if_neg present]
      simpa [target?, missed, Report.isNotFound, Engine.Fault.isNotFound] using taken

/-! ### An engine that nobody can reach -/

namespace Bequest

open Engine.Client Engine.Scripted Text.Utf8

def unreachable : String :=
  "error during connect: dial unix /var/run/docker.sock: connect: no such file or directory"

def refusing : CommandResult := ⟨[], encode unreachable, .exited 1⟩

def unreachableShell : Shell (List Reply) := shell "docker" fun _ => "not found"

def cutOff : Scene (List Reply) :=
  .opening (custody.hold ⟨.container, "c1", "redis:7"⟩) [⟨["inspect"], none, refusing, false⟩]

theorem runs_unreachable :
    Runs unreachableShell "docker" (.inspect "c1") cutOff.world refusing := by
  refine ⟨?_, rfl⟩
  decide +kernel

theorem failed_refusing : Failed refusing := by
  decide

theorem complaint_refusing : complaint refusing = unreachable := by
  rw [complaint, refusing, lenient_encode]
  decide +kernel

theorem saysMissing_unreachable : saysMissing unreachable = true := by
  decide +kernel

theorem unmentioned_refusing : ¬ Mentions refusing "c1" := by
  rw [Mentions, refusing, lenientChars_encode]
  decide +kernel

/-- A container that the engine cannot be asked about is taken for gone. -/
theorem unreachable_taken_for_gone :
    Runs unreachableShell "docker" (.inspect "c1") cutOff.world refusing ∧ Failed refusing ∧
      ¬ Mentions refusing "c1" ∧
      (engine unreachableShell "docker" (.inspect "c1") cutOff.world).answer =
        .error ⟨.notFound .container "c1", [unreachable]⟩ ∧
      cutOff.custody.inventory.contains .container "c1" = true ∧
      let given := cutOff.carryOut (engine unreachableShell "docker")
        (Custody.stopContainer "c1" none)
      given.1 = .alreadyGone ∧ given.2.custody.inventory.contains .container "c1" = false := by
  have told := answer_of_failed runs_unreachable failed_refusing
  rw [complaint_refusing, saysMissing_unreachable] at told
  obtain ⟨outcome, -, unheld⟩ := stopContainer_of_look told none
  exact ⟨runs_unreachable, failed_refusing, unmentioned_refusing, told, rfl, outcome, unheld⟩

def refusingPlainly : CommandResult := ⟨[], encode "Cannot connect to the Docker daemon", .exited 1⟩

def leftAlone : Scene (List Reply) :=
  .opening (custody.hold ⟨.container, "c1", "redis:7"⟩)
    [⟨["inspect"], none, refusingPlainly, false⟩]

theorem untold_refusingPlainly : ¬ TellsMissing refusingPlainly := by
  rintro ⟨-, missing⟩
  rw [complaint, refusingPlainly, lenient_encode] at missing
  revert missing
  decide +kernel

theorem absence_told_refusingPlainly :
    Runs unreachableShell "docker" (.inspect "c1") leftAlone.world refusingPlainly ∧
      Failed refusingPlainly ∧
      let given := leftAlone.carryOut (engine unreachableShell "docker")
        (Custody.stopContainer "c1" none)
      given.1 = .gaveUp ∧
        calls (Scene.chronicle (engine unreachableShell "docker")
          (Custody.stopContainer "c1" none) leftAlone) = [.inspect "c1"] ∧
        given.2.custody.inventory.contains .container "c1" = false := by
  have runs : Runs unreachableShell "docker" (.inspect "c1") leftAlone.world refusingPlainly :=
    ⟨runs_unreachable.writable, rfl⟩
  have failed : Failed refusingPlainly := by decide
  obtain ⟨-, -, ends⟩ := absence_told unreachableShell "docker"
  obtain ⟨outcome, called, unheld⟩ := ends leftAlone "c1" none refusingPlainly runs failed
  rw [if_neg untold_refusingPlainly] at outcome
  exact ⟨runs, failed, outcome, called, unheld⟩

end Bequest

end Reclaim
