import Reclaim.Proofs.Client
import Reclaim.Proofs.Confluence
import Reclaim.Proofs.NetworkListing

/-!
# Listings that make no sense

A listing of containers is decoded as a whole before anything is done about it.
If one of its lines writes no record, wherever it stands, the listing fails as a
whole (`decodeLines_of_garbled`): none of its containers is touched, the failure
is noted, and the sweep goes on with the next selector or kind.
-/

set_option autoImplicit false

namespace Reclaim

open Engine (Call Report CommandResult ListedContainer SweepKind)
open Engine.Client (Runs arguments recordLines containerLayout)
open Procedure

/-! ## One pass after another -/

theorem Procedure.each_append {β : Type} (work : β → Procedure Unit) (first second : List β) :
    each work (first ++ second) = (each work first).bind fun _ => each work second := by
  induction first with
  | nil => rfl
  | cons item rest ih => simp only [List.cons_append, each, ih, bind_assoc]

namespace Sweep

/-- The rest of a sweep for some selectors that has yet to give up the containers for `late`. -/
def remaining (selectors late : List Selector) : Procedure Unit :=
  (each (kind .containers) late).bind fun _ =>
    each (fun other => each (kind other) selectors) [.networks, .volumes, .images]

theorem testament_append (early late : List Selector) (selector : Selector) :
    testament (early ++ selector :: late) =
      (each (kind .containers) early).bind fun _ =>
        (kind .containers selector).bind fun _ => remaining (early ++ selector :: late) late := by
  rw [testament, SweepKind.all, each, each_append, each, bind_assoc]
  simp only [bind_assoc, remaining]

theorem testament_singleton (selector : Selector) :
    testament [selector] = Sweep.selector selector := by
  have alone : (fun other => each (kind other) [selector]) = fun other => kind other selector :=
    funext fun other => Procedure.bind_unit (kind other selector)
  rw [testament, alone, Sweep.selector]

def giveUpListed (labels : List String) : Engine.Answer (.listContainers labels) → Procedure Unit
  | .ok listed => containers listed
  | .error report =>
    log (.failure .warn "failed to list containers for pruning" (String.intercalate "," labels)
      report)

theorem kind_containers_eq {selector : Selector} (labelled : selector.labelFilters ≠ []) :
    kind .containers selector =
      .ask (.log (.sweeping .containers selector.labelFilters)) fun _ =>
        .ask (.call (.listContainers selector.labelFilters))
          (giveUpListed selector.labelFilters) := by
  have given : selector.labelFilters.isEmpty = false := by simpa using labelled
  simp only [kind, given, Bool.false_eq_true, if_false, bind_eq, log_eq, call_eq, bind_ask,
    bind_done]
  refine congrArg _ (funext fun _ => congrArg _ (funext fun answer => ?_))
  cases answer <;> rfl

def remainingPlan (selectors late : List Selector) : List Call :=
  late.flatMap (·.asks .containers) ++
    [SweepKind.networks, .volumes, .images].flatMap fun other =>
      selectors.flatMap (·.asks other)

theorem sweepCalls_remaining {ω : Type} (engine : Engine ω) (scene : Scene ω)
    (selectors late : List Selector) :
    sweepCalls (exchanges (scene.chronicle engine (remaining selectors late))) =
      remainingPlan selectors late := by
  have containers := (each_ensures (kind_ensures .containers) late).holds engine scene
  have others := (each_ensures (fun other => each_ensures (kind_ensures other) selectors)
    [SweepKind.networks, .volumes, .images]).holds engine
      (scene.carryOut engine (each (kind .containers) late)).2
  rw [remaining, Scene.chronicle_bind, exchanges_append, sweepCalls_append,
    containers.sweepCalls_eq fun _ _ swept => swept.sweepCalls_eq,
    others.sweepCalls_eq fun _ _ turn => turn.sweepCalls_eq fun _ _ swept => swept.sweepCalls_eq]
  rfl

end Sweep

/-! ## A pass whose listing fails -/

namespace Scene

variable {ω : Type} {engine : Engine ω} {scene : Scene ω} {selector : Selector} {report : Report}

theorem carryOut_log (event : Journal.Event) (next : Unit → Procedure Unit) :
    scene.carryOut engine (.ask (.log event) next) =
      (scene.report [event]).carryOut engine (next ()) := rfl

theorem carryOut_call (call : Call) (next : Engine.Answer call → Procedure Unit) :
    scene.carryOut engine (.ask (.call call) next) =
      (scene.takeTurn engine call).2.carryOut engine (next (scene.takeTurn engine call).1) := rfl

/-- Nothing follows a listing that fails, whatever other holders do meanwhile. -/
theorem exchanges_unlisted (labelled : selector.labelFilters ≠ [])
    (failed : (engine (.listContainers selector.labelFilters) scene.world).answer =
      .error report) :
    exchanges (chronicle engine (Sweep.kind .containers selector) scene) =
      [⟨.listContainers selector.labelFilters, .error report⟩] := by
  have noted (answer : Engine.Answer (.listContainers selector.labelFilters)) (after : Scene ω)
      (unanswered : answer = .error report) :
      ⟨.listContainers selector.labelFilters, answer⟩ ::
          exchanges (chronicle engine (Sweep.giveUpListed selector.labelFilters answer) after) =
        [(⟨.listContainers selector.labelFilters, .error report⟩ : Exchange)] := by
    subst unanswered
    rfl
  -- Rewriting the answer in place would change the type of what follows it.
  rw [Sweep.kind_containers_eq labelled, chronicle_ask, chronicle_ask]
  simp only [exchanges_append, exchanges_acted, exchanges_cons_log, exchanges_cons_call,
    List.nil_append]
  exact noted _ _ failed

end Scene

namespace Engine.Client

variable {ω : Type} {shell : Shell ω} {program : String}

theorem Runs.takeTurn_eq {call : Call} {result : CommandResult} {scene : Scene ω}
    (runs : Runs shell program call scene.world result) :
    scene.takeTurn (engine shell program) call =
      (readResult call result,
        { scene with
          world := (shell.run program (arguments call) scene.world).2
          journal := scene.journal ++
            [.event (.runningCommand program (arguments call)),
              .called call (readResult call result) [arguments call]] }) := by
  rw [Scene.takeTurn, runs.turn_eq]
  simp [Scene.actAll, Scene.report]

/-- A scene after a listing of containers has failed: one command has been run, and the failure has
been noted. -/
def unlisted (program : String) (labels : List String) (report : Report) (world : ω)
    (scene : Scene ω) : Scene ω :=
  { scene with
    world := world
    journal := scene.journal ++
      [.event (.sweeping .containers labels),
        .event (.runningCommand program (arguments (.listContainers labels))),
        .called (.listContainers labels) (.error report) [arguments (.listContainers labels)],
        .event (.failure .warn "failed to list containers for pruning"
          (String.intercalate "," labels) report)] }

theorem carryOut_unlisted {scene : Scene ω} {selector : Selector}
    (labelled : selector.labelFilters ≠ []) {result : CommandResult}
    (runs : Runs shell program (.listContainers selector.labelFilters) scene.world result)
    {report : Report}
    (failed : readResult (.listContainers selector.labelFilters) result = .error report) :
    scene.carryOut (engine shell program) (Sweep.kind .containers selector) =
      ((), unlisted program selector.labelFilters report
        (shell.run program (arguments (.listContainers selector.labelFilters)) scene.world).2
          scene) := by
  have taken := @Runs.takeTurn_eq _ shell program _ result
    (scene.report [.sweeping .containers selector.labelFilters]) runs
  rw [failed] at taken
  rw [Sweep.kind_containers_eq labelled, Scene.carryOut_log, Scene.carryOut_call, taken,
    Sweep.giveUpListed, log_eq, Scene.carryOut_log, Scene.carryOut_done]
  simp [unlisted, Scene.report]

/-! ## Lines that write no record -/

def Garbled (layout : Json.Layout) (output : List Char) : Prop :=
  ∃ line ∈ recordLines output, ∀ row, layout.decode line ≠ .ok row

/-- The first line of an output that writes no record, and why it does not. -/
def FirstRefused (layout : Json.Layout) (output line : List Char) (refusal : Json.Refusal) : Prop :=
  ∃ early late, recordLines output = early ++ line :: late ∧
    (∀ other ∈ early, ∃ row, layout.decode other = .ok row) ∧ layout.decode line = .error refusal

theorem decodeLines_of_garbled {layout : Json.Layout} {output : List Char} (operation : String)
    (garbled : Garbled layout output) :
    ∃ line refusal, FirstRefused layout output line refusal ∧
      decodeLines operation layout output =
        .error ⟨.undecodable operation refusal.message, [String.ofList line]⟩ := by
  cases decoded : decodeLines operation layout output with
  | ok rows =>
    obtain ⟨line, printed, senseless⟩ := garbled
    obtain ⟨row, same⟩ := exists_of_forall₂ (decodeLines_eq_ok_iff.mp decoded) line printed
    exact absurd same (senseless row)
  | error report =>
    obtain ⟨early, line, late, refusal, split, good, refused, rfl⟩ :=
      decodeLines_eq_error_iff.mp decoded
    exact ⟨line, refusal, ⟨early, late, split, good, refused⟩, rfl⟩

/-- A listing fails whose output is garbled, and if its command has succeeded it fails because of
the first line that writes no record. -/
theorem readResult_of_garbled {result : CommandResult} (labels : List String)
    (garbled : Garbled containerLayout (Text.Utf8.lenientChars result.stdout)) :
    ∃ report, readResult (.listContainers labels) result = .error report ∧
      (result.ending = .exited 0 →
        ∃ line refusal,
          FirstRefused containerLayout (Text.Utf8.lenientChars result.stdout) line refusal ∧
            report = ⟨.undecodable "ps" refusal.message, [String.ofList line]⟩) := by
  by_cases succeeded : result.ending = .exited 0
  · obtain ⟨line, refusal, first, failed⟩ := decodeLines_of_garbled "ps" garbled
    refine ⟨_, ?_, fun _ => ⟨line, refusal, first, rfl⟩⟩
    rw [readResult, if_pos succeeded, readOutput, failed]
    rfl
  · refine ⟨failureReport (.listContainers labels) result, ?_, fun ended => absurd ended succeeded⟩
    rw [readResult, if_neg succeeded]

/-- A listing of containers that a command has printed, and of which every line is a record. -/
def Decoded (shell : Shell ω) (program : String) (labels : List String)
    (listed : List ListedContainer) : Prop :=
  ∃ world result, Runs shell program (.listContainers labels) world result ∧
    result.ending = .exited 0 ∧
    ∃ rows, List.Forall₂ (fun line row => containerLayout.decode line = .ok row)
        (recordLines (Text.Utf8.lenientChars result.stdout)) rows ∧
      listed = rows.map containerOfRow

theorem decoded_of_answer {labels : List String} {world : ω} {listed : List ListedContainer}
    (answered : (engine shell program (.listContainers labels) world).answer = .ok listed) :
    Decoded shell program labels listed := by
  refine ⟨world, ?_⟩
  rw [answer_eq_ok_iff] at answered
  simpa only [readOutput, map_eq_ok_iff, decodeLines_eq_ok_iff] using answered

end Engine.Client

/-! ## What is done to containers -/

theorem InTurn.exists_of_mem {β : Type} {part : β → List Exchange → Prop} {items : List β}
    {made : List Exchange} (turn : InTurn part items made) {exchange : Exchange}
    (member : exchange ∈ made) :
    ∃ item ∈ items, ∃ now, part item now ∧ exchange ∈ now ∧ now.Sublist made := by
  induction turn with
  | done => cases member
  | @next item rest now later first others ih =>
    rcases List.mem_append.mp member with here | there
    · exact ⟨item, .head _, now, first, here, List.sublist_append_left now later⟩
    · obtain ⟨other, among, share, done, within, sublist⟩ := ih there
      exact ⟨other, .tail _ among, share, done, within,
        sublist.trans (List.sublist_append_right now later)⟩

/-- A call about a container follows a listing in which it has been named. -/
theorem Swept.listed_of_target {selector : Selector} {kind : SweepKind} {made : List Exchange}
    (swept : Swept selector kind made) {exchange : Exchange} (member : exchange ∈ made)
    {id : String} (about : Engine.Client.target? exchange.call = some (.container, id)) :
    ∃ listed : List ListedContainer,
      ⟨.listContainers selector.labelFilters, .ok listed⟩ ∈ made ∧
        ∃ container ∈ listed, container.id = id := by
  cases swept with
  | refused => cases member
  | unlisted =>
    rw [List.mem_singleton.mp member] at about
    cases about
  | @listed containers walks labelled walked =>
    refine ⟨containers, .head _, ?_⟩
    rcases List.mem_cons.mp member with rfl | walking
    · cases about
    · obtain ⟨container, among, now, ⟨outcome, walk⟩, within, -⟩ := walked.exists_of_mem walking
      refine ⟨container, among, ?_⟩
      rcases walk.calls within with same | same | same <;>
        · rw [same] at about
          cases about
          rfl
  | pruned =>
    rw [List.mem_singleton.mp member] at about
    cases about

namespace Scene

variable {ω : Type} {engine : Engine ω} {scene : Scene ω}

theorem listed_of_target {selectors : List Selector} {exchange : Exchange}
    (member : exchange ∈ exchanges (scene.chronicle engine (Sweep.testament selectors)))
    {id : String} (about : Engine.Client.target? exchange.call = some (.container, id)) :
    ∃ selector ∈ selectors, ∃ listed : List ListedContainer,
      ⟨.listContainers selector.labelFilters, .ok listed⟩ ∈
          exchanges (scene.chronicle engine (Sweep.testament selectors)) ∧
        ∃ container ∈ listed, container.id = id := by
  have turn := (testament_ensures selectors).holds engine scene
  obtain ⟨kind, -, pass, kindTurn, inPass, passWithin⟩ := turn.exists_of_mem member
  obtain ⟨selector, given, now, swept, inNow, nowWithin⟩ := kindTurn.exists_of_mem inPass
  obtain ⟨listed, answered, named⟩ := swept.listed_of_target inNow about
  exact ⟨selector, given, listed, passWithin.subset (nowWithin.subset answered), named⟩

end Scene

namespace Engine.Client

/-- If the command for a listing prints a line that writes no record, the listing fails, because of
the first such line if the command has succeeded.  The pass for which it was made calls for nothing
else and runs no other command, and its failure is noted.  The sweep goes on from there as it would
have gone on otherwise: with the containers of the selectors that are left, then with the other
kinds.  In all of it no container is looked at, stopped or deleted that is not named in a listing
of which every line has been decoded. -/
theorem garbled_listing_touches_nothing {ω : Type} {shell : Shell ω} {program : String}
    {scene : Scene ω} {early late : List Selector} {selector : Selector} {result : CommandResult}
    (labelled : selector.labelFilters ≠ [])
    (runs : Runs shell program (.listContainers selector.labelFilters)
      (scene.carryOut (engine shell program) (each (Sweep.kind .containers) early)).2.world result)
    (garbled : Garbled containerLayout (Text.Utf8.lenientChars result.stdout)) :
    let client := engine shell program
    let listing : Call := .listContainers selector.labelFilters
    let selectors := early ++ selector :: late
    let reached := (scene.carryOut client (each (Sweep.kind .containers) early)).2
    let made := exchanges (scene.chronicle client (Sweep.testament selectors))
    ∃ report,
      (result.ending = .exited 0 →
        ∃ line refusal,
          FirstRefused containerLayout (Text.Utf8.lenientChars result.stdout) line refusal ∧
            report = ⟨.undecodable "ps" refusal.message, [String.ofList line]⟩) ∧
      let left := unlisted program selector.labelFilters report
        (shell.run program (arguments listing) reached.world).2 reached
      exchanges (reached.chronicle client (Sweep.kind .containers selector)) =
          [⟨listing, .error report⟩] ∧
        reached.carryOut client (Sweep.kind .containers selector) = ((), left) ∧
        scene.carryOut client (Sweep.testament selectors) =
          left.carryOut client (Sweep.remaining selectors late) ∧
        made = exchanges (scene.chronicle client (each (Sweep.kind .containers) early)) ++
          ⟨listing, .error report⟩ ::
            exchanges (left.chronicle client (Sweep.remaining selectors late)) ∧
        sweepCalls (exchanges (left.chronicle client (Sweep.remaining selectors late))) =
          Sweep.remainingPlan selectors late ∧
        Sweep.testament [selector] = Sweep.selector selector ∧
        ∀ exchange ∈ made, ∀ id, target? exchange.call = some (.container, id) →
          ∃ other ∈ selectors, ∃ listed : List ListedContainer,
            ⟨.listContainers other.labelFilters, .ok listed⟩ ∈ made ∧
              (∃ container ∈ listed, container.id = id) ∧
              Decoded shell program other.labelFilters listed := by
  intro client listing selectors reached made
  obtain ⟨report, failed, reason⟩ := readResult_of_garbled selector.labelFilters garbled
  have unlisting := carryOut_unlisted labelled runs failed
  have alone := Scene.exchanges_unlisted labelled (runs.answer_eq.trans failed)
  refine ⟨report, reason, alone, unlisting, ?_, ?_, Sweep.sweepCalls_remaining _ _ _ _,
    Sweep.testament_singleton selector, ?_⟩
  · rw [Sweep.testament_append, Scene.carryOut_bind, Scene.carryOut_bind, unlisting]
  · change exchanges (scene.chronicle client (Sweep.testament selectors)) = _
    rw [Sweep.testament_append, Scene.chronicle_bind, Scene.chronicle_bind, unlisting,
      exchanges_append, exchanges_append, alone]
    rfl
  · intro exchange member id about
    obtain ⟨other, given, listed, answered, named⟩ := Scene.listed_of_target member about
    obtain ⟨world, same⟩ := Scene.answered_of_mem answered
    exact ⟨other, given, listed, answered, named, decoded_of_answer same⟩

end Engine.Client

/-! ### A listing that is cut off -/

namespace Bequest

open Engine.Client Engine.Scripted Text.Utf8

def wholeLine : String := "\x7b\"ID\":\"c1\",\"Image\":\"redis:7\"\x7d"

def tornLine : String := "\x7b\"ID\":\"c2\",\"Ima"

def torn : CommandResult := ⟨encode (wholeLine ++ "\n" ++ tornLine), [], .exited 0⟩

def tornShell : Engine.Shell (List Reply) := shell "docker" fun _ => "not found"

def tearing : Scene (List Reply) := .opening custody [⟨["ps"], none, torn, true⟩]

theorem garbled_torn : Garbled containerLayout (lenientChars torn.stdout) := by
  have lines : recordLines (wholeLine ++ "\n" ++ tornLine).toList =
      [wholeLine.toList, tornLine.toList] := by decide +kernel
  have senseless : (containerLayout.decode tornLine.toList).toOption = none := by decide +kernel
  refine ⟨tornLine.toList, ?_, fun row decoded => ?_⟩
  · rw [torn, lenientChars_encode, lines]
    exact .tail _ (.head _)
  · rw [decoded] at senseless
    cases senseless

/-- The container of the record before the cut is not touched either. -/
theorem garbled_listing_touches_nothing_torn :
    nightly.labelFilters ≠ [] ∧
      Runs tornShell "docker" (.listContainers nightly.labelFilters) tearing.world torn ∧
      Garbled containerLayout (lenientChars torn.stdout) ∧
      ∃ report line refusal,
        FirstRefused containerLayout (lenientChars torn.stdout) line refusal ∧
        report = ⟨.undecodable "ps" refusal.message, [String.ofList line]⟩ ∧
        exchanges (tearing.chronicle (engine tornShell "docker") (Sweep.kind .containers nightly)) =
          [⟨.listContainers nightly.labelFilters, .error report⟩] := by
  have labelled : nightly.labelFilters ≠ [] := by decide
  have writable : ∀ argument ∈ "docker" :: arguments (.listContainers nightly.labelFilters),
      '\x00' ∉ argument.toList := by
    decide +kernel
  have runs : Runs tornShell "docker" (.listContainers nightly.labelFilters) tearing.world torn :=
    ⟨writable, rfl⟩
  obtain ⟨report, reason, alone, -⟩ :=
    @garbled_listing_touches_nothing _ tornShell "docker" tearing [] [custody.selector] nightly torn
      labelled runs garbled_torn
  obtain ⟨line, refusal, first, same⟩ := reason rfl
  exact ⟨labelled, runs, garbled_torn, report, line, refusal, first, same, alone⟩

end Bequest

end Reclaim
