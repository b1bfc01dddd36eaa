import Mathlib.Data.List.Induction
import Reclaim.Proofs.NetworkListing

/-!
# What the removal of networks comes to

A listing may show several networks, and each of them is deleted in its turn.
What the removal comes to is decided by the last deletion that succeeded or
failed; a network that is missing by then decides nothing.  So a failure shows
in the outcome unless a success comes after it, and the order of a listing is
of no consequence unless there are both (`failure_shown_unless_masked`).
-/

set_option autoImplicit false

namespace Reclaim

open Engine (CommandResult ListedNetwork Report)
open Procedure

def Exchange.fails (exchange : Exchange) : Bool :=
  match exchange.answer with
  | .ok _ => false
  | .error report => !report.isNotFound

/-- A network that was listed, and what was answered to its deletion. -/
structure Fate where
  network : ListedNetwork
  answer : Except Report Unit

namespace Fate

def exchange (fate : Fate) : Exchange := ⟨.removeNetwork fate.network.id, fate.answer⟩

def succeeded (fate : Fate) : Bool := fate.answer.isOk

def failed (fate : Fate) : Bool := fate.exchange.fails

def decides (fate : Fate) : Bool := fate.succeeded || fate.failed

end Fate

namespace Outcome

/-- What a removal has come to when one more deletion has been answered. -/
def settle (outcome : Outcome) (fate : Fate) : Outcome :=
  if fate.succeeded then .removed
  else if fate.failed then .removeFailed
  else outcome

end Outcome

def settled (fates : List Fate) : Outcome := fates.foldl Outcome.settle .alreadyGone

/-- The exchanges of a removal for which the engine lists some networks. -/
def account (id : String) (fates : List Fate) : List Exchange :=
  ⟨.listNetworks id, .ok (fates.map Fate.network)⟩ :: fates.map Fate.exchange

theorem Fate.decides_eq_false_iff (fate : Fate) :
    fate.decides = false ↔ ∃ report, fate.answer = .error report ∧ report.isNotFound = true := by
  obtain ⟨network, answer⟩ := fate
  cases answer <;>
    simp [decides, succeeded, failed, exchange, Exchange.fails, Except.isOk, Except.toBool]

/-! ## What is settled by the answers -/

theorem settled_concat (fates : List Fate) (fate : Fate) :
    settled (fates ++ [fate]) = (settled fates).settle fate := by
  simp [settled]

/-- The last deletion that succeeded or failed decides. -/
theorem settled_eq (fates : List Fate) :
    settled fates =
      match (fates.filter Fate.decides).getLast? with
      | none => .alreadyGone
      | some last => if last.succeeded then .removed else .removeFailed := by
  -- From the end of the list: what was settled before counts only if the last one decides nothing.
  induction fates using List.reverseRecOn with
  | nil => rfl
  | append_singleton fates fate ih =>
    rw [settled_concat, ih, List.filter_append]
    by_cases succeeded : fate.succeeded = true
    · simp [Fate.decides, Outcome.settle, succeeded]
    · by_cases failed : fate.failed = true
      · simp [Fate.decides, Outcome.settle, succeeded, failed]
      · simp [Fate.decides, Outcome.settle, succeeded, failed]

theorem settled_eq_removed_iff (fates : List Fate) :
    settled fates = .removed ↔
      (fates.filter Fate.decides).getLast?.any Fate.succeeded = true := by
  rw [settled_eq]
  cases (fates.filter Fate.decides).getLast? with
  | none => simp
  | some last => cases succeeded : last.succeeded <;> simp [succeeded]

theorem settled_eq_alreadyGone_iff (fates : List Fate) :
    settled fates = .alreadyGone ↔ fates.filter Fate.decides = [] := by
  rw [settled_eq]
  cases decided : (fates.filter Fate.decides).getLast? with
  | none => simpa using decided
  | some last =>
    have nonempty : fates.filter Fate.decides ≠ [] := by
      intro none
      simp [none] at decided
    cases succeeded : last.succeeded <;> simp [nonempty, succeeded]

theorem any_succeeded_of_removed {fates : List Fate} (removed : settled fates = .removed) :
    fates.any Fate.succeeded = true := by
  have succeeded := (settled_eq_removed_iff fates).mp removed
  cases found : (fates.filter Fate.decides).getLast? with
  | none =>
    rw [found] at succeeded
    cases succeeded
  | some last =>
    rw [found] at succeeded
    have member := List.mem_filter.mp (List.mem_of_getLast? found)
    exact List.any_eq_true.mpr ⟨last, member.1, succeeded⟩

theorem settled_of_failed {fates : List Fate} (failed : fates.any Fate.failed = true) :
    settled fates = .removed ∨ settled fates = .removeFailed := by
  have decided : settled fates ≠ .alreadyGone := by
    rw [Ne, settled_eq_alreadyGone_iff, List.filter_eq_nil_iff]
    obtain ⟨fate, member, failed⟩ := List.any_eq_true.mp failed
    intro undecided
    exact undecided fate member (by simp [Fate.decides, failed])
  rw [settled_eq] at decided ⊢
  cases found : (fates.filter Fate.decides).getLast? with
  | none =>
    rw [found] at decided
    exact absurd rfl decided
  | some last => cases succeeded : last.succeeded <;> simp [succeeded]

/-! ## Failures that do not show -/

/-- Some deletion failed, and of those that succeeded or failed the last one succeeded. -/
def Masked (fates : List Fate) : Prop :=
  fates.any Fate.failed = true ∧
    (fates.filter Fate.decides).getLast?.any Fate.succeeded = true

instance (fates : List Fate) : Decidable (Masked fates) := inferInstanceAs (Decidable (_ ∧ _))

theorem masked_iff (fates : List Fate) :
    Masked fates ↔ fates.any Fate.failed = true ∧ settled fates = .removed := by
  rw [Masked, settled_eq_removed_iff]

theorem failure_shows_iff (fates : List Fate) :
    (fates.any Fate.failed = true → settled fates = .removeFailed) ↔ ¬ Masked fates := by
  rw [masked_iff]
  constructor
  · rintro shows ⟨failed, removed⟩
    cases (shows failed).symm.trans removed
  · intro unmasked failed
    rcases settled_of_failed failed with removed | shown
    · exact absurd ⟨failed, removed⟩ unmasked
    · exact shown

theorem success_clean_iff (fates : List Fate) :
    (settled fates = .removed →
      fates.any Fate.succeeded = true ∧ fates.any Fate.failed = false) ↔ ¬ Masked fates := by
  rw [masked_iff]
  constructor
  · rintro clean ⟨failed, removed⟩
    cases (clean removed).2.symm.trans failed
  · intro unmasked removed
    refine ⟨any_succeeded_of_removed removed, ?_⟩
    rw [Bool.eq_false_iff]
    exact fun failed => unmasked ⟨failed, removed⟩

/-! ## The order of a listing -/

/-- Unless there are successes and failures, it is settled by which of them there are. -/
theorem settled_of_one_sided {fates : List Fate}
    (oneSided : ¬ (fates.any Fate.succeeded = true ∧ fates.any Fate.failed = true)) :
    settled fates =
      if fates.any Fate.succeeded then .removed
      else if fates.any Fate.failed then .removeFailed
      else .alreadyGone := by
  induction fates using List.reverseRecOn with
  | nil => rfl
  | append_singleton fates fate ih =>
    simp only [List.any_append, List.any_cons, List.any_nil, Bool.or_false, Bool.or_eq_true,
      not_and_or, not_or, Bool.not_eq_true] at oneSided ih ⊢
    rw [settled_concat, ih (by tauto)]
    by_cases succeeded : fate.succeeded = true
    · simp [Outcome.settle, succeeded]
    · by_cases failed : fate.failed = true
      · simp_all [Outcome.settle]
      · simp [Outcome.settle, succeeded, failed]

theorem settled_rotate {early late : List Fate} {fate : Fate} :
    ∃ others, others.Perm (early ++ fate :: late) ∧
      settled others = (settled (early ++ late)).settle fate := by
  refine ⟨early ++ late ++ [fate], ?_, settled_concat _ _⟩
  have moved : (early ++ late ++ [fate]).Perm (fate :: (early ++ late)) :=
    List.perm_append_comm
  exact moved.trans List.perm_middle.symm

/-- The order in which the networks are deleted is of no consequence, unless some deletion succeeds
and some deletion fails. -/
theorem order_of_no_consequence_iff (fates : List Fate) :
    (∀ others : List Fate, others.Perm fates → settled others = settled fates) ↔
      ¬ (fates.any Fate.succeeded = true ∧ fates.any Fate.failed = true) := by
  constructor
  · rintro same ⟨succeeds, fails⟩
    -- With a success moved to the end it is settled as a removal, with a failure as a failed one.
    obtain ⟨good, atGood, succeeded⟩ := List.any_eq_true.mp succeeds
    obtain ⟨bad, atBad, failed⟩ := List.any_eq_true.mp fails
    have removed : settled fates = .removed := by
      obtain ⟨early, late, rfl⟩ := List.append_of_mem atGood
      obtain ⟨others, reordered, last⟩ := @settled_rotate early late good
      rw [← same others reordered, last, Outcome.settle, if_pos succeeded]
    have unsucceeded : bad.succeeded = false := by
      obtain ⟨network, answer⟩ := bad
      cases answer with
      | ok value => cases failed
      | error report => rfl
    have removeFailed : settled fates = .removeFailed := by
      obtain ⟨early, late, rfl⟩ := List.append_of_mem atBad
      obtain ⟨others, reordered, last⟩ := @settled_rotate early late bad
      rw [← same others reordered, last, Outcome.settle, if_neg (by simp [unsucceeded]),
        if_pos failed]
    cases removed.symm.trans removeFailed
  · intro oneSided others reordered
    have successes : others.any Fate.succeeded = fates.any Fate.succeeded := reordered.any_eq
    have failures : others.any Fate.failed = fates.any Fate.failed := reordered.any_eq
    rw [settled_of_one_sided oneSided, settled_of_one_sided (by rwa [successes, failures]),
      successes, failures]

/-! ## What happens in a removal -/

def Silent (onRemoved : String → Procedure Unit) : Prop :=
  ∀ name, (onRemoved name).Ensures fun tale _ => exchanges tale = []

theorem silent_done : Silent fun _ => .done () := fun _ => rfl

theorem silent_forget : Silent fun removed => request (.forget .network removed) := by
  intro removed
  simp

section Removal

variable {id : String} {onRemoved : String → Procedure Unit}

def followUp (id : String) (onRemoved : String → Procedure Unit) (fate : Fate) : Procedure Unit :=
  match fate.answer with
  | .ok _ => (onRemoved fate.network.id).bind fun _ => Procedure.log (.removedNetwork id)
  | .error report =>
    Procedure.log (if report.isNotFound then .networkGone id
      else .failure .trace "error removing network; it may not have been removed"
        fate.network.name report)

theorem networks_cons (outcome : Outcome) (network : ListedNetwork) (rest : List ListedNetwork) :
    Removal.networks id onRemoved outcome (network :: rest) =
      .ask (.call (.removeNetwork network.id)) fun answer =>
        (followUp id onRemoved ⟨network, answer⟩).bind fun _ =>
          Removal.networks id onRemoved (outcome.settle ⟨network, answer⟩) rest := by
  simp only [Removal.networks, bind_eq, call_eq, log_eq, bind_ask, bind_done]
  congr 1
  funext answer
  cases answer with
  | ok value =>
    simp only [followUp, log_eq, bind_assoc, bind_ask, bind_done]
    rfl
  | error report =>
    by_cases missing : report.isNotFound = true <;>
      simp [followUp, Outcome.settle, Fate.succeeded, Fate.failed, Fate.exchange, Exchange.fails,
        Except.isOk, Except.toBool, missing]

theorem followUp_ensures (silent : Silent onRemoved) (fate : Fate) :
    (followUp id onRemoved fate).Ensures fun tale _ => exchanges tale = [] := by
  unfold followUp
  cases fate.answer with
  | ok value =>
    refine (silent fate.network.id).bind ?_
    rintro told _ quiet
    rw [log_eq, ensures_log]
    intro _
    simp [quiet]
  | error report =>
    dsimp only
    rw [log_eq, ensures_log]
    intro _
    rfl

theorem networks_settle (silent : Silent onRemoved) (outcome : Outcome)
    (listed : List ListedNetwork) :
    (Removal.networks id onRemoved outcome listed).Ensures fun tale final =>
      ∃ fates : List Fate, fates.map Fate.network = listed ∧
        exchanges tale = fates.map Fate.exchange ∧ final = fates.foldl Outcome.settle outcome := by
  induction listed generalizing outcome with
  | nil => exact ⟨[], rfl, rfl, rfl⟩
  | cons network rest ih =>
    rw [networks_cons, ensures_call]
    intro acts answer
    refine (followUp_ensures silent ⟨network, answer⟩).bind ?_
    rintro told _ quiet
    refine (ih (outcome.settle ⟨network, answer⟩)).mono ?_
    rintro tale final ⟨fates, rfl, exchanged, rfl⟩
    exact ⟨⟨network, answer⟩ :: fates, rfl, by simp [quiet, exchanged, Fate.exchange], rfl⟩

/-- A removal ends with a listing that fails, or deletes all that is listed. -/
theorem network_settles (silent : Silent onRemoved) :
    (Removal.network id onRemoved).Ensures fun tale outcome =>
      (∃ report, exchanges tale = [⟨.listNetworks id, .error report⟩] ∧ outcome = .gaveUp) ∨
        ∃ fates, exchanges tale = account id fates ∧ outcome = settled fates := by
  simp only [Removal.network, Removal.swallow, bind_eq, pure_eq, call_eq, log_eq, bind_ask,
    bind_done, ensures_call]
  intro acts answer
  cases answer with
  | ok listed =>
    refine (networks_settle silent .alreadyGone listed).mono ?_
    rintro tale final ⟨fates, rfl, exchanged, rfl⟩
    exact .inr ⟨fates, by simp [account, exchanged], rfl⟩
  | error report =>
    simp only [bind_ask, bind_done, ensures_log]
    intro _
    exact .inl ⟨report, by simp, rfl⟩

theorem Scene.first_listing {ω : Type} (engine : Engine ω) (scene : Scene ω) (id : String)
    (onRemoved : String → Procedure Unit) :
    ∃ later, exchanges (chronicle engine (Removal.network id onRemoved) scene) =
      ⟨.listNetworks id, (engine (.listNetworks id) scene.world).answer⟩ :: later := by
  simp only [Removal.network, bind_eq, call_eq, bind_ask, chronicle_ask, exchanges_append,
    exchanges_acted, List.nil_append, exchanges_cons_call]
  exact ⟨_, rfl⟩

theorem network_listed {ω : Type} (engine : Engine ω) (scene : Scene ω) (id : String)
    (silent : Silent onRemoved) :
    let made := exchanges (Scene.chronicle engine (Removal.network id onRemoved) scene)
    let outcome := (scene.carryOut engine (Removal.network id onRemoved)).1
    match (engine (.listNetworks id) scene.world).answer with
    | .error report => made = [⟨.listNetworks id, .error report⟩] ∧ outcome = .gaveUp
    | .ok listed => ∃ fates : List Fate, fates.map Fate.network = listed ∧
        made = account id fates ∧ outcome = settled fates := by
  intro made outcome
  obtain ⟨later, begun⟩ : ∃ later,
      made = ⟨.listNetworks id, (engine (.listNetworks id) scene.world).answer⟩ :: later :=
    scene.first_listing engine id onRemoved
  rcases (network_settles silent).holds engine scene with
    ⟨report, failed, gaveUp⟩ | ⟨fates, whole, settles⟩
  · have answered : (engine (.listNetworks id) scene.world).answer = .error report := by
      simpa using (List.cons.inj (begun.symm.trans failed)).1
    rw [answered]
    exact ⟨failed, gaveUp⟩
  · have answered : (engine (.listNetworks id) scene.world).answer =
        .ok (fates.map Fate.network) := by
      simpa using (List.cons.inj (begun.symm.trans whole)).1
    rw [answered]
    exact ⟨fates, rfl, whole, settles⟩

end Removal

/-! ## Other runs of the same removal -/

theorem eq_of_account_eq {id : String} {first second : List Fate}
    (same : account id first = account id second) : first = second := by
  simp only [account, List.cons.injEq, Exchange.mk.injEq, heq_eq_eq, Except.ok.injEq,
    true_and] at same
  obtain ⟨networks, exchanged⟩ := same
  induction first generalizing second with
  | nil => simpa using networks
  | cons fate rest ih =>
    cases second with
    | nil => cases networks
    | cons other others =>
      obtain ⟨sameNetwork, laterNetworks⟩ := List.cons.inj networks
      obtain ⟨sameExchange, laterExchanged⟩ := List.cons.inj exchanged
      obtain ⟨network, answer⟩ := fate
      obtain ⟨otherNetwork, otherAnswer⟩ := other
      cases sameNetwork
      cases sameExchange
      rw [ih laterNetworks laterExchanged]

def Engine.dealt : Engine (List Fate) := fun call fates =>
  match call, fates with
  | .listNetworks _, fates => .plain (.ok (fates.map Fate.network)) fates
  | .removeNetwork _, fate :: rest => .plain fate.answer rest
  | _, fates => .plain (.error (.bare (.transport "" ""))) fates

theorem exchanges_dealt_networks {id : String} {outcome : Outcome} {fates : List Fate}
    {scene : Scene (List Fate)} (world : scene.world = fates) :
    exchanges (Scene.chronicle Engine.dealt
        (Removal.networks id (fun _ => .done ()) outcome (fates.map Fate.network)) scene) =
      fates.map Fate.exchange := by
  induction fates generalizing outcome scene with
  | nil => rfl
  | cons fate rest ih =>
    have answered : (Scene.reply Engine.dealt (.call (.removeNetwork fate.network.id)) scene).1 =
        fate.answer := by
      simp [Scene.reply, Scene.takeTurn, Engine.dealt, world, Engine.Turn.plain]
    have left : (Scene.reply Engine.dealt (.call (.removeNetwork fate.network.id)) scene).2.world =
        rest := by
      simp [Scene.reply, Scene.takeTurn, Engine.dealt, world, Engine.Turn.plain, Scene.actAll,
        Scene.report]
    rw [List.map_cons, networks_cons, Scene.chronicle_ask, exchanges_append, exchanges_acted,
      List.nil_append, exchanges_cons_call, answered, Scene.chronicle_bind, exchanges_append,
      (followUp_ensures silent_done _).holds, List.nil_append, ih ?_]
    · rfl
    · rw [← left]
      cases answer : fate.answer <;> rfl

/-- Whether a removal can come to an outcome when these are its listing and its deletions. -/
def ComesTo (id : String) (fates : List Fate) (outcome : Outcome) : Prop :=
  ∃ (ω : Type) (engine : Engine ω) (scene : Scene ω) (onRemoved : String → Procedure Unit),
    Silent onRemoved ∧
      exchanges (Scene.chronicle engine (Removal.network id onRemoved) scene) = account id fates ∧
      (scene.carryOut engine (Removal.network id onRemoved)).1 = outcome

theorem outcome_of_account {ω : Type} {engine : Engine ω} {scene : Scene ω} {id : String}
    {onRemoved : String → Procedure Unit} {fates : List Fate}
    (silent : Silent onRemoved)
    (made : exchanges (Scene.chronicle engine (Removal.network id onRemoved) scene) =
      account id fates) :
    (scene.carryOut engine (Removal.network id onRemoved)).1 = settled fates := by
  rcases (network_settles silent).holds engine scene with
    ⟨report, failed, -⟩ | ⟨others, listed, outcome⟩
  · cases failed.symm.trans made
  · rw [outcome, eq_of_account_eq (listed.symm.trans made)]

theorem exchanges_dealt {id : String} {fates : List Fate} (custody : Custody) :
    exchanges (Scene.chronicle Engine.dealt (Removal.network id fun _ => .done ())
      (.opening custody fates)) = account id fates := by
  simp only [Removal.network, Removal.swallow, bind_eq, pure_eq, call_eq, bind_ask, bind_done,
    Scene.chronicle_ask, exchanges_append, exchanges_acted, List.nil_append, exchanges_cons_call]
  refine congrArg₂ List.cons rfl ?_
  exact exchanges_dealt_networks rfl

theorem comesTo_iff (id : String) (fates : List Fate) (outcome : Outcome) :
    ComesTo id fates outcome ↔ outcome = settled fates := by
  constructor
  · rintro ⟨ω, engine, scene, onRemoved, silent, made, rfl⟩
    exact outcome_of_account silent made
  · rintro rfl
    exact ⟨List Fate, Engine.dealt, _, _, silent_done, exchanges_dealt Bequest.custody,
      outcome_of_account silent_done (exchanges_dealt Bequest.custody)⟩

open Scene

/-- A removal whose listing fails gives up.  Otherwise it deletes what is listed, and says that the
networks were gone exactly if all of them were missing.  A failure shows in the outcome, and no
failure is passed over as a removal, if and only if it is not masked by a success that comes last.
The order of the deletions is of no consequence if and only if there are not both successes and
failures among them. -/
theorem failure_shown_unless_masked {ω : Type} (engine : Engine ω) (scene : Scene ω) (id : String)
    {onRemoved : String → Procedure Unit} (silent : Silent onRemoved) :
    let made := exchanges (chronicle engine (Removal.network id onRemoved) scene)
    let outcome := (scene.carryOut engine (Removal.network id onRemoved)).1
    match (engine (.listNetworks id) scene.world).answer with
    | .error report => made = [⟨.listNetworks id, .error report⟩] ∧ outcome = .gaveUp
    | .ok listed => ∃ fates : List Fate, fates.map Fate.network = listed ∧
        made = ⟨.listNetworks id, .ok listed⟩ :: fates.map Fate.exchange ∧
        ((fates.any Fate.failed = true → outcome = .removeFailed) ↔ ¬ Masked fates) ∧
        ((outcome = .removed →
          fates.any Fate.succeeded = true ∧ fates.any Fate.failed = false) ↔ ¬ Masked fates) ∧
        (outcome = .alreadyGone ↔
          ∀ fate ∈ fates, ∃ report, fate.answer = .error report ∧ report.isNotFound = true) ∧
        ((∀ others : List Fate, others.Perm fates →
          ∀ other, ComesTo id others other → other = outcome) ↔
            ¬ (fates.any Fate.succeeded = true ∧ fates.any Fate.failed = true)) := by
  intro made outcome
  have whole := network_listed engine scene id silent
  cases answered : (engine (.listNetworks id) scene.world).answer with
  | error report =>
    rw [answered] at whole
    exact whole
  | ok listed =>
    rw [answered] at whole
    obtain ⟨fates, rfl, exchanged, ended⟩ := whole
    have settles : outcome = settled fates := ended
    refine ⟨fates, rfl, exchanged, ?_, ?_, ?_, ?_⟩
    · rw [settles]
      exact failure_shows_iff fates
    · rw [settles]
      exact success_clean_iff fates
    · rw [settles, settled_eq_alreadyGone_iff, List.filter_eq_nil_iff]
      simp only [Bool.not_eq_true, Fate.decides_eq_false_iff]
    · rw [settles, ← order_of_no_consequence_iff]
      simp only [comesTo_iff, forall_eq]

/-! ### A failure that does not show -/

namespace Bequest

open Engine.Client Engine.Scripted Text.Utf8

/-- A network is deleted, another one is in use, and at last the first one is missing. -/
def stuck : List Fate :=
  [⟨⟨"n10", "ten"⟩, .ok ()⟩, ⟨⟨"n1", "one"⟩, .error (.bare (.transport "network rm" "in use"))⟩,
    ⟨⟨"n10", "ten"⟩, .error (.bare (.notFound .network "n10"))⟩]

theorem failure_shown_unless_masked_stuck :
    Silent (fun _ => .done ()) ∧ stuck.any Fate.failed = true ∧ ¬ Masked stuck ∧
      ((Scene.opening custody stuck).carryOut Engine.dealt
        (Removal.network "n1" fun _ => .done ())).1 = .removeFailed := by
  have failed : stuck.any Fate.failed = true := by decide
  have unmasked : ¬ Masked stuck := by decide
  obtain ⟨fates, shown, whole, shows, -⟩ :=
    failure_shown_unless_masked Engine.dealt (.opening custody stuck) "n1" silent_done
  have listed : account "n1" fates = account "n1" stuck := by
    rw [account, shown, ← whole]
    exact exchanges_dealt custody
  cases eq_of_account_eq listed
  exact ⟨silent_done, failed, unmasked, shows.mpr unmasked failed⟩

def inUse : CommandResult := ⟨[], encode "network one has active endpoints", .exited 1⟩

def kindredReversed : CommandResult := ⟨encode (tenLine ++ "\n" ++ oneLine ++ "\n"), [], .exited 0⟩

/-- A scene with two networks that are listed for an id, of which one is in use. -/
def occupied (listing : CommandResult) : Scene (List Reply) :=
  .opening custody
    [⟨["network", "ls"], none, listing, false⟩, ⟨["network", "rm"], some "n1", inUse, false⟩]

/-- The network that was asked for is still there, and its removal is reported.  The other way round
the failure shows. -/
theorem failure_masked :
    (∃ exchange ∈ exchanges (chronicle (engine kindredShell "docker")
        (Removal.network "n1" fun _ => .done ()) (occupied kindred)),
      exchange.call = .removeNetwork "n1" ∧ exchange.fails = true) ∧
    ((occupied kindred).carryOut (engine kindredShell "docker")
      (Removal.network "n1" fun _ => .done ())).1 = .removed ∧
    ((occupied kindredReversed).carryOut (engine kindredShell "docker")
      (Removal.network "n1" fun _ => .done ())).1 = .removeFailed := by
  refine ⟨?_, ?_, ?_⟩ <;> decide +kernel

end Bequest

end Reclaim
