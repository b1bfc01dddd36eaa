import Reclaim.Proofs.Holdings
import Reclaim.Scene

/-!
# Chronicles

What happens while a procedure is carried out, moment by moment: the answers to
its requests, and the acts of other holders that come in while a call is on its
way.  A chronicle of two procedures in a row is made of theirs
(`chronicle_bind`), and it alone determines what becomes of the custody
(`custody_carryOut`).
-/

set_option autoImplicit false

namespace Reclaim

namespace Procedure

variable {α β : Type}

@[simp] theorem bind_eq (work : Procedure α) (next : α → Procedure β) :
    (work >>= next) = work.bind next := rfl

@[simp] theorem pure_eq (value : α) : (pure value : Procedure α) = .done value := rfl

@[simp] theorem request_eq (asked : Request) : request asked = .ask asked .done := rfl

@[simp] theorem call_eq (asked : Engine.Call) : call asked = .ask (.call asked) .done := rfl

@[simp] theorem log_eq (event : Journal.Event) : log event = .ask (.log event) .done := rfl

end Procedure

/-- One thing that happens while a procedure is carried out. -/
inductive Moment where
  /-- Another holder acts while a call is on its way. -/
  | acted (act : HolderAct)
  | answered (request : Request) (reply : request.Reply)

namespace Moment

def takes (kind : ResourceKind) (id : String) : Moment → Bool
  | .acted (.hold holding) => decide (holding.kind = kind ∧ holding.id = id)
  | .acted _ | .answered _ _ => false

def releases (kind : ResourceKind) (id : String) : Moment → Bool
  | .acted (.releaseContainer other) => decide (.container = kind ∧ other = id)
  | .acted (.releaseNetwork other) => decide (.network = kind ∧ other = id)
  | .acted (.releaseImage other) => decide (.image = kind ∧ other = id)
  | .acted _ | .answered _ _ => false

def forgets (kind : ResourceKind) (id : String) : Moment → Bool
  | .answered (.forget other target) _ => decide (other = kind ∧ target = id)
  | .acted _ | .answered _ _ => false

end Moment

structure Exchange where
  call : Engine.Call
  answer : Engine.Answer call

def Moment.exchange? : Moment → Option Exchange
  | .answered (.call call) answer => some ⟨call, answer⟩
  | .acted _ | .answered _ _ => none

def exchanges (tale : List Moment) : List Exchange := tale.filterMap Moment.exchange?

def calls (tale : List Moment) : List Engine.Call := (exchanges tale).map Exchange.call

@[simp] theorem exchanges_nil : exchanges [] = [] := rfl

@[simp] theorem exchanges_append (first second : List Moment) :
    exchanges (first ++ second) = exchanges first ++ exchanges second :=
  List.filterMap_append

@[simp] theorem exchanges_acted (acts : List HolderAct) :
    exchanges (acts.map .acted) = [] := by
  induction acts with
  | nil => rfl
  | cons act rest ih => exact ih

@[simp] theorem exchanges_cons_call (call : Engine.Call) (answer : Engine.Answer call)
    (tale : List Moment) :
    exchanges (.answered (.call call) answer :: tale) = ⟨call, answer⟩ :: exchanges tale := rfl

@[simp] theorem exchanges_cons_log (event : Journal.Event) (reply : Unit) (tale : List Moment) :
    exchanges (.answered (.log event) reply :: tale) = exchanges tale := rfl

@[simp] theorem exchanges_cons_label (id : String) (reply : Option String) (tale : List Moment) :
    exchanges (.answered (.label id) reply :: tale) = exchanges tale := rfl

@[simp] theorem exchanges_cons_forget (kind : ResourceKind) (id : String) (reply : Unit)
    (tale : List Moment) :
    exchanges (.answered (.forget kind id) reply :: tale) = exchanges tale := rfl

@[simp] theorem calls_append (first second : List Moment) :
    calls (first ++ second) = calls first ++ calls second := by
  simp [calls]

/-- What a custody becomes when a watchdog is told what to watch. -/
def Custody.attach (custody : Custody) (stream : Wire.Stream) : Custody :=
  let registration := Wire.register custody.selector stream
  match registration.answer with
  | .ok true => { custody with connection := some registration.stream }.markWatched
  | .ok false | .error _ => custody

/-- What a moment leaves of a custody. -/
def Custody.after (custody : Custody) : Moment → Custody
  | .acted (.hold holding) => { custody with armed := true }.hold holding
  | .acted (.releaseContainer id) => custody.forget .container id
  | .acted (.releaseNetwork id) => custody.forget .network id
  | .acted (.releaseImage name) => custody.forget .image name
  | .acted .markWatched => custody.markWatched
  | .acted (.bequeath selector) => custody.bequeath selector
  | .acted (.attach stream) => custody.attach stream
  | .answered (.forget kind id) _ => custody.forget kind id
  | .answered _ _ => custody

theorem Custody.inventory_attach (custody : Custody) (stream : Wire.Stream) :
    (custody.attach stream).inventory = custody.inventory := by
  unfold attach
  dsimp only
  split <;> rfl

theorem Custody.contains_after (custody : Custody) (moment : Moment) (kind : ResourceKind)
    (id : String) :
    (custody.after moment).inventory.contains kind id =
      (moment.takes kind id || (!moment.releases kind id && (!moment.forgets kind id &&
        custody.inventory.contains kind id))) := by
  cases moment with
  | acted act =>
    cases act <;> simp [after, hold, forget, markWatched, bequeath, inventory_attach,
      Inventory.contains_insert, Inventory.contains_erase, Moment.takes, Moment.releases,
      Moment.forgets]
  | answered request reply =>
    cases request <;> simp [after, forget, Inventory.contains_erase, Moment.takes,
      Moment.releases, Moment.forgets]

/-- What is held later has been held all along, or somebody registered it. -/
theorem Custody.contains_or_takes {kind : ResourceKind} {id : String} (tale : List Moment)
    (custody : Custody)
    (held : (tale.foldl Custody.after custody).inventory.contains kind id = true) :
    custody.inventory.contains kind id = true ∨
      ∃ moment ∈ tale, moment.takes kind id = true := by
  induction tale generalizing custody with
  | nil => exact Or.inl held
  | cons moment rest ih =>
    rcases ih (custody.after moment) held with before | ⟨later, member, takes⟩
    · cases takes : moment.takes kind id with
      | true => exact Or.inr ⟨moment, .head _, takes⟩
      | false =>
        rw [contains_after, takes, Bool.false_or, Bool.and_eq_true, Bool.and_eq_true] at before
        exact Or.inl before.2.2
    · exact Or.inr ⟨later, .tail _ member, takes⟩

/-- What is held is held later too, unless somebody lets go of it. -/
theorem Custody.contains_foldl_of_kept {kind : ResourceKind} {id : String}
    (tale : List Moment) (custody : Custody)
    (held : custody.inventory.contains kind id = true)
    (unreleased : ∀ moment ∈ tale, moment.releases kind id = false)
    (unforgotten : ∀ moment ∈ tale, moment.forgets kind id = false) :
    (tale.foldl Custody.after custody).inventory.contains kind id = true := by
  induction tale generalizing custody with
  | nil => exact held
  | cons moment rest ih =>
    refine ih (custody.after moment) ?_ (fun later member => unreleased later (.tail _ member))
      fun later member => unforgotten later (.tail _ member)
    simp [contains_after, unreleased moment (.head _), unforgotten moment (.head _), held]

namespace Scene

variable {ω α β : Type}

/-! ## Carrying out -/

@[simp] theorem carryOut_done (engine : Engine ω) (value : α) (scene : Scene ω) :
    scene.carryOut engine (.done value) = (value, scene) := rfl

@[simp] theorem carryOut_ask (engine : Engine ω) (request : Request)
    (next : request.Reply → Procedure α) (scene : Scene ω) :
    scene.carryOut engine (.ask request next) =
      (reply engine request scene).2.carryOut engine (next (reply engine request scene).1) := rfl

theorem carryOut_bind (engine : Engine ω) (work : Procedure α) (next : α → Procedure β)
    (scene : Scene ω) :
    scene.carryOut engine (work.bind next) =
      (scene.carryOut engine work).2.carryOut engine (next (scene.carryOut engine work).1) := by
  induction work generalizing scene with
  | done value => rfl
  | ask request rest ih => exact ih _ _

def interruptions (engine : Engine ω) (scene : Scene ω) : Request → List HolderAct
  | .call call => (engine call scene.world).acts
  | .log _ | .holdings | .label _ | .forget _ _ | .watched | .testament => []

/-- What happens while a procedure is carried out. -/
def chronicle (engine : Engine ω) : Procedure α → Scene ω → List Moment
  | .done _, _ => []
  | .ask request next, scene =>
    (scene.interruptions engine request).map .acted ++
      .answered request (reply engine request scene).1 ::
        chronicle engine (next (reply engine request scene).1) (reply engine request scene).2

@[simp] theorem chronicle_done (engine : Engine ω) (value : α) (scene : Scene ω) :
    chronicle engine (.done value) scene = [] := rfl

theorem chronicle_ask (engine : Engine ω) (request : Request)
    (next : request.Reply → Procedure α) (scene : Scene ω) :
    chronicle engine (.ask request next) scene =
      (scene.interruptions engine request).map .acted ++
        .answered request (reply engine request scene).1 ::
          chronicle engine (next (reply engine request scene).1)
            (reply engine request scene).2 := rfl

theorem chronicle_bind (engine : Engine ω) (work : Procedure α) (next : α → Procedure β)
    (scene : Scene ω) :
    chronicle engine (work.bind next) scene =
      chronicle engine work scene ++
        chronicle engine (next (scene.carryOut engine work).1) (scene.carryOut engine work).2 := by
  induction work generalizing scene with
  | done value => rfl
  | ask request rest ih => simp [chronicle_ask, ih]

end Scene

/-! ## What all chronicles of a procedure have in common -/

def Request.isCall : Request → Bool
  | .call _ => true
  | .log _ | .holdings | .label _ | .forget _ _ | .watched | .testament => false

/-- Whatever is answered, and whatever other holders do meanwhile, a procedure's chronicle and its
value are as `post` says. -/
def Procedure.Ensures {α : Type} : Procedure α → (List Moment → α → Prop) → Prop
  | .done value, post => post [] value
  | .ask request next, post =>
    ∀ acts reply, (request.isCall = false → acts = []) →
      (next reply).Ensures fun tale =>
        post (List.map Moment.acted acts ++ .answered request reply :: tale)

namespace Procedure

variable {ω α β : Type}

@[simp] theorem ensures_done (value : α) (post : List Moment → α → Prop) :
    (Procedure.done value).Ensures post ↔ post [] value := Iff.rfl

@[simp] theorem ensures_call (call : Engine.Call) (next : Engine.Answer call → Procedure α)
    (post : List Moment → α → Prop) :
    (Procedure.ask (.call call) next).Ensures post ↔
      ∀ acts answer, (next answer).Ensures fun tale =>
        post (List.map Moment.acted acts ++ .answered (.call call) answer :: tale) := by
  constructor
  · intro ensured acts answer
    exact ensured acts answer nofun
  · intro ensured acts answer _
    exact ensured acts answer

theorem ensures_silent {request : Request} (silent : request.isCall = false)
    (next : request.Reply → Procedure α) (post : List Moment → α → Prop) :
    (Procedure.ask request next).Ensures post ↔
      ∀ reply, (next reply).Ensures fun tale => post (.answered request reply :: tale) := by
  constructor
  · intro ensured reply
    exact ensured [] reply fun _ => rfl
  · intro ensured acts reply undisturbed
    rw [undisturbed silent]
    exact ensured reply

@[simp] theorem ensures_log (event : Journal.Event) (next : Unit → Procedure α)
    (post : List Moment → α → Prop) :
    (Procedure.ask (.log event) next).Ensures post ↔
      ∀ reply, (next reply).Ensures fun tale => post (.answered (.log event) reply :: tale) :=
  ensures_silent rfl _ _

@[simp] theorem ensures_label (id : String) (next : Option String → Procedure α)
    (post : List Moment → α → Prop) :
    (Procedure.ask (.label id) next).Ensures post ↔
      ∀ reply, (next reply).Ensures fun tale => post (.answered (.label id) reply :: tale) :=
  ensures_silent rfl _ _

@[simp] theorem ensures_forget (kind : ResourceKind) (id : String) (next : Unit → Procedure α)
    (post : List Moment → α → Prop) :
    (Procedure.ask (.forget kind id) next).Ensures post ↔
      ∀ reply, (next reply).Ensures fun tale =>
        post (.answered (.forget kind id) reply :: tale) :=
  ensures_silent rfl _ _

theorem Ensures.mono {work : Procedure α} {post weaker : List Moment → α → Prop}
    (ensured : work.Ensures post) (implies : ∀ tale value, post tale value → weaker tale value) :
    work.Ensures weaker := by
  induction work generalizing post weaker with
  | done value => exact implies _ _ ensured
  | ask request next ih =>
    intro acts reply undisturbed
    exact ih reply (ensured acts reply undisturbed) fun tale value => implies _ value

theorem Ensures.bind {work : Procedure α} {next : α → Procedure β}
    {post : List Moment → α → Prop} {final : List Moment → β → Prop}
    (ensured : work.Ensures post)
    (continued : ∀ tale value, post tale value →
      (next value).Ensures fun later => final (tale ++ later)) :
    (work.bind next).Ensures final := by
  induction work generalizing post final with
  | done value => exact continued [] value ensured
  | ask request rest ih =>
    intro acts reply undisturbed
    refine ih reply (ensured acts reply undisturbed) ?_
    intro tale value held
    simpa only [List.append_assoc, List.cons_append] using continued _ value held

theorem Ensures.holds {work : Procedure α} {post : List Moment → α → Prop}
    (ensured : work.Ensures post) (engine : Engine ω) (scene : Scene ω) :
    post (Scene.chronicle engine work scene) (scene.carryOut engine work).1 := by
  induction work generalizing post scene with
  | done value => exact ensured
  | ask request next ih =>
    refine ih _ (ensured _ (Scene.reply engine request scene).1 ?_) _
    intro silent
    cases request <;> first | rfl | cases silent

end Procedure

/-! ## What becomes of the custody -/

namespace Scene

variable {ω α : Type}

theorem custody_attach (scene : Scene ω) (stream : Wire.Stream) :
    (scene.attach stream).2.custody = scene.custody.attach stream := by
  simp only [Scene.attach, Custody.attach]
  rcases (Wire.register scene.custody.selector stream).answer with fault | acknowledged
  · rfl
  · cases acknowledged <;> rfl

theorem world_attach (scene : Scene ω) (stream : Wire.Stream) :
    (scene.attach stream).2.world = scene.world := by
  simp only [Scene.attach]
  rcases (Wire.register scene.custody.selector stream).answer with fault | acknowledged
  · rfl
  · cases acknowledged <;> rfl

theorem exits_attach (scene : Scene ω) (stream : Wire.Stream) :
    (scene.attach stream).2.exits = scene.exits := by
  simp only [Scene.attach]
  rcases (Wire.register scene.custody.selector stream).answer with fault | acknowledged
  · rfl
  · cases acknowledged <;> rfl

theorem custody_act (scene : Scene ω) (act : HolderAct) :
    (scene.act act).custody = scene.custody.after (.acted act) := by
  cases act with
  | hold holding =>
    simp only [Scene.act, arm, Custody.after]
    split
    · rename_i armed
      simp [← armed]
    · rfl
  | releaseContainer id => rfl
  | releaseNetwork id => rfl
  | releaseImage name => rfl
  | markWatched => rfl
  | bequeath selector => rfl
  | attach stream => exact custody_attach scene stream

theorem custody_actAll (scene : Scene ω) (acts : List HolderAct) :
    (scene.actAll acts).custody = (acts.map Moment.acted).foldl Custody.after scene.custody := by
  induction acts generalizing scene with
  | nil => rfl
  | cons act rest ih =>
    have later := ih (scene.act act)
    rw [custody_act] at later
    exact later

theorem custody_reply (engine : Engine ω) (request : Request) (scene : Scene ω) :
    (reply engine request scene).2.custody =
      ((scene.interruptions engine request).map Moment.acted ++
        [Moment.answered request (reply engine request scene).1]).foldl
          Custody.after scene.custody := by
  rw [List.foldl_append]
  cases request with
  | call call => exact custody_actAll { scene with world := (engine call scene.world).world } _
  | log event => rfl
  | holdings => rfl
  | label id => rfl
  | forget kind id => rfl
  | watched => rfl
  | testament => rfl

/-- The custody afterwards is what the moments of the chronicle leave of it, one after another. -/
theorem custody_carryOut (engine : Engine ω) (work : Procedure α) (scene : Scene ω) :
    (scene.carryOut engine work).2.custody =
      (chronicle engine work scene).foldl Custody.after scene.custody := by
  induction work generalizing scene with
  | done value => rfl
  | ask request next ih =>
    rw [carryOut_ask, ih, custody_reply, ← List.foldl_append, chronicle_ask, List.append_assoc]
    rfl

end Scene

end Reclaim
