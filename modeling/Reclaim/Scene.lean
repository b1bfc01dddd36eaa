import Reclaim.Custody
import Reclaim.ExitQueue

/-!
# Scenes

A custody among all that it deals with: an engine's state, the host's exit
queue, and the journal.  Procedures are carried out in a scene, where each of
their requests finds its answer; the instructions that holders of a custody can
give are followed there too.
-/

set_option autoImplicit false

namespace Reclaim

/-- One entry of the journal: something reported, or a call with its answer and the commands that
were run for it. -/
inductive Entry where
  | event (event : Journal.Event)
  | called (call : Engine.Call) (answer : Engine.Answer call) (commands : List (List String))

def eventsOf (journal : List Entry) : List Journal.Event :=
  journal.filterMap fun
    | .event event => some event
    | .called _ _ _ => none

def commandsOf (journal : List Entry) : List (List String) :=
  journal.flatMap fun
    | .called _ _ commands => commands
    | .event _ => []

/-- A custody and all that it deals with.  What waits in the exit queue is the exit work of this
custody. -/
structure Scene (ω : Type) where
  custody : Custody
  exits : ExitQueue Unit
  world : ω
  journal : List Entry

namespace Scene

variable {ω : Type}

def opening (custody : Custody) (world : ω) : Scene ω := ⟨custody, .empty, world, []⟩

def report (scene : Scene ω) (events : List Journal.Event) : Scene ω :=
  { scene with journal := scene.journal ++ events.map .event }

def arm (scene : Scene ω) : Scene ω :=
  if scene.custody.armed then scene
  else
    { scene with
      custody := { scene.custody with armed := true }
      exits := scene.exits.install () }.report [.exitHookInstalled]

/-- Tells a watchdog what to watch over an open stream.  If it takes over, the stream is kept. -/
def attach (stream : Wire.Stream) (scene : Scene ω) : Wire.Registration × Scene ω :=
  let registration := Wire.register scene.custody.selector stream
  let scene := scene.report registration.events
  match registration.answer with
  | .ok true =>
    let custody := { scene.custody with connection := some registration.stream }
    (registration, { scene with custody := custody.markWatched }.report [.acknowledged])
  | .ok false => (registration, scene.report [.notAcknowledged])
  | .error _ => (registration, scene)

def act (scene : Scene ω) : HolderAct → Scene ω
  | .hold holding =>
    let scene := scene.arm
    { scene with custody := scene.custody.hold holding }
  | .releaseContainer id => { scene with custody := scene.custody.forget .container id }
  | .releaseNetwork id => { scene with custody := scene.custody.forget .network id }
  | .releaseImage name => { scene with custody := scene.custody.forget .image name }
  | .markWatched => { scene with custody := scene.custody.markWatched }
  | .bequeath selector => { scene with custody := scene.custody.bequeath selector }
  | .attach stream => (scene.attach stream).2

def actAll (scene : Scene ω) (acts : List HolderAct) : Scene ω := acts.foldl act scene

/-- An engine's turn in a scene: other holders act, the engine reports, and the call is entered
into the journal once it is answered. -/
def takeTurn (engine : Engine ω) (call : Engine.Call) (scene : Scene ω) :
    Engine.Answer call × Scene ω :=
  let turn := engine call scene.world
  let after := ({ scene with world := turn.world }.actAll turn.acts).report turn.events
  (turn.answer,
    { after with journal := after.journal ++ [.called call turn.answer turn.commands] })

def reply (engine : Engine ω) : (request : Request) → StateM (Scene ω) request.Reply
  | .call call => fun scene => takeTurn engine call scene
  | .log event => fun scene => ((), scene.report [event])
  | .holdings => fun scene => (scene.custody.inventory.holdings, scene)
  | .label id => fun scene => (scene.custody.inventory.label? id, scene)
  | .forget kind id => fun scene => ((), { scene with custody := scene.custody.forget kind id })
  | .watched => fun scene => (scene.custody.watched, scene)
  | .testament => fun scene => (scene.custody.testament, scene)

def carryOut {α : Type} (engine : Engine ω) (work : Procedure α) (scene : Scene ω) :
    α × Scene ω :=
  work.run (reply engine) scene

def dial (network : Wire.Network) (address : String) (scene : Scene ω) :
    Except Wire.Fault Bool × Scene ω :=
  match Wire.dial network scene.custody.patience address with
  | .error fault => (.error fault, scene)
  | .ok (place, stream) =>
    let (registration, scene) := (scene.report [.connected place]).attach stream
    (registration.answer, scene)

/-- Runs the exit work as often as it was installed and neither run nor discarded since. -/
def fire (engine : Engine ω) (scene : Scene ω) : Scene ω :=
  scene.exits.pending.foldl (fun scene _ => (scene.carryOut engine Custody.exitCleanup).2)
    { scene with exits := scene.exits.emptied }

inductive Instruction where
  | act (act : HolderAct)
  | stopContainer (id : String) (label : Option String)
  | removeNetwork (id : String)
  | cleanup
  | bequeath (selector : Selector)
  | bequeathLabels (labels : List (String × String))
  | sweep (selector : Selector)
  | attach (stream : Wire.Stream)
  | dial (address : String)
  | exitCleanup
  | fire
  | discard

inductive Result where
  | done
  | outcome (outcome : Outcome)
  | refused (fault : Clause.Fault)
  | registered (registration : Wire.Registration)
  | dialled (answer : Except Wire.Fault Bool)

def follow (engine : Engine ω) (network : Wire.Network) (scene : Scene ω) :
    Instruction → Result × Scene ω
  | .act act => (.done, scene.act act)
  | .stopContainer id label =>
    let (outcome, scene) := scene.carryOut engine (Custody.stopContainer id label)
    (.outcome outcome, scene)
  | .removeNetwork id =>
    let (outcome, scene) := scene.carryOut engine (Custody.removeNetwork id)
    (.outcome outcome, scene)
  | .cleanup => (.done, (scene.carryOut engine Custody.cleanup).2)
  | .bequeath selector => (.done, scene.act (.bequeath selector))
  | .bequeathLabels labels =>
    match Selector.ofLabels labels with
    | .error fault => (.refused fault, scene)
    | .ok selector => (.done, scene.act (.bequeath selector))
  | .sweep selector => (.done, (scene.carryOut engine (Sweep.selector selector)).2)
  | .attach stream =>
    let (registration, scene) := scene.attach stream
    (.registered registration, scene)
  | .dial address =>
    let (answer, scene) := scene.dial network address
    (.dialled answer, scene)
  | .exitCleanup => (.done, (scene.carryOut engine Custody.exitCleanup).2)
  | .fire => (.done, scene.fire engine)
  | .discard => (.done, { scene with exits := scene.exits.emptied })

end Scene

end Reclaim
