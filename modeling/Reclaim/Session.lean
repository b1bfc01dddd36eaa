import Reclaim.Engine.Client
import Reclaim.Engine.Simulated
import Reclaim.Scene

/-!
# Sessions

A session is a custody worked with from beginning to end: the instructions of
its holders, removals outside of it, calls to the engine behind its back, and,
where the engine is simulated, changes to the simulation.  Each step is
answered, and leaves behind the journal of that step.
-/

set_option autoImplicit false

namespace Reclaim.Session

/-- The engine of a session: simulated, or behind a client program in a shell with a state of
type `ω`. -/
inductive World (ω : Type) where
  | simulated (world : Engine.Simulated.World)
  | commanded (state : ω)

def engine {ω : Type} (shell : Engine.Shell ω) (program : String) : Engine (World ω) :=
  fun call world =>
    match world with
    | .simulated world =>
      let turn := Engine.Simulated.engine call world
      { turn with world := .simulated turn.world }
    | .commanded state =>
      let turn := Engine.Client.engine shell program call state
      { turn with world := .commanded turn.world }

def World.simulation? {ω : Type} : World ω → Option Engine.Simulated.World
  | .simulated world => some world
  | .commanded _ => none

def World.simulate {ω : Type} (change : Engine.Simulated.World → Engine.Simulated.World) :
    World ω → World ω
  | .simulated world => .simulated (change world)
  | .commanded state => .commanded state

inductive Step where
  | instruct (instruction : Scene.Instruction)
  /-- An instruction that cannot be given, because a clause in it is refused. -/
  | refused (fault : Clause.Fault)
  | removeContainer (id : String) (label : Option String)
  | removeNetwork (id : String)
  | removeImage (name : String)
  | call (call : Engine.Call)
  | labels
  | edit (edit : Engine.Simulated.Edit)
  /-- Replaces the stages that are played at inspections. -/
  | rehearse (stages : Keyed (List (List Engine.Simulated.Cue)))
  | present (id : String)
  | calls
  | forgetCalls

inductive Reply where
  | result (result : Scene.Result)
  | outcome (outcome : Outcome)
  | networks (outcome : Outcome) (deleted : List String)
  | answered (call : Engine.Call) (answer : Engine.Answer call) (commands : List (List String))
  | labels (labels : Keyed String)
  | presence (container network image : Bool)
  | calls (calls : List Engine.Call) (kills : Nat)
  | nothing

def deletedNetworks (journal : List Entry) : List String :=
  journal.filterMap fun
    | .called (.removeNetwork id) (.ok _) _ => some id
    | .called _ _ _ | .event _ => none

def withoutCalls (journal : List Entry) : List Entry :=
  journal.filter fun
    | .called _ _ _ => false
    | .event _ => true

def answer {ω : Type} (engine : Engine (World ω)) (network : Wire.Network)
    (scene : Scene (World ω)) : Step → Reply × Scene (World ω)
  | .instruct instruction =>
    let (result, scene) := scene.follow engine network instruction
    (.result result, scene)
  | .refused fault => (.result (.refused fault), scene)
  | .removeContainer id label =>
    let (outcome, scene) := scene.carryOut engine (Removal.container id label)
    (.outcome outcome, scene)
  | .removeNetwork id =>
    let (outcome, scene) := scene.carryOut engine (Removal.network id fun _ => pure ())
    (.networks outcome (deletedNetworks scene.journal), scene)
  | .removeImage name =>
    let (outcome, scene) := scene.carryOut engine (Removal.image name)
    (.outcome outcome, scene)
  | .call call =>
    let (answer, scene) := scene.takeTurn engine call
    (.answered call answer (commandsOf scene.journal),
      { scene with journal := withoutCalls scene.journal })
  | .labels => (.labels scene.custody.labels, scene)
  | .edit edit => (.nothing, { scene with world := scene.world.simulate (·.edit edit) })
  | .rehearse stages =>
    (.nothing, { scene with world := scene.world.simulate ({ · with stages := stages }) })
  | .present id =>
    match scene.world.simulation? with
    | some world =>
      (.presence (world.containers.contains id) (world.networks.contains id)
        (world.images.contains id), scene)
    | none => (.nothing, scene)
  | .calls =>
    match scene.world.simulation? with
    | some world => (.calls world.calls world.kills, scene)
    | none => (.nothing, scene)
  | .forgetCalls =>
    (.nothing, { scene with world := scene.world.simulate ({ · with calls := [] }) })

/-- What can be seen once a step has been answered: the answer, the journal of that step, and the
state of the custody. -/
structure Observation where
  reply : Reply
  journal : List Entry
  holdings : List Holding
  bequests : Nat
  watched : Bool
  installs : Nat

def observe {ω : Type} (engine : Engine (World ω)) (network : Wire.Network)
    (scene : Scene (World ω)) (step : Step) : Observation × Scene (World ω) :=
  let (reply, scene) := answer engine network { scene with journal := [] } step
  ({ reply := reply
     journal := scene.journal
     holdings := scene.custody.inventory.holdings
     bequests := scene.custody.testament.length
     watched := scene.custody.watched
     installs := scene.exits.installs }, scene)

def observeAll {ω : Type} (engine : Engine (World ω)) (network : Wire.Network)
    (scene : Scene (World ω)) : List Step → List Observation
  | [] => []
  | step :: rest =>
    let (observation, scene) := observe engine network scene step
    observation :: observeAll engine network scene rest

end Reclaim.Session
