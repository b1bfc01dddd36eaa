import Reclaim.Engine.Turn
import Reclaim.Keyed

/-!
# A simulated engine

An engine in memory: containers with labels, networks and images.  It records
every call, can be told to fail all calls of one kind, and can be given stages
to play when a container is inspected, in which other holders act or the
engine's resources change.
-/

set_option autoImplicit false

namespace Reclaim.Engine

inductive Operation where
  | inspect
  | kill
  | remove
  | listContainers
  | listNetworks
  | removeNetwork
  | removeImage
  | prune
  deriving DecidableEq, Repr

def Call.kindOf : Call → Operation
  | .inspect _ => .inspect
  | .kill _ => .kill
  | .remove _ _ _ => .remove
  | .listContainers _ => .listContainers
  | .listNetworks _ => .listNetworks
  | .removeNetwork _ => .removeNetwork
  | .removeImage _ _ => .removeImage
  | .prune _ _ => .prune

namespace Simulated

structure Container where
  image : String
  running : Bool
  labels : Keyed String
  deriving DecidableEq

inductive Edit where
  | addContainer (id : String) (container : Container)
  | addNetwork (id name : String)
  | addImage (name : String)
  | fail (operation : Operation) (fault : Fault)
  | clear (operation : Operation)
  | vanish (id : String)

inductive Cue where
  | act (act : HolderAct)
  | edit (edit : Edit)

/-- The state of the simulation.  Its stages are kept by container id, the next one first. -/
structure World where
  containers : Keyed Container
  networks : Keyed String
  images : Keyed Unit
  failures : List (Operation × Fault)
  calls : List Call
  stages : Keyed (List (List Cue))

def World.empty : World := ⟨.empty, .empty, .empty, [], [], .empty⟩

def injected : String := "injected by MockRuntime"

def splitFilter : List Char → List Char × List Char
  | [] => ([], [])
  | '=' :: rest => ([], rest)
  | c :: rest => let (key, value) := splitFilter rest; (c :: key, value)

def Container.carries (container : Container) (filter : String) : Bool :=
  let (key, value) := splitFilter filter.toList
  container.labels.get? (String.ofList key) == some (String.ofList value)

def Container.carriesAll (container : Container) (filters : List String) : Bool :=
  filters.all container.carries

def Container.state (container : Container) : ContainerState :=
  ⟨container.running, if container.running then "running" else "exited"⟩

def absent (kind : ResourceKind) (id : String) : Report := .bare (.notFound kind id)

/-- Carries out a call as if no failure had been asked for. -/
def World.perform (world : World) : (call : Call) → Answer call × World
  | .inspect id =>
    match world.containers.get? id with
    | some container => (.ok container.state, world)
    | none => (.error (absent .container id), world)
  | .kill id =>
    match world.containers.get? id with
    | some container =>
      (.ok (), { world with
        containers := world.containers.insert id { container with running := false } })
    | none => (.error (absent .container id), world)
  | .remove id force _ =>
    match world.containers.get? id with
    | some container =>
      if container.running && !force then
        (.error (.bare (.transport "rm" ("container " ++ id ++ " is running"))), world)
      else (.ok (), { world with containers := world.containers.erase id })
    | none => (.error (absent .container id), world)
  | .listContainers labels =>
    (.ok ((world.containers.entries.filter fun entry => entry.2.carriesAll labels).map
      fun entry => ⟨entry.1, entry.2.image⟩), world)
  | .listNetworks id =>
    match world.networks.get? id with
    | some name => (.ok [⟨id, name⟩], world)
    | none => (.ok [], world)
  | .removeNetwork id =>
    if world.networks.contains id then
      (.ok (), { world with networks := world.networks.erase id })
    else (.error (absent .network id), world)
  | .removeImage name _ =>
    if world.images.contains name then
      (.ok (), { world with images := world.images.erase name })
    else (.error (absent .image name), world)
  | .prune _ _ => (.ok (), world)

def World.failure? (world : World) (operation : Operation) : Option Fault :=
  world.failures.lookup operation

/-- Records a call and carries it out, unless it was told to fail. -/
def World.answer (world : World) (call : Call) : Answer call × World :=
  let recorded := { world with calls := world.calls ++ [call] }
  match recorded.failure? call.kindOf with
  | some fault => (.error ((Report.bare fault).attach injected), recorded)
  | none => recorded.perform call

def World.edit (world : World) : Edit → World
  | .addContainer id container =>
    { world with containers := world.containers.insert id container }
  | .addNetwork id name => { world with networks := world.networks.insert id name }
  | .addImage name => { world with images := world.images.insert name () }
  | .fail operation fault =>
    { world with failures :=
        (operation, fault) :: world.failures.filter fun entry => entry.1 != operation }
  | .clear operation =>
    { world with failures := world.failures.filter fun entry => entry.1 != operation }
  | .vanish id => (world.answer (.remove id true false)).2

def actsOf (stage : List Cue) : List HolderAct :=
  stage.filterMap fun
    | .act act => some act
    | .edit _ => none

def World.play (world : World) (stage : List Cue) : World :=
  stage.foldl (fun world cue =>
    match cue with
    | .act _ => world
    | .edit edit => world.edit edit) world

def World.due (world : World) : Call → List Cue × World
  | .inspect id =>
    match world.stages.get? id with
    | some (stage :: later) => (stage, { world with stages := world.stages.insert id later })
    | some [] | none => ([], world)
  | _ => ([], world)

/-- The simulated engine: a stage that is due is played before the call is recorded. -/
def engine : Engine World := fun call world =>
  let (stage, world) := world.due call
  let (answer, world) := (world.play stage).answer call
  ⟨answer, world, actsOf stage, [], []⟩

def World.kills (world : World) : Nat :=
  world.calls.countP fun call => call.kindOf == .kill

end Simulated

end Reclaim.Engine
