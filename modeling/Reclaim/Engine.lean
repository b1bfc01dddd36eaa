import Reclaim.Resource

/-!
# Container engines

What can be asked of a container engine, what it can answer, and why it can
fail.  A `Call` determines the type of its value; an `Engine` over a state `ω`
takes its turn at a call, and while it does so other holders of the same
custody may act, the engine may log, and commands may be run on its behalf.
-/

set_option autoImplicit false

namespace Reclaim.Engine

inductive Fault where
  | notFound (kind : ResourceKind) (id : String)
  | transport (operation : String) (message : String)
  /-- The call succeeded, and its output makes no sense. -/
  | undecodable (operation : String) (message : String)
  deriving DecidableEq, Repr

def Fault.message : Fault → String
  | .notFound kind id => "No such " ++ kind.name ++ ": " ++ id
  | .transport operation message => "Runtime call `" ++ operation ++ "` failed: " ++ message
  | .undecodable operation message =>
    "Failed to decode output of `" ++ operation ++ "`: " ++ message

def emptyOutput : String := "empty output"

def Fault.isNotFound : Fault → Bool
  | .notFound _ _ => true
  | .transport _ _ | .undecodable _ _ => false

/-- A fault with the notes made on its way, the latest first. -/
structure Report where
  fault : Fault
  notes : List String
  deriving DecidableEq, Repr

def Report.bare (fault : Fault) : Report := ⟨fault, []⟩

def Report.attach (report : Report) (note : String) : Report :=
  { report with notes := note :: report.notes }

def Report.isNotFound (report : Report) : Bool := report.fault.isNotFound

structure ContainerState where
  running : Bool
  status : String
  deriving DecidableEq, Repr

structure ListedContainer where
  id : String
  image : String
  deriving DecidableEq, Repr

structure ListedNetwork where
  id : String
  name : String
  deriving DecidableEq, Repr

inductive SweepKind where
  | containers
  | networks
  | volumes
  | images
  deriving DecidableEq, Repr

def SweepKind.name : SweepKind → String
  | .containers => "containers"
  | .networks => "networks"
  | .volumes => "volumes"
  | .images => "images"

/-- All kinds in the order of a sweep: containers before the networks and volumes they use. -/
def SweepKind.all : List SweepKind := [.containers, .networks, .volumes, .images]

inductive Call where
  | inspect (id : String)
  | kill (id : String)
  | remove (id : String) (force : Bool) (volumes : Bool)
  | listContainers (labels : List String)
  | listNetworks (id : String)
  | removeNetwork (id : String)
  | removeImage (name : String) (force : Bool)
  | prune (kind : SweepKind) (labels : List String)
  deriving DecidableEq, Repr

abbrev Call.Value : Call → Type
  | .inspect _ => ContainerState
  | .listContainers _ => List ListedContainer
  | .listNetworks _ => List ListedNetwork
  | .kill _ | .remove _ _ _ | .removeNetwork _ | .removeImage _ _ | .prune _ _ => Unit

abbrev Answer (call : Call) : Type := Except Report call.Value

def Call.forceRemove (id : String) : Call := .remove id true true

end Reclaim.Engine
