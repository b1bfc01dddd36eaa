import Reclaim.Engine
import Reclaim.Journal
import Reclaim.Selector
import Reclaim.Wire.Stream

/-!
# An engine's turn

An engine with a state of type `ω` answers each call by a turn.  A custody may
be shared by several holders, and some of them may act while a call is on its
way; a turn therefore also says what they did in the meantime.
-/

set_option autoImplicit false

namespace Reclaim

/-- What a holder of a custody can do at any time, also during a call of somebody else. -/
inductive HolderAct where
  | hold (holding : Holding)
  /-- Takes a container over: it is held no longer and left alone. -/
  | releaseContainer (id : String)
  | releaseNetwork (id : String)
  | releaseImage (name : String)
  | markWatched
  | bequeath (selector : Selector)
  | attach (stream : Wire.Stream)
  deriving DecidableEq

namespace Engine

/-- What happens at one call: the answer, the engine's state afterwards, what other holders did in
the meantime, what the engine reported, and the commands that were run for it. -/
structure Turn (call : Call) (ω : Type) where
  answer : Answer call
  world : ω
  acts : List HolderAct
  events : List Journal.Event
  commands : List (List String)

def Turn.plain {call : Call} {ω : Type} (answer : Answer call) (world : ω) : Turn call ω :=
  ⟨answer, world, [], [], []⟩

end Engine

abbrev Engine (ω : Type) : Type := (call : Engine.Call) → ω → Engine.Turn call ω

end Reclaim
