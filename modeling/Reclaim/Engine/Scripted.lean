import Reclaim.Engine.Client

/-!
# A shell with prepared replies

A shell that runs nothing: for each command it looks through a list of prepared
replies for the first one that fits.  A reply fits by the first arguments and,
if it says so, by the last one; some replies serve only once.  A command that
no reply fits succeeds without output.
-/

set_option autoImplicit false

namespace Reclaim.Engine.Scripted

structure Reply where
  leading : List String
  last : Option String
  result : CommandResult
  once : Bool
  deriving DecidableEq, Repr

def Reply.fits (reply : Reply) (arguments : List String) : Bool :=
  reply.leading.isPrefixOf arguments &&
    match reply.last with
    | none => true
    | some last => arguments.getLast? == some last

def silent : CommandResult := ⟨[], [], .exited 0⟩

/-- Takes the first reply that fits; a reply that serves only once is used up. -/
def take (arguments : List String) : List Reply → CommandResult × List Reply
  | [] => (silent, [])
  | reply :: rest =>
    if reply.fits arguments then (reply.result, if reply.once then rest else reply :: rest)
    else
      let (result, left) := take arguments rest
      (result, reply :: left)

/-- The shell whose replies are prepared for one program; `refusal` says why another program
cannot be started. -/
def shell (program : String) (refusal : String → String) : Shell (List Reply) where
  run requested arguments replies :=
    if requested = program then
      let (result, left) := take arguments replies
      (.ok result, left)
    else (.error (refusal requested), replies)

end Reclaim.Engine.Scripted
