import Reclaim.CommandLine.Relay
import Reclaim.CommandLine.Run
import Reclaim.Settings

/-!
# The program

Reads the command line and the environment, and runs what they ask for.  The
commands of the engine's client are relayed: each is written to standard
output as a line, and its result is read from standard input.
-/

set_option autoImplicit false

namespace Reclaim.Program

open CommandLine

def consulted : List String :=
  [programVariable, addressVariable, thresholdVariable, logPathVariable]

def readEnvironment : IO Environment :=
  consulted.filterMapM fun name => do
    let value ← IO.getEnv name
    return value.map fun value => (name, value)

def newSession : IO String := do
  return SessionId.ofBits (← IO.rand 0 0xffffffffffffffffffffffffffffffff)

/-- A host that relays commands, cannot reach any network, and makes no log files. -/
def host (session : String) (environment : Environment) : Host Relay.Transcript where
  shell := Relay.shell
  network := .unreachable
  session := session
  environment := environment
  isDirectory := LogPath.leadsToDirectory []
  refusal? _ _ := some "no files can be made here"

def conclude (conclusion : Conclusion) : IO UInt32 := do
  IO.print conclusion.stdout
  IO.eprint conclusion.stderr
  return UInt32.ofNat conclusion.exit

/-- Runs an invocation with the results known so far, until no result is wanting. -/
partial def carryOut (host : Host Relay.Transcript) (invocation : Invocation)
    (results : List Relay.Result) : IO UInt32 := do
  let (conclusion, transcript) := invocation.run host (.opening results)
  match transcript.wanting with
  | none => conclude conclusion
  | some command =>
    IO.println (Relay.writeCommand command)
    (← IO.getStdout).flush
    let line ← (← IO.getStdin).getLine
    carryOut host invocation (results ++ [Relay.readResult line])

end Reclaim.Program

def main (arguments : List String) : IO UInt32 := do
  let environment ← Reclaim.Program.readEnvironment
  match Reclaim.CommandLine.parse environment arguments with
  | .error fault =>
    IO.eprint (Reclaim.CommandLine.UsageFault.text fault)
    return UInt32.ofNat fault.exit
  | .ok invocation =>
    let session ← Reclaim.Program.newSession
    Reclaim.Program.carryOut (Reclaim.Program.host session environment) invocation []
