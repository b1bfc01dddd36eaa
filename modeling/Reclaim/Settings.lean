import Reclaim.Keyed
import Reclaim.Wire.Dial

/-!
# Settings

What one can choose when a custody is set up: the labels by which the resources
of this process are known, the client program of the engine, and how long to
wait for a watchdog.

A session is known by a random number of one hundred and twenty-eight bits,
six of which tell that it is random, written as thirty-two lower-case
hexadecimal digits in five groups.
-/

set_option autoImplicit false

namespace Reclaim

def managedLabel : String := "reaper.managed"

def sessionLabel : String := "reaper.session-id"

def identifyingLabels (session : String) : Keyed String :=
  .ofList [(managedLabel, "true"), (sessionLabel, session)]

def defaultProgram : String := "docker"

namespace SessionId

/-- The lower-case hexadecimal digits of a number, `count` of them, the last ones. -/
def hexDigits (value : Nat) : Nat → List Char
  | 0 => []
  | count + 1 => hexDigits (value / 16) count ++ [Text.hexDigit (value % 16)]

/-- The id made from random bits: the thirteenth digit says version 4, and the seventeenth is one
of `8`, `9`, `a` and `b`. -/
def ofBits (bits : Nat) : String :=
  let digits := hexDigits bits 32
  let variant := Text.hexDigit (8 + bits % 4)
  String.ofList (digits.take 8 ++ '-' :: (digits.drop 8).take 4 ++ '-' :: '4' ::
    (digits.drop 13).take 3 ++ '-' :: variant :: (digits.drop 17).take 3 ++ '-' ::
    (digits.drop 20).take 12)

end SessionId

structure Settings where
  labels : Keyed String
  program : String
  patience : Wire.Patience
  deriving DecidableEq

namespace Settings

/-- How long a watchdog is waited for unless something else is chosen: ten seconds for the
connection and five for the acknowledgment. -/
def defaultPatience : Wire.Patience := ⟨10000, 5000⟩

def initial (session : String) : Settings :=
  ⟨identifyingLabels session, defaultProgram, defaultPatience⟩

inductive Choice where
  | labels (labels : List (String × String))
  | label (name value : String)
  | program (program : String)
  | patience (patience : Wire.Patience)
  deriving DecidableEq, Repr

def choose (settings : Settings) : Choice → Settings
  | .labels labels => { settings with labels := .ofList labels }
  | .label name value => { settings with labels := settings.labels.insert name value }
  | .program program => { settings with program := program }
  | .patience patience => { settings with patience := patience }

def chooseAll (settings : Settings) (choices : List Choice) : Settings :=
  choices.foldl choose settings

end Settings

end Reclaim
