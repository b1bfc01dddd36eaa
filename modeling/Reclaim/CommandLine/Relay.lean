import Reclaim.Engine.Client
import Reclaim.Json.Record
import Reclaim.Text.Digits

/-!
# Commands by relay

The program starts no processes itself.  It writes each command as a line, a
JSON list of texts, and whoever runs the command for it writes back its result
as a line, a JSON record.  A transcript holds the results known so far; run
with a transcript that has become too short, a shell notes the command whose
result is still wanting.  As an invocation with the same results asks for the
same commands, it can be run again from the beginning once that result is
known.
-/

set_option autoImplicit false

namespace Reclaim.CommandLine.Relay

open Engine (CommandResult)

abbrev Result := Except String CommandResult

/-- The results that are left, and the first command for which there was none. -/
structure Transcript where
  left : List Result
  wanting : Option (List String)

def Transcript.opening (results : List Result) : Transcript := ⟨results, none⟩

def noResult : String := "the result of the command is not known yet"

def shell : Engine.Shell Transcript where
  run program arguments transcript :=
    match transcript.wanting, transcript.left with
    | none, result :: left => (result, { transcript with left := left })
    | none, [] => (.error noResult, { transcript with wanting := some (program :: arguments) })
    | some _, _ => (.error noResult, transcript)

def writeCommand (command : List String) : String :=
  Json.writeList (command.map Json.writeText)

def resultLayout : Json.Layout :=
  ⟨"Result",
    [⟨"stdout", .text, false⟩, ⟨"stderr", .text, false⟩, ⟨"exit", .text, false⟩,
      ⟨"signal", .text, false⟩, ⟨"unstarted", .text, false⟩]⟩

def number? (row : Json.Row) (name : String) : Option Nat := do
  let text ← row.text? name
  (Text.readNumeral 256 text.toList).toOption

def resultOfRow (row : Json.Row) : Result :=
  match row.text? "unstarted" with
  | some reason => .error reason
  | none =>
    let bytes (name : String) : List UInt8 := Text.Utf8.encode ((row.text? name).getD "")
    .ok ⟨bytes "stdout", bytes "stderr",
      match number? row "signal" with
      | some signal => .killed signal
      | none => .exited ((number? row "exit").getD 0)⟩

def unreadable : String := "the result of the command cannot be read"

/-- The result that a line writes.  A line that writes none counts as a command that could not be
started. -/
def readResult (line : String) : Result :=
  match resultLayout.decode line.toList with
  | .ok row => resultOfRow row
  | .error _ => .error unreadable

end Reclaim.CommandLine.Relay
