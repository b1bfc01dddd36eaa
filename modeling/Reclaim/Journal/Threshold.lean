import Reclaim.Journal
import Reclaim.Journal.Pattern
import Reclaim.Text.Basic
import Reclaim.Text.Digits
import Reclaim.Text.Printable
import Reclaim.Text.Utf8

/-!
# Which events are logged

A threshold is a list of rules separated by commas.  A rule gives a level to
the events of the program parts whose names begin in a certain way, or to all
events, and can be narrowed to the events that have a certain field.  Of several
rules for an event the one with the longest beginning counts, then one that asks
for a field, and of two that are alike the later one.  A rule that cannot be
read is complained about and left out, unless it would have to be cut inside a
character: there the reading of the whole threshold breaks down.  Rules on spans
of work, and rules on the values of fields, which only spans keep, are read but
never apply, as this program has no spans.
-/

set_option autoImplicit false

namespace Reclaim.Journal

/-- The least level that is logged, or `none` if nothing is. -/
abbrev Cutoff := Option Level

structure Demand where
  name : String
  value : Option String
  deriving DecidableEq, Repr

structure Rule where
  /-- How the names of the parts begin that the rule is about; `none` for all parts. -/
  target : Option String
  span : Option String
  demand : Option Demand
  cutoff : Cutoff
  deriving DecidableEq, Repr

/-- A cut through a rule that would go through a character. -/
structure Tear where
  closing : Bool
  behind : Nat
  deriving DecidableEq, Repr

inductive RuleFault where
  | form
  | level
  | value (fault : Pattern.Fault)
  | torn (tear : Tear)
  deriving DecidableEq, Repr

/-- The character of a text that a byte belongs to, and where it begins; the text begins at
`start`. -/
def characterOf (byte start : Nat) : List Char → Option (Nat × Char)
  | [] => none
  | c :: rest =>
    if byte < start + c.utf8Size then some (start, c)
    else characterOf byte (start + c.utf8Size) rest

def Tear.message (tear : Tear) (rule : List Char) : String :=
  let byte := (rule.flatMap String.utf8EncodeChar).length - tear.behind
  let side := if tear.closing then "end" else "start"
  side ++ " byte index " ++ toString byte ++ " is not a char boundary" ++
    match characterOf byte 0 rule with
    | none => ""
    | some (start, c) =>
      "; it is inside '" ++ String.ofList (Text.quoteChar c) ++ "' (bytes " ++ toString start ++
        ".." ++ toString (start + c.utf8Size) ++ " of string)"

def RuleFault.message (rule : List Char) : RuleFault → String
  | .form => "invalid filter directive"
  | .level =>
    "error parsing level filter: expected one of \"off\", \"error\", \"warn\", \"info\", " ++
      "\"debug\", \"trace\", or a number 0-5"
  | .value fault => "invalid field filter: " ++ fault.message
  | .torn tear => tear.message rule

def Rule.usual : Rule := ⟨none, none, none, some .info⟩

/-! ## Levels -/

def cutoffNames : List (String × Cutoff) :=
  [("off", none), ("error", some .error), ("warn", some .warn), ("info", some .info),
    ("debug", some .debug), ("trace", some .trace)]

def numberedCutoff? (text : List Char) : Option Cutoff :=
  match Text.readNumeral cutoffNames.length text with
  | .ok number => cutoffNames[number]?.map Prod.snd
  | .error _ => none

def readCutoff (text : List Char) : Option Cutoff :=
  (numberedCutoff? text).or (cutoffNames.lookup (String.ofList (Text.lowered text)))

/-! ## Passages -/

/-- A text on two tracks: the marks in a rule are looked for in its text without the blanks at its
ends, and what stands between them is taken, byte for byte, from the whole text.  Both are counted
from their beginnings, so blanks in front of a rule shift what is taken from it, and a cut can go
through a character. -/
structure Passage where
  seen : List UInt8
  taken : List UInt8
  deriving DecidableEq, Repr

def Passage.ofText (text : List Char) : Passage :=
  ⟨(Text.trim text).flatMap String.utf8EncodeChar, text.flatMap String.utf8EncodeChar⟩

/-- Whether a cut before a passage goes through a character: whether the first byte that would be
taken from it is not the first one of a character. -/
def Passage.isTorn (passage : Passage) : Bool :=
  passage.taken.head?.any fun b => 0x80 ≤ b && b < 0xc0

structure Division where
  before : List UInt8
  mark : Char
  upon : Passage
  behind : Passage
  deriving DecidableEq, Repr

def divideTracks (marks : List Char) : List UInt8 → List UInt8 → Option Division
  | b :: seen, t :: taken =>
    match marks.find? fun mark => mark.toNat = b.toNat with
    | some mark => some ⟨[], mark, ⟨b :: seen, t :: taken⟩, ⟨seen, taken⟩⟩
    | none =>
      (divideTracks marks seen taken).map fun division =>
        { division with before := t :: division.before }
  | _, _ => none

def Passage.divide (passage : Passage) (marks : List Char) : Option Division :=
  divideTracks marks passage.seen passage.taken

def Passage.whole (passage : Passage) : Except RuleFault (List Char) :=
  if passage.isTorn then .error (.torn ⟨false, passage.taken.length⟩)
  else .ok (Text.Utf8.lenientChars passage.taken)

def Passage.part (passage : Passage) (division : Division) : Except RuleFault (List Char) :=
  if passage.isTorn then .error (.torn ⟨false, passage.taken.length⟩)
  else if division.upon.isTorn then .error (.torn ⟨true, division.upon.taken.length⟩)
  else .ok (Text.Utf8.lenientChars division.before)

/-! ## Rules -/

def canBegin (c : Char) : Bool :=
  Text.isAlphanumeric c || c == '-' || c == ':' || c == '_'

/-- Reads the level behind the equals sign of a rule; without one everything is logged. -/
def Rule.readLevel (rule : Rule) (passage : Passage) : Except RuleFault Rule := do
  let text ← passage.whole
  if text.isEmpty then .ok rule
  else
    match readCutoff text with
    | some cutoff => .ok { rule with cutoff := cutoff }
    | none => .error .level

def Passage.behindMark (passage : Passage) (mark : Char) : Except RuleFault Passage :=
  match passage.divide [mark] with
  | some ⟨[], _, _, behind⟩ => .ok behind
  | _ => .error .form

def Rule.readEnd (rule : Rule) (passage : Passage) : Except RuleFault Rule :=
  if passage.seen.isEmpty then .ok rule else passage.behindMark '=' >>= rule.readLevel

def Demand.read (text : List Char) : Except RuleFault Demand :=
  let name := String.ofList (text.takeWhile (· ≠ '='))
  match text.dropWhile (· ≠ '=') with
  | [] => if text.isEmpty then .error .form else .ok ⟨name, none⟩
  | _ :: behind =>
    let value := behind.takeWhile (· ≠ '=')
    match Pattern.valueFault? value with
    | some fault => .error (.value fault)
    | none => .ok ⟨name, some (String.ofList value)⟩

def Rule.readDemand (rule : Rule) (passage : Passage) : Except RuleFault Rule :=
  match passage.divide ['\x7d'] with
  | none => .error .form
  | some division => do
    let demand ← Demand.read (← passage.part division)
    let passage ← division.behind.behindMark ']'
    { rule with demand := some demand }.readEnd passage

def Rule.readSpan (rule : Rule) (passage : Passage) : Except RuleFault Rule :=
  match passage.divide [']', '\x7b'] with
  | none => .error .form
  | some division => do
    let name ← passage.part division
    let onSpan : Rule := { rule with span := some (String.ofList name) }
    if division.mark = ']' then onSpan.readEnd division.behind
    else (if name.isEmpty then rule else onSpan).readDemand division.behind

/-- A rule that lets everything through of the parts that it is about. -/
def Rule.about (target : Option String) : Rule := ⟨target, none, none, some .trace⟩

def readPlainRule (text : List Char) : Rule :=
  match readCutoff text with
  | some cutoff => ⟨none, none, none, cutoff⟩
  | none => Rule.about (some (String.ofList text))

def readRule (text : List Char) : Except RuleFault Rule :=
  let passage := Passage.ofText text
  match Text.trim text with
  | [] => .error .form
  | first :: _ =>
    if first = '[' then passage.behindMark '[' >>= (Rule.about none).readSpan
    else if !canBegin first then .error .form
    else
      match passage.divide ['=', '['] with
      | none => .ok (readPlainRule text)
      | some division => do
        let target ← passage.part division
        let rule := Rule.about (some (String.ofList target))
        if division.mark = '=' then rule.readLevel division.behind
        else rule.readSpan division.behind

/-! ## Thresholds -/

structure Threshold where
  rules : List Rule
  complaints : List String
  deriving DecidableEq, Repr

def splitCommas : List Char → List (List Char)
  | [] => [[]]
  | ',' :: rest => [] :: splitCommas rest
  | c :: rest =>
    match splitCommas rest with
    | [] => [[c]]
    | first :: others => (c :: first) :: others

structure Breakdown where
  complaints : List String
  reason : String
  deriving DecidableEq, Repr

def complaint (rule : List Char) (fault : RuleFault) : String :=
  "ignoring `" ++ String.ofList rule ++ "`: " ++ fault.message rule

def readRules : List (List Char) → Except Breakdown Threshold
  | [] => .ok ⟨[], []⟩
  | text :: texts =>
    match readRule text with
    | .ok rule =>
      (readRules texts).map fun threshold =>
        { threshold with rules := rule :: threshold.rules }
    | .error (.torn tear) => .error ⟨[], tear.message text⟩
    | .error fault =>
      match readRules texts with
      | .error breakdown =>
        .error { breakdown with complaints := complaint text fault :: breakdown.complaints }
      | .ok threshold =>
        .ok { threshold with complaints := complaint text fault :: threshold.complaints }

def Threshold.orUsual (threshold : Threshold) : Threshold :=
  if threshold.rules.isEmpty then { threshold with rules := [.usual] } else threshold

def Threshold.read (text : String) : Except Breakdown Threshold :=
  (readRules ((splitCommas text.toList).filter fun part => !part.isEmpty)).map Threshold.orUsual

def Rule.isOnEvents (rule : Rule) : Bool :=
  rule.span.isNone && rule.demand.all fun demand => demand.value.isNone

/-- The names of the fields of an event; what it says is one of them. -/
def Event.fieldNames (event : Event) : List String := "message" :: event.fields.map Prod.fst

def Rule.covers (rule : Rule) (event : Event) : Bool :=
  rule.isOnEvents &&
    (rule.target.all fun beginning => beginning.toList.isPrefixOf event.target.toList) &&
    rule.demand.all fun demand => event.fieldNames.contains demand.name

def Rule.reach (rule : Rule) : Nat :=
  match rule.target with
  | none => 0
  | some beginning => beginning.toList.length + 1

/-- Whether a rule is more specific than another one about the same event; of two that ask for
different fields it is the one whose field comes later in the order of names. -/
def Rule.isAbove (rule other : Rule) : Bool :=
  if rule.reach ≠ other.reach then other.reach < rule.reach
  else
    match rule.demand, other.demand with
    | some demand, some weaker => weaker.name < demand.name
    | some _, none => true
    | none, _ => false

def Threshold.ruleFor? (threshold : Threshold) (event : Event) : Option Rule :=
  (threshold.rules.filter fun rule => rule.covers event).foldl (fun best rule =>
    match best with
    | none => some rule
    | some best => if best.isAbove rule then some best else some rule) none

def Threshold.admits (threshold : Threshold) (event : Event) : Bool :=
  match (threshold.ruleFor? event).bind Rule.cutoff with
  | none => false
  | some least => least.rank ≤ event.level.rank

end Reclaim.Journal
