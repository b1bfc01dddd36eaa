import Reclaim.Journal.Pattern.Class
import Reclaim.Text.Alphabetic
import Reclaim.Text.Basic

/-!
# Patterns for the values of fields

A rule about what is logged can ask for the value of a field by a regular
expression.  Here it is decided whether a text is one that can be used: whether
it is well formed and not too deep, and whether it makes do without the
properties of characters beyond ASCII, which are not at hand.  A pattern stands
between braces and so never holds a closing brace; all that would need one is
malformed.  A value that is a number is compared as such and need not be a
pattern.
-/

set_option autoImplicit false

namespace Reclaim.Journal.Pattern

inductive Fault where
  | malformed
  | wordBoundary
  deriving DecidableEq, Repr

def Fault.message : Fault → String
  | .malformed => "error building NFA"
  | .wordBoundary =>
    "unsupported regex feature for DFAs: cannot build DFAs for regexes with Unicode word " ++
      "boundaries; switch to ASCII word boundaries, or heuristically enable Unicode word " ++
      "boundaries or use a different regex engine"

/-! ## Groups that are open -/

/-- A group of which the closing parenthesis has not been read yet, or the whole pattern. -/
structure OpenGroup where
  manner : Manner
  /-- How deep the alternatives are that have been read to their end. -/
  branches : List Nat
  /-- How deep the parts of the last alternative are, the last one first. -/
  parts : List Nat

def OpenGroup.depth (opened : OpenGroup) : Nat :=
  together (together opened.parts :: opened.branches)

def OpenGroup.branch (opened : OpenGroup) : OpenGroup :=
  { opened with branches := together opened.parts :: opened.branches, parts := [] }

def OpenGroup.add (opened : OpenGroup) (depth : Nat) : OpenGroup :=
  { opened with parts := depth :: opened.parts }

def OpenGroup.repeatLast (opened : OpenGroup) : OpenGroup :=
  match opened.parts with
  | [] => opened
  | depth :: parts => { opened with parts := (depth + 1) :: parts }

/-! ## Whole patterns -/

/-- What is known of a pattern that has been read up to some place. -/
structure Progress where
  group : OpenGroup
  around : List OpenGroup
  names : List (List Char)
  repeatable : Bool
  wordBoundary : Bool

def Progress.start : Progress := ⟨⟨.usual, [], []⟩, [], [], false, false⟩

def Progress.manner (progress : Progress) : Manner := progress.group.manner

def Progress.item (progress : Progress) (depth : Nat) : Progress :=
  { progress with group := progress.group.add depth, repeatable := true }

def Progress.enter (progress : Progress) (manner : Manner) : Progress :=
  { progress with
    group := ⟨manner, [], []⟩
    around := progress.group :: progress.around
    repeatable := false }

def Progress.leave? (progress : Progress) : Option Progress :=
  match progress.around with
  | [] => none
  | outer :: around =>
    some ({ progress with group := outer, around := around }.item (progress.group.depth + 1))

def Progress.repeat? (progress : Progress) : Option Progress :=
  if progress.repeatable then some { progress with group := progress.group.repeatLast } else none

def isGroupName : List Char → Bool
  | [] => false
  | first :: rest =>
    (first == '_' || Text.isAlphabetic first) &&
      rest.all fun c => Text.isAlphanumeric c || c ∈ ['_', '.', '[', ']']

def enterNamed (progress : Progress) (text : List Char) : Option (Progress × List Char) :=
  let name := text.takeWhile (· ≠ '>')
  match text.dropWhile (· ≠ '>') with
  | _ :: rest =>
    if isGroupName name ∧ name ∉ progress.names then
      some ({ progress.enter progress.manner with names := name :: progress.names }, rest)
    else none
  | [] => none

def Progress.switchTo (progress : Progress) (manner : Manner) : Progress :=
  { progress with group := { progress.group.add 0 with manner := manner }, repeatable := false }

def enterGroup (progress : Progress) (text : List Char) : Option (Progress × List Char) :=
  match progress.manner.pass text with
  | '?' :: 'P' :: '<' :: rest | '?' :: '<' :: rest => enterNamed progress rest
  | '?' :: rest =>
    (readSwitches progress.manner [] false false rest).bind fun (manner, turned, closer, rest) =>
      if closer = ':' then some (progress.enter manner, rest)
      else if turned.isEmpty then none
      else some (progress.switchTo manner, rest)
  | rest => some (progress.enter progress.manner, rest)

def Progress.takeEscaped (progress : Progress) : Escaped → Option Progress
  | .literal c asByte => if progress.manner.takes c asByte then some (progress.item 0) else none
  | .letterClass complement =>
    if progress.manner.takesLetterClass complement then some (progress.item 0) else none
  | .place ofWord =>
    let reaches := ofWord && progress.manner.wide
    some { progress.item 0 with wordBoundary := progress.wordBoundary || reaches }

/-- Reads the question mark behind a sign of repetition that asks for few rather than for many. -/
def dropReluctance : List Char → List Char
  | '?' :: rest => rest
  | text => text

def readElement (progress : Progress) : List Char → Option (Progress × List Char)
  | [] => some (progress, [])
  | c :: rest =>
    if c = '(' then enterGroup progress rest
    else if c = ')' then progress.leave?.map (·, rest)
    else if c = '|' then
      some ({ progress with group := progress.group.branch, repeatable := false }, rest)
    else if c = '[' then
      (readBracketed progress.manner rest).map fun (depth, rest) => (progress.item depth, rest)
    else if c ∈ ['?', '*', '+'] then progress.repeat?.map (·, dropReluctance rest)
    else if c = '\x7b' then none
    else if c = '\\' then
      (readEscaped progress.manner rest).bind fun (escaped, rest) =>
        (progress.takeEscaped escaped).map (·, rest)
    else if c = '.' then if progress.manner.wide then some (progress.item 0, rest) else none
    else if c = '^' ∨ c = '$' then some (progress.item 0, rest)
    else if progress.manner.takes c false then some (progress.item 0, rest)
    else none

/-- Reads a pattern to its end; each step consumes a character. -/
def readAll : Nat → Progress → List Char → Option Progress
  | 0, _, _ => none
  | steps + 1, progress, text =>
    match progress.manner.pass text with
    | [] => if progress.around.isEmpty then some progress else none
    | text => (readElement progress text).bind fun (progress, rest) => readAll steps progress rest

def fault? (text : List Char) : Option Fault :=
  match readAll (text.length + 1) .start text with
  | none => some .malformed
  | some progress =>
    if depthLimit < progress.group.depth then some .malformed
    else if progress.wordBoundary then some .wordBoundary
    else none

/-! ## Values -/

def isDigits (text : List Char) : Bool := !text.isEmpty && text.all Char.isDigit

def isExponent : List Char → Bool
  | '+' :: digits | '-' :: digits => isDigits digits
  | digits => isDigits digits

def isDecimal (text : List Char) : Bool :=
  let whole := text.takeWhile Char.isDigit
  let (fraction, rest) : List Char × List Char :=
    match text.dropWhile Char.isDigit with
    | '.' :: rest => (rest.takeWhile Char.isDigit, rest.dropWhile Char.isDigit)
    | rest => ([], rest)
  isDigits (whole ++ fraction) &&
    match rest with
    | [] => true
    | c :: exponent => (c == 'e' || c == 'E') && isExponent exponent

def isNumber (text : List Char) : Bool :=
  let body :=
    match text with
    | '+' :: body | '-' :: body => body
    | body => body
  isDecimal body || ["inf", "infinity", "nan"].contains (String.ofList (Text.lowered body))

/-- Why a value cannot be asked for: what is not a number is a pattern.  The truth values are
patterns for themselves. -/
def valueFault? (text : List Char) : Option Fault :=
  if isNumber text then none else fault? text

end Reclaim.Journal.Pattern
