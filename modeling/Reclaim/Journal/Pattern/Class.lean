import Reclaim.Journal.Pattern.Character

/-!
# Classes in brackets

A class holds characters, ranges of characters, classes that have a name or a
letter, and other classes in brackets; operators stand between rows of these.
While a class is read, the classes around it wait.

Groups, repetitions, classes and their operators, and things that stand side by
side are levels that can lie in each other, and the number of levels is limited.
-/

set_option autoImplicit false

namespace Reclaim.Journal.Pattern

/-! ## Depth -/

def depthLimit : Nat := 250

def deepest : List Nat → Nat
  | [] => 0
  | depth :: depths => max depth (deepest depths)

/-- How deep things are that stand side by side: one alone is as deep as it is, and several are a
level of their own. -/
def together : List Nat → Nat
  | [] => 0
  | [depth] => depth
  | depths => deepest depths + 1

/-! ## Members -/

def Manner.takesMember (manner : Manner) (c : Char) : Bool :=
  if manner.wide then !manner.caseless else c.toNat < 0x80

def readMember (manner : Manner) : List Char → Option (Escaped × List Char)
  | [] => none
  | '\\' :: rest => readEscaped manner rest
  | c :: rest => some (.literal c false, rest)

def Manner.takesAlone (manner : Manner) : Escaped → Bool
  | .literal c _ => manner.takesMember c
  | .letterClass complement => manner.takesLetterClass complement
  | .place _ => false

def Manner.takesRange (manner : Manner) : Escaped → Escaped → Bool
  | .literal lowest _, .literal highest _ =>
    lowest ≤ highest && manner.takesMember lowest && manner.takesMember highest
  | _, _ => false

def readRange (manner : Manner) (text : List Char) : Option (List Char) :=
  (readMember manner text).bind fun (first, rest) =>
    let alone (rest : List Char) : Option (List Char) :=
      if manner.takesAlone first then some rest else none
    match manner.pass rest with
    | '-' :: behind =>
      if manner.glimpse behind ∈ [some ']', some '-'] then alone ('-' :: behind)
      else
        (readMember manner (manner.pass behind)).bind fun (last, rest) =>
          if manner.takesRange first last then some rest else none
    | rest => alone rest

def classNames : List String :=
  ["alnum", "alpha", "ascii", "blank", "cntrl", "digit", "graph", "lower", "print", "punct",
    "space", "upper", "word", "xdigit"]

/-- Reads the name of a class behind the opening bracket inside of another class: whether it is a
complement, and the text behind it. -/
def readNamed? : List Char → Option (Bool × List Char)
  | ':' :: text =>
    let (complement, text) : Bool × List Char :=
      match text with
      | '^' :: text => (true, text)
      | text => (false, text)
    match text.dropWhile (· ≠ ':') with
    | ':' :: ']' :: rest =>
      if String.ofList (text.takeWhile (· ≠ ':')) ∈ classNames then some (complement, rest)
      else none
    | _ => none
  | _ => none

def Manner.takesNamed (manner : Manner) (complement : Bool) : Bool :=
  if manner.wide then !manner.caseless else !complement

/-! ## Classes that are open -/

structure OpenClass where
  /-- How deep all in front of the last operator is, if there is an operator. -/
  before : Option Nat
  members : List Nat

def OpenClass.depth (opened : OpenClass) : Nat :=
  match opened.before with
  | none => together opened.members
  | some before => max before (together opened.members) + 1

def OpenClass.add (opened : OpenClass) (depth : Nat) : OpenClass :=
  { opened with members := depth :: opened.members }

def OpenClass.operate (opened : OpenClass) : OpenClass := ⟨some opened.depth, []⟩

def takeHyphens (manner : Manner) : Nat → List Char → Nat × List Char
  | steps + 1, '-' :: rest =>
    let (count, rest) := takeHyphens manner steps (manner.pass rest)
    (count + 1, rest)
  | _, text => (0, text)

/-- Reads the beginning of a class behind its opening bracket: a sign for its complement, and
hyphens or a closing bracket that are members. -/
def enterClass (manner : Manner) (text : List Char) : Option (OpenClass × List Char) :=
  let (complement, text) : Bool × List Char :=
    match manner.pass text with
    | '^' :: rest => (true, manner.pass rest)
    | text => (false, text)
  if complement ∧ !manner.wide then none
  else
    match takeHyphens manner text.length text with
    | (0, ']' :: rest) => if manner.takesMember ']' then some (⟨none, [0]⟩, rest) else none
    | (0, rest) => some (⟨none, []⟩, rest)
    | (hyphens, rest) =>
      if manner.takesMember '-' then some (⟨none, List.replicate hyphens 0⟩, rest) else none

/-- Reads a class from inside on, with the classes around it, innermost first, up to the end of the
outermost one, and tells how deep that is; each step consumes a character. -/
def readClass (manner : Manner) :
    Nat → OpenClass → List OpenClass → List Char → Option (Nat × List Char)
  | 0, _, _, _ => none
  | steps + 1, opened, around, text =>
    match manner.pass text with
    | [] => none
    | '[' :: rest =>
      match readNamed? rest with
      | some (complement, rest) =>
        if manner.takesNamed complement then readClass manner steps (opened.add 0) around rest
        else none
      | none =>
        (enterClass manner rest).bind fun (inner, rest) =>
          readClass manner steps inner (opened :: around) rest
    | ']' :: rest =>
      let depth := opened.depth + 1
      match around with
      | [] => some (depth, rest)
      | outer :: around => readClass manner steps (outer.add depth) around rest
    | '&' :: '&' :: rest | '-' :: '-' :: rest | '~' :: '~' :: rest =>
      readClass manner steps opened.operate around rest
    | text => (readRange manner text).bind (readClass manner steps (opened.add 0) around)

def readBracketed (manner : Manner) (text : List Char) : Option (Nat × List Char) :=
  (enterClass manner text).bind fun (opened, rest) => readClass manner text.length opened [] rest

end Reclaim.Journal.Pattern
