import Reclaim.Text.Basic

/-!
# Ways of reading a pattern

Switches say how a part of a pattern is to be read: whether its characters are
those of all scripts, whether case matters, and whether blanks and comments may
be put between the parts.
-/

set_option autoImplicit false

namespace Reclaim.Journal.Pattern

structure Manner where
  wide : Bool
  caseless : Bool
  spaced : Bool
  deriving DecidableEq, Repr

def Manner.usual : Manner := ⟨true, false, false⟩

/-! ## Switches -/

def switches : List Char := ['i', 'm', 's', 'U', 'u', 'R', 'x']

def Manner.turn (manner : Manner) (switch : Char) (on : Bool) : Manner :=
  if switch = 'u' then { manner with wide := on }
  else if switch = 'i' then { manner with caseless := on }
  else if switch = 'x' then { manner with spaced := on }
  else manner

/-- Reads switches up to a colon or a closing parenthesis; those behind a hyphen are turned off. -/
def readSwitches (manner : Manner) (turned : List Char) (off dangling : Bool) :
    List Char → Option (Manner × List Char × Char × List Char)
  | [] => none
  | c :: rest =>
    if c = ':' ∨ c = ')' then if dangling then none else some (manner, turned, c, rest)
    else if c = '-' then if off then none else readSwitches manner turned true true rest
    else if c ∈ switches ∧ c ∉ turned then
      readSwitches (manner.turn c (!off)) (c :: turned) off false rest
    else none

/-! ## Space -/

/-- Drops blanks and comments, which reach from a number sign to the end of the line. -/
def dropSpace (inComment : Bool) : List Char → List Char
  | [] => []
  | c :: rest =>
    if inComment then dropSpace (c ≠ '\n') rest
    else if Text.isBlank c then dropSpace false rest
    else if c = '#' then dropSpace true rest
    else c :: rest

def Manner.pass (manner : Manner) (text : List Char) : List Char :=
  if manner.spaced then dropSpace false text else text

/-- The character that is looked at to tell whether a hyphen makes a range.  Where space is passed
over, blanks are skipped, and so are one number sign and the blanks behind it, but no comment. -/
def Manner.glimpse (manner : Manner) (text : List Char) : Option Char :=
  if manner.spaced then
    match text.dropWhile Text.isBlank with
    | '#' :: rest => (rest.dropWhile Text.isBlank).head?
    | rest => rest.head?
  else text.head?

end Reclaim.Journal.Pattern
