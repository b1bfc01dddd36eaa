import Reclaim.Journal.Pattern.Manner
import Reclaim.Text.Digits

/-!
# Single characters of a pattern

A character stands for itself, or a backslash and the characters behind it stand
for a character, a class of characters or a place between characters.  The
properties of characters beyond ASCII are not at hand, so what asks for them
cannot be used.
-/

set_option autoImplicit false

namespace Reclaim.Journal.Pattern

inductive Escaped where
  /-- A character; one that is written by two hexadecimal digits can be meant as a byte. -/
  | literal (c : Char) (asByte : Bool)
  | letterClass (complement : Bool)
  | place (ofWord : Bool)
  deriving DecidableEq, Repr

/-- Reads a number of hexadecimal digits; space is passed over in front of each of them. -/
def readHex (manner : Manner) (value : Nat) : Nat → List Char → Option (Nat × List Char)
  | 0, text => some (value, text)
  | digits + 1, text =>
    match manner.pass text with
    | [] => none
    | c :: rest =>
      (Text.hexDigit? c).bind fun digit => readHex manner (value * 16 + digit) digits rest

def readCode (manner : Manner) (digits : Nat) (text : List Char) : Option (Escaped × List Char) :=
  (readHex manner 0 digits text).bind fun (value, rest) =>
    if value.isValidChar then some (.literal (Char.ofNat value) (digits == 2), rest) else none

def controls : List (Char × Char) :=
  [('a', '\x07'), ('f', '\x0c'), ('n', '\n'), ('r', '\r'), ('t', '\t'), ('v', '\x0b')]

def readEscaped (manner : Manner) : List Char → Option (Escaped × List Char)
  | [] => none
  | c :: rest =>
    if c = 'x' then readCode manner 2 rest
    else if c = 'u' then readCode manner 4 rest
    else if c = 'U' then readCode manner 8 rest
    else if c ∈ ['d', 's', 'w'] then some (.letterClass false, rest)
    else if c ∈ ['D', 'S', 'W'] then some (.letterClass true, rest)
    else if c ∈ ['A', 'z'] then some (.place false, rest)
    else if c ∈ ['b', 'B', '<', '>'] then some (.place true, rest)
    else
      match controls.lookup c with
      | some control => some (.literal control false, rest)
      | none => if c.toNat < 0x80 ∧ !c.isAlphanum then some (.literal c false, rest) else none

/-- Whether a character can stand for itself; which others it equals without regard to case is not
known beyond ASCII. -/
def Manner.takes (manner : Manner) (c : Char) (asByte : Bool) : Bool :=
  if manner.wide then !manner.caseless else !asByte || c.toNat < 0x80

def Manner.takesLetterClass (manner : Manner) (complement : Bool) : Bool :=
  !manner.wide && !complement

end Reclaim.Journal.Pattern
