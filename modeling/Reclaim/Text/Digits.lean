/-!
# Digits

Numbers in hexadecimal digits are written in lower case and read in either case.
A decimal number is written in ASCII digits, with a plus sign in front if one
likes.  It is read from left to right, so of a character that is no digit and a
number that is too large the first one is the fault.
-/

set_option autoImplicit false

namespace Reclaim.Text

/-! ## Hexadecimal -/

def hexDigit (value : Nat) : Char :=
  if value < 10 then Char.ofNat (0x30 + value) else Char.ofNat (0x57 + value)

def hexText (value : Nat) : List Char := Nat.toDigits 16 value

def hexDigit? (c : Char) : Option Nat :=
  if '0' ≤ c ∧ c ≤ '9' then some (c.toNat - 0x30)
  else if 'a' ≤ c ∧ c ≤ 'f' then some (c.toNat - 0x57)
  else if 'A' ≤ c ∧ c ≤ 'F' then some (c.toNat - 0x37)
  else none

/-! ## Decimal -/

inductive NumeralFault where
  | blank
  | invalidDigit
  | tooLarge
  deriving DecidableEq, Repr

def NumeralFault.message : NumeralFault → String
  | .blank => "cannot parse integer from empty string"
  | .invalidDigit => "invalid digit found in string"
  | .tooLarge => "number too large to fit in target type"

/-- Reads digits behind those of `value`; no number may reach `bound`. -/
def readDigits (bound value : Nat) : List Char → Except NumeralFault Nat
  | [] => .ok value
  | c :: rest =>
    if '0' ≤ c ∧ c ≤ '9' then
      let next := value * 10 + (c.toNat - 0x30)
      if next < bound then readDigits bound next rest else .error .tooLarge
    else .error .invalidDigit

def readNumeral (bound : Nat) : List Char → Except NumeralFault Nat
  | [] => .error .blank
  | ['+'] => .error .invalidDigit
  | '+' :: digits => readDigits bound 0 digits
  | digits => readDigits bound 0 digits

end Reclaim.Text
