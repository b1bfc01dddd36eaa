import Reclaim.Decimal.Shortest
import Reclaim.Json.Fault

/-!
# JSON numerals

How a numeral is written and what it stands for.  A numeral without point and
exponent is an integer as long as it fits into sixty-four bits, and otherwise a
binary floating-point number.  The latter is read by collecting as many digits
as sixty-four bits hold and scaling them once by a power of ten; a numeral
beyond the largest such number stands for nothing.
-/

set_option autoImplicit false

namespace Reclaim.Json

/-! ## Reading -/

/-- A numeral as it is written: its sign, the digits before the point, the digits after it, and
the exponent. -/
structure Numeral where
  negative : Bool
  whole : List Nat
  fraction : Option (List Nat)
  exponent : Option (Bool × List Nat)
  deriving DecidableEq, Repr

def digit? (c : Char) : Option Nat :=
  if '0' ≤ c ∧ c ≤ '9' then some (c.toNat - 0x30) else none

def isDigit (c : Char) : Bool := (digit? c).isSome

def readDigits (atEnd : Flaw) (text : List Char) : Reading (List Nat) :=
  match text with
  | [] => .error (atEnd.upon [])
  | c :: rest =>
    if isDigit c then
      .ok (((c :: rest).takeWhile isDigit).filterMap digit?, (c :: rest).dropWhile isDigit)
    else .error (Flaw.noNumber.upon (c :: rest))

def readWhole (atEnd : Flaw) (text : List Char) : Reading (List Nat) :=
  match text with
  | '0' :: rest =>
    if rest.head?.any isDigit then .error (Flaw.noNumber.upon rest) else .ok ([0], rest)
  | text => readDigits atEnd text

def readFraction (atEnd : Flaw) (text : List Char) : Reading (Option (List Nat)) :=
  match text with
  | '.' :: rest => (readDigits atEnd rest).map fun (digits, rest) => (some digits, rest)
  | text => .ok (none, text)

def readSign (text : List Char) : Bool × List Char :=
  match text with
  | '+' :: rest => (false, rest)
  | '-' :: rest => (true, rest)
  | text => (false, text)

def readExponent (atEnd : Flaw) (text : List Char) : Reading (Option (Bool × List Nat)) :=
  match text with
  | [] => .ok (none, [])
  | c :: rest =>
    if c = 'e' ∨ c = 'E' then
      let (negative, rest) := readSign rest
      (readDigits atEnd rest).map fun (digits, rest) => (some (negative, digits), rest)
    else .ok (none, c :: rest)

def readNumeral (atEnd : Flaw) (negative : Bool) (text : List Char) :
    Except Stop (Numeral × List Char) := do
  let (whole, rest) ← readWhole atEnd text
  let (fraction, rest) ← readFraction atEnd rest
  let (exponent, rest) ← readExponent atEnd rest
  return (⟨negative, whole, fraction, exponent⟩, rest)

def skipNumeral (text : List Char) : Except Stop (List Char) :=
  (readNumeral .noNumber false text).map Prod.snd

/-! ## Values -/

inductive Quantity where
  | integer (value : Int)
  | floating (value : Float)

def wordBound : Nat := 0x10000000000000000

def highBit : Nat := 0x8000000000000000

/-- Appends digits to a number as long as it fits a word; yields the digits left over. -/
def absorb (value : Nat) : List Nat → Nat × List Nat
  | [] => (value, [])
  | digit :: rest =>
    if value * 10 + digit < wordBound then absorb (value * 10 + digit) rest
    else (value, digit :: rest)

def ofDigits (digits : List Nat) : Nat := digits.foldl (fun value digit => value * 10 + digit) 0

/-- A power of ten, up to the greatest one that is finite. -/
def powerOfTen (exponent : Nat) : Float := Float.ofScientific 1 false exponent

def scaleDown (value : Float) (exponent : Nat) : Nat → Float
  | 0 => 0
  | steps + 1 =>
    if exponent ≤ 308 then value / powerOfTen exponent
    else scaleDown (value / powerOfTen 308) (exponent - 308) steps

def scale? (significand : Nat) (exponent : Int) : Option Float :=
  let value := significand.toUInt64.toFloat
  if significand = 0 then some 0
  else if 0 ≤ exponent then
    if exponent ≤ 308 then
      let scaled := value * powerOfTen exponent.toNat
      if scaled.isInf then none else some scaled
    else none
  else some (scaleDown value (-exponent).toNat 4)

def Quantity.ofSign (negative : Bool) (value : Float) : Quantity :=
  .floating (if negative then -value else value)

def Numeral.quantity? (numeral : Numeral) : Option Quantity :=
  let (whole, beyond) := absorb 0 numeral.whole
  if beyond.isEmpty ∧ numeral.fraction.isNone ∧ numeral.exponent.isNone then
    if !numeral.negative then some (.integer whole)
    else if whole = 0 ∨ highBit < whole then some (.ofSign true whole.toUInt64.toFloat)
    else some (.integer (-whole))
  else
    let fraction := numeral.fraction.getD []
    let (significand, left) := absorb whole fraction
    let start : Int := beyond.length - (fraction.length - left.length : Nat)
    let (negative, digits) := numeral.exponent.getD (false, [])
    let exponent := ofDigits digits
    let shift := if negative then start - exponent else start + exponent
    (scale? significand shift).map (Quantity.ofSign numeral.negative)

def greatestExponent : Nat := 0x7fffffff

/-- The digits behind the one with which a number gets beyond a bound, the number having some value
before them. -/
def digitsBeyond (bound value : Nat) : List Nat → List Nat
  | [] => []
  | digit :: rest =>
    if bound < value * 10 + digit then rest else digitsBeyond bound (value * 10 + digit) rest

/-- Reads what a numeral stands for, behind its sign.  One that is too large is refused at its end,
or as soon as its exponent has become too large. -/
def readQuantity (negative : Bool) (text : List Char) :
    Except Stop (Quantity × List Char) := do
  let (numeral, rest) ← readNumeral .endInValue negative text
  match numeral.quantity? with
  | some quantity => .ok (quantity, rest)
  | none =>
    let unread := digitsBeyond greatestExponent 0 ((numeral.exponent.map Prod.snd).getD [])
    .error ⟨.malformed .numberTooLarge, byteCount rest + unread.length⟩

/-! ## Writing floating-point numbers -/

def binary (value : Float) : Decimal.Binary :=
  let bits := value.toBits.toNat % highBit
  let exponent := bits / Decimal.Binary.leadingUnit
  let fraction := bits % Decimal.Binary.leadingUnit
  if exponent = 0 then ⟨fraction, Decimal.Binary.leastExponent⟩
  else ⟨Decimal.Binary.leadingUnit + fraction, Decimal.Binary.leastExponent + (exponent - 1 : Nat)⟩

def exponentText (exponent : Int) : String :=
  if 0 ≤ exponent then "e+" ++ toString exponent else "e" ++ toString exponent

/-- The text of a positive decimal: positional as long as the point stands at most sixteen places
behind the first digit or four zeros before it, and with an exponent otherwise. -/
def positiveText (written : Decimal.Written) : String :=
  let digits := toString written.digits
  let count := digits.length
  let point : Int := count + written.scale
  if 0 ≤ written.scale ∧ point ≤ 16 then
    digits ++ String.ofList (List.replicate written.scale.toNat '0') ++ ".0"
  else if 0 < point ∧ point ≤ 16 then
    String.ofList (digits.toList.take point.toNat) ++ "." ++
      String.ofList (digits.toList.drop point.toNat)
  else if -5 < point ∧ point ≤ 0 then
    "0." ++ String.ofList (List.replicate (-point).toNat '0') ++ digits
  else if count = 1 then digits ++ exponentText (point - 1)
  else
    String.ofList (digits.toList.take 1) ++ "." ++ String.ofList (digits.toList.drop 1) ++
      exponentText (point - 1)

def floatText (value : Float) : String :=
  let negative := value.toBits.toNat / highBit = 1
  let body := if value == 0 then "0.0" else positiveText (binary value).shortest
  if negative then "-" ++ body else body

/-! ## What is left -/

theorem length_lt_of_readDigits {atEnd : Flaw} {text rest : List Char} {digits : List Nat}
    (found : readDigits atEnd text = .ok (digits, rest)) : rest.length < text.length := by
  fun_cases readDigits atEnd text with
  | case2 c behind digit =>
    simp only [readDigits, digit, if_true, List.dropWhile_cons, Except.ok.injEq,
      Prod.mk.injEq] at found
    have := (List.dropWhile_suffix (l := behind) isDigit).length_le
    simp [← found.2]
    omega
  | _ => simp_all [readDigits]

theorem length_lt_of_readWhole {atEnd : Flaw} {text rest : List Char} {digits : List Nat}
    (found : readWhole atEnd text = .ok (digits, rest)) : rest.length < text.length := by
  fun_cases readWhole atEnd text with
  | case3 text noZero => exact length_lt_of_readDigits (by simpa [readWhole, noZero] using found)
  | _ => grind [readWhole]

theorem length_le_of_readFraction {atEnd : Flaw} {text rest : List Char}
    {fraction : Option (List Nat)} (found : readFraction atEnd text = .ok (fraction, rest)) :
    rest.length ≤ text.length := by
  fun_cases readFraction atEnd text <;>
    grind [readFraction, → ok_of_map, → length_lt_of_readDigits]

theorem length_readSign_le (text : List Char) : (readSign text).2.length ≤ text.length := by
  fun_cases readSign text <;> grind

theorem length_le_of_readExponent {atEnd : Flaw} {text rest : List Char}
    {exponent : Option (Bool × List Nat)} (found : readExponent atEnd text = .ok (exponent, rest)) :
    rest.length ≤ text.length := by
  fun_cases readExponent atEnd text <;>
    grind [readExponent, length_readSign_le, → ok_of_map, → length_lt_of_readDigits]

theorem length_lt_of_readNumeral {atEnd : Flaw} {negative : Bool} {text rest : List Char}
    {numeral : Numeral} (found : readNumeral atEnd negative text = .ok (numeral, rest)) :
    rest.length < text.length := by
  obtain ⟨⟨_, _⟩, whole, found⟩ := ok_of_bind found
  obtain ⟨⟨_, _⟩, fraction, found⟩ := ok_of_bind found
  obtain ⟨⟨_, _⟩, exponent, found⟩ := ok_of_bind found
  have := length_lt_of_readWhole whole
  have := length_le_of_readFraction fraction
  have := length_le_of_readExponent exponent
  simp [pure, Except.pure] at found
  grind

theorem length_lt_of_skipNumeral {text rest : List Char} (skipped : skipNumeral text = .ok rest) :
    rest.length < text.length := by
  obtain ⟨⟨_, _⟩, found, rfl⟩ := ok_of_map skipped
  exact length_lt_of_readNumeral found

end Reclaim.Json
