/-!
# The shortest decimal that reads back

A positive binary number `significand * 2 ^ exponent` is written with the
fewest decimal digits that still round to it; of several such decimals the
nearest one is taken, and the even one when two are equally near.  A decimal
`digits * 10 ^ scale` is found by trying grids of one to seventeen digits and
testing the two grid points around the number in exact arithmetic.
-/

set_option autoImplicit false

namespace Reclaim.Decimal

/-- A ratio of natural numbers; the denominator is never zero where this module builds one. -/
structure Ratio where
  num : Nat
  den : Nat
  deriving DecidableEq, Repr

def Ratio.lt (left right : Ratio) : Bool := left.num * right.den < right.num * left.den

def Ratio.le (left right : Ratio) : Bool := left.num * right.den ≤ right.num * left.den

def Ratio.scaled (value base : Nat) (exponent : Int) : Ratio :=
  if 0 ≤ exponent then ⟨value * Nat.pow base exponent.toNat, 1⟩
  else ⟨value, Nat.pow base (-exponent).toNat⟩

def Ratio.distance (left right : Ratio) : Ratio :=
  ⟨(left.num * right.den - right.num * left.den) + (right.num * left.den - left.num * right.den),
    left.den * right.den⟩

/-- A finite positive number in binary: fifty-three bits at most and a power of two. -/
structure Binary where
  significand : Nat
  exponent : Int
  deriving DecidableEq, Repr

def Binary.leastExponent : Int := -1074

def Binary.leadingUnit : Nat := 0x10000000000000

def Binary.value (x : Binary) : Ratio := .scaled x.significand 2 x.exponent

/-- The middle between the number and its lower neighbour, which is nearer at a power of two. -/
def Binary.lower (x : Binary) : Ratio :=
  if x.significand = Binary.leadingUnit ∧ Binary.leastExponent < x.exponent then
    .scaled (4 * x.significand - 1) 2 (x.exponent - 2)
  else .scaled (2 * x.significand - 1) 2 (x.exponent - 1)

def Binary.upper (x : Binary) : Ratio := .scaled (2 * x.significand + 1) 2 (x.exponent - 1)

/-- Whether a ratio rounds to the number; the middles do when the significand is even. -/
def Binary.reads (x : Binary) (r : Ratio) : Bool :=
  if x.significand % 2 = 0 then x.lower.le r && r.le x.upper
  else x.lower.lt r && r.lt x.upper

structure Written where
  digits : Nat
  scale : Int
  deriving DecidableEq, Repr

def Binary.choose? (x : Binary) (scale : Int) (below : Nat) : Option Written :=
  let first := Ratio.scaled below 10 scale
  let second := Ratio.scaled (below + 1) 10 scale
  match decide (0 < below) && x.reads first, x.reads second with
  | true, true =>
    let toFirst := x.value.distance first
    let toSecond := x.value.distance second
    if toFirst.lt toSecond then some ⟨below, scale⟩
    else if toSecond.lt toFirst then some ⟨below + 1, scale⟩
    else some ⟨if below % 2 = 0 then below else below + 1, scale⟩
  | true, false => some ⟨below, scale⟩
  | false, true => some ⟨below + 1, scale⟩
  | false, false => none

def Binary.search (x : Binary) : Nat → Int → Option Written
  | 0, _ => none
  | tries + 1, scale =>
    let unit := Ratio.scaled 1 10 scale
    let below := x.value.num * unit.den / (x.value.den * unit.num)
    match x.choose? scale below with
    | some written => some written
    | none => x.search tries (scale - 1)

/-- The greatest scale whose unit can be of use: that of the leading digit or the one above. -/
def Binary.leadingScale (x : Binary) : Int :=
  let bits : Int := Nat.log2 x.significand
  (x.exponent + bits) * 30103 / 100000 + 1

def Written.normal (written : Written) : Nat → Written
  | 0 => written
  | tries + 1 =>
    if written.digits ≠ 0 ∧ written.digits % 10 = 0 then
      Written.normal ⟨written.digits / 10, written.scale + 1⟩ tries
    else written

/-- The shortest decimal that rounds to a positive binary number. -/
def Binary.shortest (x : Binary) : Written :=
  ((x.search 20 x.leadingScale).getD ⟨0, 0⟩).normal 20

end Reclaim.Decimal
