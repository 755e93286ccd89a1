import CommandShell.Decimal.Binary64

/-! The shortest decimal that reads back as a given number, and its text. -/

namespace CommandShell

structure Decimal where
  digits : Nat
  exponent : Int
  deriving DecidableEq, Repr

namespace Decimal

/-- The reals that round to a number, as integers over a common denominator; the ends belong to
the interval when the mantissa is even. -/
structure Rounding where
  low : Nat
  value : Nat
  high : Nat
  den : Nat
  closed : Bool

def Rounding.of (mantissa : Nat) (exponent : Int) : Rounding :=
  let below := if mantissa = Nat.pow 2 (Binary64.precision - 1) ∧ Binary64.leastExponent < exponent
    then 1 else 2
  let shift := exponent - 2
  let unit := if 0 ≤ shift then Nat.pow 2 shift.toNat else 1
  ⟨(4 * mantissa - below) * unit, 4 * mantissa * unit, (4 * mantissa + 2) * unit,
    if 0 ≤ shift then 1 else Nat.pow 2 (-shift).toNat, mantissa % 2 = 0⟩

/-- How many zeros follow the point of a positive quotient below one; `fuel` bounds the search. -/
def leadingZeros (num den : Nat) : (fuel : Nat) → Nat
  | 0 => 0
  | fuel + 1 => if den ≤ num * 10 then 0 else 1 + leadingZeros (num * 10) den fuel

/-- The place of the point: a positive quotient lies below `10 ^ place`, and not below the power
before it. -/
def pointPlace (num den : Nat) : Int :=
  if den ≤ num then (Nat.toDigits 10 (num / den)).length else -(leadingZeros num den 400 : Nat)

def Rounding.admits (r : Rounding) (c : Nat) (exponent : Int) : Bool :=
  let point := if 0 ≤ exponent then c * Nat.pow 10 exponent.toNat * r.den else c * r.den
  let unit := if 0 ≤ exponent then 1 else Nat.pow 10 (-exponent).toNat
  if r.closed then r.low * unit ≤ point && point ≤ r.high * unit
  else r.low * unit < point && point < r.high * unit

/-- The better of the two neighbours of the value on the grid of `10 ^ exponent`, if one lies in
the interval. -/
def Rounding.onGrid (r : Rounding) (exponent : Int) : Option Decimal :=
  let (num, den) := if 0 ≤ exponent then (r.value, r.den * Nat.pow 10 exponent.toNat)
    else (r.value * Nat.pow 10 (-exponent).toNat, r.den)
  let down := num / den
  let near := Binary64.roundDiv num den
  let far := if near = down then down + 1 else down
  if r.admits near exponent then some ⟨near, exponent⟩
  else if r.admits far exponent then some ⟨far, exponent⟩
  else none

/-- Tries grids of `count`, `count + 1`, … digits; seventeen digits always suffice. -/
def Rounding.search (r : Rounding) (place : Int) (count : Nat) : (fuel : Nat) → Decimal
  | 0 => ⟨r.value / r.den, 0⟩
  | fuel + 1 =>
    match r.onGrid (place - count) with
    | some d => d
    | none => r.search place (count + 1) fuel

def shortest (mantissa : Nat) (exponent : Int) : Decimal :=
  let r := Rounding.of mantissa exponent
  r.search (pointPlace r.value r.den) 1 18

structure NumberFormat where
  leastPositional : Int
  beyondPositional : Int
  exponentDigits : Nat

/-- Numbers from a ten-thousandth to below ten to the sixteenth are positional; exponents have a
sign and two digits at least. -/
def standard : NumberFormat := ⟨-4, 16, 2⟩

def zeros (n : Nat) : List Char := List.replicate n '0'

def positional (ds : List Char) (place : Int) : List Char :=
  if place ≤ 0 then '0' :: '.' :: (zeros (-place).toNat ++ ds)
  else
    let whole := ds.take place.toNat ++ zeros (place.toNat - ds.length)
    let part := ds.drop place.toNat
    whole ++ '.' :: (if part.isEmpty then ['0'] else part)

def scientific (f : NumberFormat) (ds : List Char) (power : Int) : List Char :=
  let tail := ds.drop 1
  let size := Nat.toDigits 10 power.natAbs
  ds.take 1 ++ (if tail.isEmpty then [] else '.' :: tail) ++
    'e' :: (if power < 0 then '-' else '+') :: (zeros (f.exponentDigits - size.length) ++ size)

def text (f : NumberFormat) (d : Decimal) : List Char :=
  let all := Nat.toDigits 10 d.digits
  let ds := (all.reverse.dropWhile (· == '0')).reverse
  let place : Int := all.length + d.exponent
  if f.leastPositional ≤ place - 1 ∧ place - 1 < f.beyondPositional then positional ds place
  else scientific f ds (place - 1)

def sign (negative : Bool) : List Char := if negative then ['-'] else []

end Decimal

/-- The shortest decimal that reads back; zero keeps its sign. -/
def Binary64.text : Binary64 → String
  | .nan => "nan"
  | .infinite negative => String.ofList (Decimal.sign negative ++ "inf".toList)
  | .finite negative mantissa exponent => String.ofList (Decimal.sign negative ++
      if mantissa = 0 then "0.0".toList
      else (Decimal.shortest mantissa exponent).text Decimal.standard)

end CommandShell
