namespace ChainHistory.Number

/-- A binary64 number. A finite one is `± mantissa · 2 ^ exponent`, where the mantissa has at most
53 bits, and fewer than 53 only at the least exponent. -/
inductive Binary64
  | nan
  | infinity (negative : Bool)
  | finite (negative : Bool) (mantissa : Nat) (exponent : Int)
  deriving DecidableEq

/-- The quotient rounded to the nearest integer, a half to the even one. -/
def roundHalfEven (num den : Nat) : Nat :=
  let q := num / den
  let r := num % den
  if 2 * r < den then q else if den < 2 * r then q + 1 else q + q % 2

namespace Binary64

def leastExponent : Int := -1074

def greatestExponent : Int := 971

def zero (negative : Bool) : Binary64 := finite negative 0 leastExponent

/-- The greatest `e` with `2 ^ e ≤ num / den`. -/
def floorLog2 (num den : Nat) : Int :=
  let e : Int := (num.log2 : Int) - den.log2
  if den * Nat.pow 2 e.toNat ≤ num * Nat.pow 2 (-e).toNat then e else e - 1

/-- The number nearest to `± num / den`. -/
def ofRatio (negative : Bool) (num den : Nat) : Binary64 :=
  if num = 0 then zero negative
  else
    let q := max (floorLog2 num den - 52) leastExponent
    let m := roundHalfEven (num * Nat.pow 2 (-q).toNat) (den * Nat.pow 2 q.toNat)
    let (m, q) := if m = Nat.pow 2 53 then (Nat.pow 2 52, q + 1) else (m, q)
    if q > greatestExponent then infinity negative else finite negative m q

/-- The number nearest to `± n · 10 ^ exponent`. Far beyond the range nothing is computed. -/
def ofDecimal (negative : Bool) (n : Nat) (exponent : Int) : Binary64 :=
  let magnitude : Int := (Nat.toDigits 10 n).length + exponent
  if n = 0 || magnitude < -400 then zero negative
  else if magnitude > 400 then infinity negative
  else ofRatio negative (n * Nat.pow 10 exponent.toNat) (Nat.pow 10 (-exponent).toNat)

def ofInt (n : Int) : Binary64 :=
  ofRatio (n < 0) n.natAbs 1

def signBit (negative : Bool) : Nat := if negative then Nat.pow 2 63 else 0

/-- The interchange format as a 64-bit number; `none` for a NaN, which has many. -/
def bits? : Binary64 → Option Nat
  | nan => none
  | infinity negative => some (signBit negative + 2047 * Nat.pow 2 52)
  | finite negative m q =>
    let fields := if m < Nat.pow 2 52 then m
      else (q + 1075).toNat * Nat.pow 2 52 + (m - Nat.pow 2 52)
    some (signBit negative + fields)

inductive Whole
  | notFinite
  | fractional
  | whole (n : Int)

/-- The integer that a number is, if it is one. -/
def toWhole : Binary64 → Whole
  | nan => .notFinite
  | infinity _ => .notFinite
  | finite negative m q =>
    let d := Nat.pow 2 (-q).toNat
    if m % d = 0 then
      let n := m / d * Nat.pow 2 q.toNat
      .whole (if negative then -n else n)
    else .fractional

/-- Two places, rounded from the exact value with a half going to the even neighbour. -/
def hundredths : Binary64 → String
  | nan => "nan"
  | infinity negative => (if negative then "-" else "") ++ "inf"
  | finite negative m q =>
    let n := roundHalfEven (100 * m * Nat.pow 2 q.toNat) (Nat.pow 2 (-q).toNat)
    let places := n % 100
    (if negative then "-" else "") ++ s!"{n / 100}." ++ (if places < 10 then "0" else "") ++
      toString places

end Binary64

end ChainHistory.Number
