/-! # Decimal text of floating point numbers

A positive number is read to the nearest binary fraction of 53 bits, a tie going to the even one
(`Binary64.nearest?`), and written with the fewest decimal digits that read back to it
(`Binary64.shortest`).  All is done in exact natural numbers. -/

namespace TextLimits

/-- A binary fraction `significand * 2 ^ exponent`. -/
structure Binary64 where
  significand : Nat
  exponent : Int
  deriving DecidableEq

namespace Binary64

/-- The exponent of the smallest numbers. -/
def minExponent : Int := -1074

/-- The greatest exponent. -/
def maxExponent : Int := 971

/-- A quotient rounded to the nearest natural number, a tie going to the even one. -/
def roundDiv (num den : Nat) : Nat :=
  let q := num / den
  let r := num % den
  if 2 * r < den then q else if den < 2 * r then q + 1 else q + q % 2

/-- `num / den` in units of `2 ^ e`, as a fraction. -/
def scaled (num den : Nat) (e : Int) : Nat × Nat :=
  if 0 ≤ e then (num, den * Nat.pow 2 e.toNat) else (num * Nat.pow 2 (-e).toNat, den)

/-- The nearest number to a quotient, if it is not too great. -/
def nearest? (num den : Nat) : Option Binary64 :=
  if num = 0 then some ⟨0, minExponent⟩
  else
    let guess : Int := (num.log2 : Int) - den.log2 - 53
    let fitting := [guess, guess + 1, guess + 2].find? fun e =>
      let (n, d) := scaled num den e
      n / d < Nat.pow 2 53
    let e := max (fitting.getD (guess + 2)) minExponent
    let (n, d) := scaled num den e
    let m := roundDiv n d
    let (m, e) := if m = Nat.pow 2 53 then (Nat.pow 2 52, e + 1) else (m, e)
    if e ≤ maxExponent then some ⟨m, e⟩ else none

/-- The number of decimal digits. -/
def digitCount (n : Nat) : Nat := (Nat.toDigits 10 n).length

/-- The best decimal `d * 10 ^ p` with a last digit at `10 ^ p` that reads back to a number, as its
digits, if there is one.  The candidates are the two neighbours of the number on that grid. -/
def onGrid? (x : Binary64) (p : Int) : Option Nat :=
  let below := if x.significand = Nat.pow 2 52 ∧ minExponent < x.exponent then 1 else 2
  -- a quarter of a unit in the last binary place, and the grid, over a common denominator
  let e := x.exponent - 2
  let quarter := Nat.pow 2 e.toNat * Nat.pow 10 (-p).toNat
  let step := Nat.pow 10 p.toNat * Nat.pow 2 (-e).toNat
  let m := 4 * x.significand
  let v := m * quarter
  let lo := (m - below) * quarter
  let hi := (m + 2) * quarter
  let inside (d : Nat) :=
    if x.significand % 2 = 0 then lo ≤ d * step && d * step ≤ hi
    else lo < d * step && d * step < hi
  let d := v / step
  let nearer := roundDiv v step
  if inside nearer then some nearer
  else if inside d then some d
  else if inside (d + 1) then some (d + 1)
  else none

/-- The decimal with the fewest digits that reads back to a number: digits and the place of the last
one. -/
def shortest (x : Binary64) : Nat × Int :=
  if x.significand = 0 then (0, 0)
  else
    -- the place of the first digit, or one above it
    let top : Int :=
      if 0 ≤ x.exponent then digitCount (x.significand * Nat.pow 2 x.exponent.toNat)
      else
        (digitCount (x.significand * Nat.pow 10 400 / Nat.pow 2 (-x.exponent).toNat) : Int) - 400
    let places := (List.range 18).map fun (n : Nat) => top - n
    let found := places.findSome? fun p => (onGrid? x p).bind fun d =>
      if d = 0 then none else some (d, p)
    found.getD (0, 0)

/-- Digits with the last one at a place of ten, without an exponent.  A whole number ends in a point
and a zero. -/
def positional (digits : Nat) (place : Int) : String :=
  let ds := Nat.toDigits 10 digits
  if 0 ≤ place then String.ofList (ds ++ List.replicate place.toNat '0') ++ ".0"
  else
    let n := (-place).toNat
    let padded := List.replicate (n + 1 - ds.length) '0' ++ ds
    let whole := padded.take (padded.length - n)
    String.ofList whole ++ "." ++ String.ofList (padded.drop (padded.length - n))

/-- The text of a number. -/
def text (x : Binary64) : String :=
  let (digits, place) := x.shortest
  positional digits place

end Binary64

end TextLimits
