import DigitalAsset.Number.Binary64

/-!
# Shortest decimal text of a floating-point number

Of all decimals that a finite number is the nearest one to, the text shows one with the fewest
digits, and among those the one nearest to the number.  Reals that round to `m · 2^q` form an
interval, which contains its ends exactly if `m` is even.  For each digit count the two neighbours
of the number on the decimal grid are tried, so the first grid with a hit gives the fewest digits.
-/

namespace DigitalAsset.Shortest

/-- The decimal `digits · 10^exponent`. -/
structure Decimal where
  digits : Nat
  exponent : Int
  deriving DecidableEq, Repr

/-- A positive finite number as exact quotients with one denominator: the number, and the two ends
of the interval of reals that round to it. -/
structure Interval where
  value : Nat
  low : Nat
  high : Nat
  den : Nat
  closed : Bool

/-- The interval of a finite number, sign aside. -/
def Interval.of (x : Binary64) : Interval :=
  let (m, e) := x.magnitude
  let below := if x.fractionField = 0 ∧ 1 < x.exponentField then 1 else 2
  let up := (e - 2).toNat
  let down := (2 - e).toNat
  { value := 4 * m * Nat.pow 2 up
    low := (4 * m - below) * Nat.pow 2 up
    high := (4 * m + 2) * Nat.pow 2 up
    den := Nat.pow 2 down
    closed := m % 2 = 0 }

/-- A decimal as a quotient over the denominator `den`, both multiplied by a common factor: the
decimal's numerator and that factor. -/
def Decimal.over (d : Decimal) (den : Nat) : Nat × Nat :=
  if 0 ≤ d.exponent then (d.digits * Nat.pow 10 d.exponent.toNat * den, 1)
  else (d.digits * den, Nat.pow 10 (-d.exponent).toNat)

/-- Whether a decimal lies in an interval. -/
def Interval.contains (i : Interval) (d : Decimal) : Bool :=
  let (n, factor) := d.over i.den
  if i.closed then i.low * factor ≤ n ∧ n ≤ i.high * factor
  else i.low * factor < n ∧ n < i.high * factor

/-- The distance of a decimal from the number, in units that depend on the decimal's exponent. -/
def Interval.distance (i : Interval) (d : Decimal) : Nat :=
  let (n, factor) := d.over i.den
  (n - i.value * factor) + (i.value * factor - n)

/-- The exponent of the number's leading decimal digit. -/
def Interval.leading (i : Interval) : Int :=
  if i.den ≤ i.value then ((Nat.toDigits 10 (i.value / i.den)).length : Int) - 1
  else
    match (List.range 400).find? fun j => i.den ≤ i.value * Nat.pow 10 j with
    | some j => -(j : Int)
    | none => 0

/-- The number's lower neighbour on the grid of decimals with a given exponent. -/
def Interval.floor (i : Interval) (exponent : Int) : Decimal :=
  let digits :=
    if 0 ≤ exponent then i.value / (i.den * Nat.pow 10 exponent.toNat)
    else i.value * Nat.pow 10 (-exponent).toNat / i.den
  ⟨digits, exponent⟩

/-- The better of the number's neighbours with `count` digits, if one lies in the interval. -/
def Interval.hit? (i : Interval) (count : Nat) : Option Decimal :=
  let low := i.floor (i.leading - (count : Int) + 1)
  let high : Decimal := ⟨low.digits + 1, low.exponent⟩
  match i.contains low, i.contains high with
  | true, true => some (if i.distance high < i.distance low then high else low)
  | true, false => some low
  | false, true => some high
  | false, false => none

/-- The shortest decimal that reads back as a positive finite number. -/
def decimal (x : Binary64) : Decimal :=
  let i := Interval.of x
  ((List.range 17).findSome? fun n => i.hit? (n + 1)).getD (i.floor (i.leading - 16))

/-! ## Notation -/

/-- The least exponent of a leading digit that is written positionally. -/
def leastPositional : Int := -5

/-- The greatest exponent of a leading digit that is written positionally. -/
def greatestPositional : Int := 15

/-- Digits with a point after the first `whole` of them, filled up with zeros on either side. -/
def withPoint (digits : List Char) (whole : Int) : List Char :=
  if whole ≤ 0 then
    '0' :: '.' :: (List.replicate (-whole).toNat '0' ++ digits)
  else
    let n := whole.toNat
    let fraction := digits.drop n
    digits.take n ++ List.replicate (n - digits.length) '0' ++ '.' ::
      (if fraction.isEmpty then ['0'] else fraction)

/-- Digits with a point after the first one and an exponent with its sign. -/
def withExponent (digits : List Char) (leading : Int) : List Char :=
  let fraction := digits.drop 1
  digits.take 1 ++ (if fraction.isEmpty then [] else '.' :: fraction) ++
    'e' :: (if leading < 0 then '-' else '+') :: (toString leading.natAbs).toList

/-- The digits of a decimal without the zeros at their end. -/
def significant (d : Decimal) : List Char :=
  ((Nat.toDigits 10 d.digits).reverse.dropWhile (· = '0')).reverse

/-- The text of a finite number, always with a fraction or an exponent. -/
def render (x : Binary64) : String :=
  let body :=
    if x.isZero then "0.0".toList
    else
      let d := decimal x
      let leading := ((Nat.toDigits 10 d.digits).length : Int) + d.exponent - 1
      if leastPositional ≤ leading ∧ leading ≤ greatestPositional then
        withPoint (significant d) (leading + 1)
      else withExponent (significant d) leading
  String.ofList (if x.isNegative then '-' :: body else body)

end DigitalAsset.Shortest
