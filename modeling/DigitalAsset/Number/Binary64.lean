/-!
# Binary floating-point numbers of 64 bits

A number is its bit pattern.  `magnitude` takes a finite pattern apart into `m · 2^e`, and
`ofRatio` puts an exact quotient back into the nearest pattern, a tie going to the even one.
Products and quotients are the exact ones, rounded once.
-/

namespace DigitalAsset

/-- A floating-point number of 64 bits, given by its bit pattern. -/
structure Binary64 where
  bits : UInt64
  deriving DecidableEq, Repr

namespace Binary64

/-! ## Taking apart -/

/-- Whether the sign bit is set. -/
def isNegative (x : Binary64) : Bool := Nat.pow 2 63 ≤ x.bits.toNat

/-- The biased exponent. -/
def exponentField (x : Binary64) : Nat := x.bits.toNat / Nat.pow 2 52 % Nat.pow 2 11

/-- The bits after the leading one. -/
def fractionField (x : Binary64) : Nat := x.bits.toNat % Nat.pow 2 52

/-- Whether the pattern stands for an infinity or for no number. -/
def isSpecial (x : Binary64) : Bool := x.exponentField = 2047

/-- Whether the pattern stands for zero of either sign. -/
def isZero (x : Binary64) : Bool := x.bits.toNat % Nat.pow 2 63 = 0

/-- The pair `(m, e)` such that a finite pattern stands for `± m · 2^e`. -/
def magnitude (x : Binary64) : Nat × Int :=
  if x.exponentField = 0 then (x.fractionField, -1074)
  else (Nat.pow 2 52 + x.fractionField, (x.exponentField : Int) - 1075)

/-! ## Rounding -/

/-- The bits of the infinity above all finite patterns. -/
def infinityBits : Nat := 2047 * Nat.pow 2 52

/-- The pattern with the given sign and magnitude bits. -/
def ofBits (negative : Bool) (magnitudeBits : Nat) : Binary64 :=
  ⟨UInt64.ofNat (magnitudeBits + if negative then Nat.pow 2 63 else 0)⟩

/-- Zero of the given sign. -/
def zero (negative : Bool) : Binary64 := ofBits negative 0

/-- The quotient `num / (den · 2^e)` as a pair of natural numbers. -/
def scaled (num den : Nat) (e : Int) : Nat × Nat :=
  if 0 ≤ e then (num, den * Nat.pow 2 e.toNat) else (num * Nat.pow 2 (-e).toNat, den)

/-- A quotient rounded to the nearest natural number, a tie to the even one. -/
def roundHalfEven (num den : Nat) : Nat :=
  let q := num / den
  let r := num % den
  if 2 * r < den then q else if den < 2 * r then q + 1 else q + q % 2

/-- The exponent of the last bit that a pattern for `num / den` keeps. -/
def lastBitExponent (num den : Nat) : Int :=
  let guess : Int := (Nat.log2 num : Int) - Nat.log2 den - 52
  let (n, d) := scaled num den guess
  max (-1074) (if n / d < Nat.pow 2 52 then guess - 1 else guess)

/-- The pattern nearest to `± num / den`; beyond the greatest finite one, an infinity. -/
def ofRatio (negative : Bool) (num den : Nat) : Binary64 :=
  if num = 0 then zero negative
  else
    let e := lastBitExponent num den
    let (n, d) := scaled num den e
    let bits := (e + 1074).toNat * Nat.pow 2 52 + roundHalfEven n d
    ofBits negative (min bits infinityBits)

/-- The pattern nearest to a natural number. -/
def ofNat (n : Nat) : Binary64 := ofRatio false n 1

/-- The pattern nearest to `10^n`. -/
def tenPow (n : Nat) : Binary64 := ofNat (Nat.pow 10 n)

/-! ## Arithmetic on finite numbers -/

/-- The pattern nearest to `± m · 2^e / d`. -/
def ofScaled (negative : Bool) (m : Nat) (e : Int) (d : Nat) : Binary64 :=
  if 0 ≤ e then ofRatio negative (m * Nat.pow 2 e.toNat) d
  else ofRatio negative m (d * Nat.pow 2 (-e).toNat)

/-- The product of two finite numbers. -/
def mul (x y : Binary64) : Binary64 :=
  let (m, e) := x.magnitude
  let (n, f) := y.magnitude
  ofScaled (x.isNegative != y.isNegative) (m * n) (e + f) 1

/-- The quotient of two finite numbers, the second not zero. -/
def div (x y : Binary64) : Binary64 :=
  let (m, e) := x.magnitude
  let (n, f) := y.magnitude
  ofScaled (x.isNegative != y.isNegative) m (e - f) n

/-- The number with the opposite sign. -/
def neg (x : Binary64) : Binary64 := ⟨x.bits ^^^ 0x8000000000000000⟩

end Binary64

end DigitalAsset
