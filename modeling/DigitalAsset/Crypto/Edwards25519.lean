import DigitalAsset.Bytes

/-!
# Points of edwards25519

A point of the curve `-x² + y² = 1 + d x² y²` over the field of `2^255 - 19` elements is written as
its `y` in 255 bits, and one bit for `x`.  Bytes are a point exactly if `(y² - 1) / (d y² + 1)` is a
square.  The denominator is never zero, so the quotient is a square exactly if the product of
numerator and denominator is one, which Euler's criterion decides.
-/

namespace DigitalAsset.Edwards25519

/-- The number of elements of the field. -/
def p : Nat := Nat.pow 2 255 - 19

/-- The constant of the curve, `-121665 / 121666` in the field. -/
def d : Nat := 37095705934669439343138083508754565189542113879843219016388785533085940283555

example : d * 121666 % p = p - 121665 := by decide

/-- The power `b^n` in the field. -/
def power (b n : Nat) : Nat :=
  if n = 0 then 1
  else
    let half := power (b * b % p) (n / 2)
    if n % 2 = 1 then b * half % p else half
termination_by n
decreasing_by omega

/-- Whether a field element is a square, zero included. -/
def isSquare (n : Nat) : Bool :=
  let e := power (n % p) ((p - 1) / 2)
  n % p = 0 || e = 1

/-- The `y` that 32 bytes spell: their low 255 bits, as a field element. -/
def yOf (bytes : Bytes) : Nat := bytes.toNatLE % Nat.pow 2 255 % p

/-- Whether bytes are a point of the curve. -/
def isPoint (bytes : Bytes) : Bool :=
  let yy := yOf bytes * yOf bytes % p
  let numerator := (yy + p - 1) % p
  let denominator := (d * yy + 1) % p
  isSquare (numerator * denominator)

end DigitalAsset.Edwards25519
