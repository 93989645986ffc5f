/-!
# Unsigned words in decimal

Decimal digits, with an optional plus sign before them, spell a number below `2^64`.  A refused text
is answered by the first thing wrong with it, from the left.
-/

namespace DigitalAsset.Unsigned

/-- Why a text spells no word. -/
inductive Flaw where
  /-- The text is empty. -/
  | empty
  /-- A character is no digit, or there is none after the sign. -/
  | notDigit
  /-- The digits so far already spell too great a number. -/
  | tooGreat
  deriving DecidableEq, Repr

/-- The text of a flaw. -/
def Flaw.message : Flaw → String
  | .empty => "cannot parse integer from empty string"
  | .notDigit => "invalid digit found in string"
  | .tooGreat => "number too large to fit in target type"

/-- The first number that is too great. -/
def limit : Nat := Nat.pow 2 64

/-- The number that digits spell after digits that spell `n`. -/
def digits : (n : Nat) → List Char → Except Flaw Nat
  | n, [] => .ok n
  | n, c :: cs =>
    if ¬ c.isDigit then .error .notDigit
    else
      let n := 10 * n + (c.toNat - 48)
      if n < limit then digits n cs else .error .tooGreat

/-- The number that a text spells. -/
def parse (text : String) : Except Flaw Nat :=
  match text.toList with
  | [] => .error .empty
  | ['+'] => .error .notDigit
  | '+' :: cs => digits 0 cs
  | cs => digits 0 cs

end DigitalAsset.Unsigned
