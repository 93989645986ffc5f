import DigitalAsset.Bytes

/-!
# Base 58

The number that a byte string stands for, most significant byte first, is written in base 58 with
digits and letters that cannot be mistaken for each other (no `0`, `O`, `I` and `l`).  Each zero
byte in front is written as one digit `1`, which is the digit zero.
-/

namespace DigitalAsset.Base58

/-- The digits in ascending order. -/
def alphabet : List Char :=
  "123456789ABCDEFGHJKLMNPQRSTUVWXYZabcdefghijkmnopqrstuvwxyz".toList

/-- The character of a digit below 58. -/
def digitChar (d : Nat) : Char := alphabet.getD d '1'

/-- The digit of a character. -/
def digit? (c : Char) : Option Nat := alphabet.idxOf? c

/-- The base 58 digits of a number, least significant first; zero has none. -/
def digitsLE (n : Nat) : List Nat :=
  if n = 0 then [] else n % 58 :: digitsLE (n / 58)
termination_by n
decreasing_by omega

/-- The base 256 digits of a number, least significant first; zero has none. -/
def bytesLE (n : Nat) : Bytes :=
  if n = 0 then [] else UInt8.ofNat n :: bytesLE (n / 256)
termination_by n
decreasing_by omega

/-- The text of a byte string. -/
def encode (bytes : Bytes) : String :=
  let zeros := (bytes.takeWhile (· = 0)).length
  String.ofList
    (List.replicate zeros '1' ++ (digitsLE bytes.toNatBE).reverse.map digitChar)

/-- The byte string that a text stands for, if every character is a digit. -/
def decode? (s : String) : Option Bytes :=
  (s.toList.mapM digit?).map fun digits =>
    let zeros := (digits.takeWhile (· = 0)).length
    let value := digits.foldl (fun acc d => 58 * acc + d) 0
    List.replicate zeros 0 ++ (bytesLE value).reverse

end DigitalAsset.Base58
