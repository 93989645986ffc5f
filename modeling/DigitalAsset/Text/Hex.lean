import DigitalAsset.Bytes

/-!
# Hexadecimal text

Two digits a byte, the high half first.  Reading takes digits of either case and names the first
character that is none.
-/

namespace DigitalAsset.Hex

/-- Why a text is no hexadecimal byte string. -/
inductive Flaw where
  /-- The number of digits is odd. -/
  | oddLength
  /-- The byte at `index` is no digit. -/
  | notDigit (byte : UInt8) (index : Nat)
  deriving DecidableEq, Repr

/-- The digits of a number in base 16, lower case, most significant first. -/
def ofNat (n : Nat) : String := String.ofList (Nat.toDigits 16 n)

/-- A byte read as a Latin-1 character, quoted: a quote, a backslash and the common controls are
written with a backslash, any other character without a shape of its own by its code. -/
def quoted (byte : UInt8) : String :=
  let text :=
    if byte = 0 then "\\0"
    else if byte = 9 then "\\t"
    else if byte = 10 then "\\n"
    else if byte = 13 then "\\r"
    else if byte = 39 then "\\'"
    else if byte = 92 then "\\\\"
    else if byte < 32 ∨ (127 ≤ byte ∧ byte ≤ 160) ∨ byte = 173 then
      "\\u\x7b" ++ ofNat byte.toNat ++ "\x7d"
    else (Char.ofNat byte.toNat).toString
  "'" ++ text ++ "'"

/-- The text of a flaw. -/
def Flaw.message : Flaw → String
  | .oddLength => "Odd number of digits"
  | .notDigit byte index => "Invalid character " ++ quoted byte ++ " at position " ++ toString index

/-- The value of a digit, given as an ASCII byte. -/
def digit? (b : UInt8) : Option UInt8 :=
  if 48 ≤ b ∧ b ≤ 57 then some (b - 48)
  else if 97 ≤ b ∧ b ≤ 102 then some (b - 87)
  else if 65 ≤ b ∧ b ≤ 70 then some (b - 55)
  else none

/-- Read the pairs of digits from `index` on. -/
def pairs : (index : Nat) → Bytes → Except Flaw Bytes
  | i, high :: low :: rest =>
    match digit? high, digit? low with
    | none, _ => .error (.notDigit high i)
    | _, none => .error (.notDigit low (i + 1))
    | some h, some l => (pairs (i + 2) rest).map ((16 * h + l) :: ·)
  | _, _ => .ok []

/-- The bytes that a text of ASCII digits spells. -/
def decode (text : Bytes) : Except Flaw Bytes :=
  if text.length % 2 = 1 then .error .oddLength else pairs 0 text

/-- The two digits of a byte. -/
def byteDigits (b : UInt8) : List Char :=
  [Nat.digitChar (b.toNat / 16), Nat.digitChar (b.toNat % 16)]

/-- The lower-case text of a byte string. -/
def encode (bytes : Bytes) : String := String.ofList (bytes.flatMap byteDigits)

end DigitalAsset.Hex
