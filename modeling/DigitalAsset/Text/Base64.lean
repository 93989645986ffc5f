import DigitalAsset.Bytes

/-!
# Base 64

Four symbols of six bits stand for three bytes.  The last group may be short: two symbols and two
signs `=` stand for one byte, three symbols and one sign `=` for two bytes, and the bits left over
are zero.  Each byte string has exactly one text.  A refused text is answered by its first flaw,
looked for in this order: a stray last byte, the full groups, the last group's symbols, its length,
its padding, its unused bits.
-/

namespace DigitalAsset.Base64

/-- Why a text is no base 64 byte string. -/
inductive Flaw where
  /-- The byte at `index` is no symbol, or a padding sign where none may stand. -/
  | invalidSymbol (index : Nat) (byte : UInt8)
  /-- The text ends after `length` symbols, the last of which begins no byte. -/
  | invalidLength (length : Nat)
  /-- The last symbol, at `index`, has bits that stand for nothing. -/
  | invalidLastSymbol (index : Nat) (byte : UInt8)
  /-- The last group is not padded to four. -/
  | invalidPadding
  deriving DecidableEq, Repr

/-- The text of a flaw. -/
def Flaw.message : Flaw → String
  | .invalidSymbol index byte =>
    "Invalid symbol " ++ toString byte.toNat ++ ", offset " ++ toString index ++ "."
  | .invalidLength length => "Invalid input length: " ++ toString length
  | .invalidLastSymbol index byte =>
    "Invalid last symbol " ++ toString byte.toNat ++ ", offset " ++ toString index ++ "."
  | .invalidPadding => "Invalid padding"

/-- The six bits of a symbol, given as an ASCII byte. -/
def symbol? (b : UInt8) : Option Nat :=
  if 65 ≤ b ∧ b ≤ 90 then some (b.toNat - 65)
  else if 97 ≤ b ∧ b ≤ 122 then some (b.toNat - 71)
  else if 48 ≤ b ∧ b ≤ 57 then some (b.toNat + 4)
  else if b = 43 then some 62
  else if b = 47 then some 63
  else none

/-- The padding sign `=`. -/
def pad : UInt8 := 61

/-- The symbols of consecutive bytes from `index` on. -/
def symbols : (index : Nat) → Bytes → Except Flaw (List Nat)
  | _, [] => .ok []
  | i, b :: rest =>
    match symbol? b with
    | none => .error (.invalidSymbol i b)
    | some v => (symbols (i + 1) rest).map (v :: ·)

/-- The bytes of full groups of four symbols. -/
def groups : List Nat → Bytes
  | a :: b :: c :: d :: rest =>
    let n := ((a * 64 + b) * 64 + c) * 64 + d
    UInt8.ofNat (n / 65536) :: UInt8.ofNat (n / 256) :: UInt8.ofNat n :: groups rest
  | _ => []

/-- The symbols and the number of padding signs of the last group, whose next byte stands at
`start + offset`; `firstPad` is the offset of the first padding sign met. -/
def lastSymbols (start : Nat) : (offset : Nat) → (firstPad : Option Nat) → Bytes →
    Except Flaw (List (UInt8 × Nat) × Nat)
  | _, _, [] => .ok ([], 0)
  | o, firstPad, b :: rest =>
    if b = pad then
      if o < 2 then .error (.invalidSymbol (start + o) b)
      else
        match lastSymbols start (o + 1) (some (firstPad.getD o)) rest with
        | .ok (found, pads) => .ok (found, pads + 1)
        | .error e => .error e
    else
      match firstPad, symbol? b with
      | some p, _ => .error (.invalidSymbol (start + p) pad)
      | none, none => .error (.invalidSymbol (start + o) b)
      | none, some v =>
        match lastSymbols start (o + 1) none rest with
        | .ok (found, pads) => .ok ((b, v) :: found, pads)
        | .error e => .error e

/-- The bytes of a last group that starts at `start`. -/
def lastGroup (start : Nat) (text : Bytes) : Except Flaw Bytes :=
  match lastSymbols start 0 none text with
  | .error e => .error e
  | .ok (found, pads) =>
    if found.length < 2 then .error (.invalidLength (start + found.length))
    else if (found.length + pads) % 4 ≠ 0 then .error .invalidPadding
    else
      let values := found.map (·.2)
      let full := groups (values ++ List.replicate (4 - values.length) 0)
      let kept := found.length * 6 / 8
      if (full.drop kept).any (· ≠ 0) then
        .error (.invalidLastSymbol (start + found.length - 1) ((found.getLast?.map (·.1)).getD 0))
      else .ok (full.take kept)

/-- The bytes that a text spells. -/
def decode (text : Bytes) : Except Flaw Bytes :=
  let extra := text.length % 4
  let stray := (text.getLast?).filter fun b => extra = 1 ∧ b ≠ pad ∧ symbol? b = none
  match stray with
  | some b => .error (.invalidSymbol (text.length - 1) b)
  | none =>
    if text.isEmpty then .ok []
    else
      let start := text.length - (if extra = 0 then 4 else extra)
      match symbols 0 (text.take start) with
      | .error e => .error e
      | .ok values =>
        match lastGroup start (text.drop start) with
        | .error e => .error e
        | .ok tail => .ok (groups values ++ tail)

end DigitalAsset.Base64
