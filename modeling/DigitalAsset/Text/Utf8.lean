import DigitalAsset.Bytes

/-!
# UTF-8

`Utf8.encode` writes a string and `Utf8.decode` reads one.  Reading accepts exactly what writing
produces (`decode_encode`, `eq_encode_of_decode`).  A refused byte string is answered by its first
flaw: the first place where the bytes read so far can no longer begin a character, or the
character that the end of the input cuts off.
-/

namespace DigitalAsset.Utf8

/-! ## The first flaw -/

/-- Why a byte string is no UTF-8. -/
inductive Flaw where
  /-- `length` bytes from `index` on begin a character, and the byte after them cannot go on. -/
  | invalid (length index : Nat)
  /-- The input ends inside the character that starts at `index`. -/
  | incomplete (index : Nat)
  deriving DecidableEq, Repr

/-- The text of a flaw. -/
def Flaw.message : Flaw → String
  | .invalid length index =>
    "invalid utf-8 sequence of " ++ toString length ++ " bytes from index " ++ toString index
  | .incomplete index => "incomplete utf-8 byte sequence from index " ++ toString index

/-- A character of which some bytes are read: where it starts, how many bytes it still needs, and
the range of the next one. -/
structure Pending where
  start : Nat
  owed : Nat
  low : UInt8
  high : UInt8

/-- What a first byte announces: how many bytes follow and the range of the second one. -/
def lead? (b : UInt8) : Option (Nat × UInt8 × UInt8) :=
  if b ≤ 0x7F then some (0, 0x80, 0xBF)
  else if 0xC2 ≤ b ∧ b ≤ 0xDF then some (1, 0x80, 0xBF)
  else if b = 0xE0 then some (2, 0xA0, 0xBF)
  else if b = 0xED then some (2, 0x80, 0x9F)
  else if 0xE1 ≤ b ∧ b ≤ 0xEF then some (2, 0x80, 0xBF)
  else if b = 0xF0 then some (3, 0x90, 0xBF)
  else if 0xF1 ≤ b ∧ b ≤ 0xF3 then some (3, 0x80, 0xBF)
  else if b = 0xF4 then some (3, 0x80, 0x8F)
  else none

/-- Scan bytes from `index` on, inside the pending character if there is one. -/
def scan : Option Pending → (index : Nat) → Bytes → Option Flaw
  | none, _, [] => none
  | some p, _, [] => some (.incomplete p.start)
  | none, i, b :: rest =>
    match lead? b with
    | none => some (.invalid 1 i)
    | some (0, _, _) => scan none (i + 1) rest
    | some (owed, low, high) => scan (some ⟨i, owed, low, high⟩) (i + 1) rest
  | some p, i, b :: rest =>
    if p.low ≤ b ∧ b ≤ p.high then
      if p.owed = 1 then scan none (i + 1) rest
      else scan (some ⟨p.start, p.owed - 1, 0x80, 0xBF⟩) (i + 1) rest
    else some (.invalid (i - p.start) p.start)

/-- The first flaw of a byte string, if it has one. -/
def flaw? (bytes : Bytes) : Option Flaw := scan none 0 bytes

/-! ## Writing and reading -/

/-- The UTF-8 bytes of a string. -/
def encode (s : String) : Bytes := s.toByteArray.data.toList

/-- The string that a byte string spells. -/
def decode (bytes : Bytes) : Except Flaw String :=
  match String.fromUTF8? ⟨bytes.toArray⟩ with
  | some s => .ok s
  | none => .error ((flaw? bytes).getD (.incomplete 0))

theorem fromUTF8?_eq_some_iff {bytes : ByteArray} {s : String} :
    String.fromUTF8? bytes = some s ↔ bytes = s.toByteArray := by
  constructor
  · intro h
    unfold String.fromUTF8? at h
    split at h
    · cases h
      rfl
    · cases h
  · rintro rfl
    unfold String.fromUTF8?
    rw [dif_pos s.isValidUTF8]
    rfl

/-- What was written is read back. -/
theorem decode_encode (s : String) : decode (encode s) = .ok s := by
  have h : String.fromUTF8? ⟨(encode s).toArray⟩ = some s := by
    rw [fromUTF8?_eq_some_iff]
    simp [encode]
  unfold decode
  rw [h]

/-- Only what writing produces is read. -/
theorem eq_encode_of_decode {bytes : Bytes} {s : String} (h : decode bytes = .ok s) :
    bytes = encode s := by
  unfold decode at h
  split at h
  · rename_i t ht
    cases h
    rw [fromUTF8?_eq_some_iff] at ht
    rw [encode, ← ht]
  · cases h

end DigitalAsset.Utf8
