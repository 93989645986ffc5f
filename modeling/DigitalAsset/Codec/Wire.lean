import DigitalAsset.Address
import DigitalAsset.Text.Utf8

/-!
# Written forms

The bytes that the readers of the same names read back.  A length or a count is written in 32 bits,
so a string or list that is longer than that has no written form of its own.
-/

namespace DigitalAsset.Wire

/-- An unsigned integer of 8 bits. -/
def u8 (n : UInt8) : Bytes := [n]

/-- An unsigned integer of 16 bits. -/
def u16 (n : UInt16) : Bytes := Bytes.ofNatLE 2 n.toNat

/-- An unsigned integer of 32 bits. -/
def u32 (n : UInt32) : Bytes := Bytes.ofNatLE 4 n.toNat

/-- An unsigned integer of 64 bits. -/
def u64 (n : UInt64) : Bytes := Bytes.ofNatLE 8 n.toNat

/-- A truth value. -/
def bool (b : Bool) : Bytes := [if b then 1 else 0]

/-- A count in 32 bits. -/
def count (n : Nat) : Bytes := u32 (UInt32.ofNat n)

/-- A byte string after its length. -/
def blob (bytes : Bytes) : Bytes := count bytes.length ++ bytes

/-- A string in UTF-8 after its length in bytes. -/
def string (s : String) : Bytes := blob (Utf8.encode s)

/-- An address. -/
def address (a : Address) : Bytes := a.bytes

/-- An optional value. -/
def option (item : α → Bytes) : Option α → Bytes
  | none => u8 0
  | some a => u8 1 ++ item a

/-- A list after its length. -/
def list (item : α → Bytes) (items : List α) : Bytes := count items.length ++ items.flatMap item

end DigitalAsset.Wire
