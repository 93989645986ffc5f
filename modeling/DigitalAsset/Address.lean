import DigitalAsset.Text.Base58

/-!
# Addresses

An address is 32 bytes.  It names an account, a program or a person, and prints in base 58.
-/

namespace DigitalAsset

/-- A 32-byte account address. -/
structure Address where
  bytes : Bytes
  length_eq : bytes.length = 32
  deriving DecidableEq

namespace Address

/-- The address with the given bytes, if there are 32 of them. -/
def ofBytes? (bytes : Bytes) : Option Address :=
  if h : bytes.length = 32 then some ⟨bytes, h⟩ else none

/-- The address whose bytes are the first 32 of a byte string, filled up with zero bytes. -/
def ofPrefix (bytes : Bytes) : Address :=
  ⟨bytes.take 32 ++ List.replicate (32 - bytes.length) 0, by simp; omega⟩

/-- The address of zero bytes only, which stands for an address nobody gave. -/
def zero : Address := ofPrefix []

instance : Inhabited Address := ⟨zero⟩

/-- The base 58 text of an address. -/
def toBase58 (a : Address) : String := Base58.encode a.bytes

/-- The address that a base 58 text names. -/
def ofBase58? (s : String) : Option Address := (Base58.decode? s).bind ofBytes?

instance : ToString Address := ⟨toBase58⟩

@[ext] theorem ext {a b : Address} (h : a.bytes = b.bytes) : a = b := by
  cases a
  cases b
  cases h
  rfl

@[simp] theorem ofBytes?_bytes (a : Address) : ofBytes? a.bytes = some a := by
  simp [ofBytes?, a.length_eq]

theorem ofPrefix_bytes (a : Address) : ofPrefix a.bytes = a := by
  apply ext
  simp [ofPrefix, a.length_eq, List.take_of_length_le]

theorem bytes_ofPrefix {bytes : Bytes} (h : bytes.length = 32) :
    (ofPrefix bytes).bytes = bytes := by
  simp [ofPrefix, h, List.take_of_length_le]

end Address

end DigitalAsset
