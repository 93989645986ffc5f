import DigitalAsset.Address
import DigitalAsset.Crypto.Edwards25519
import DigitalAsset.Crypto.Sha256

/-!
# Program addresses

A program owns the addresses that are hashes of seeds, a bump byte and its own address, provided
that the hash is no point of edwards25519 and so has no private key.  The search tries the bumps
from 255 down to 1.  The rules of resolution do not depend on how the search is done, so they take
any `AddressSearch`; `ProgramAddress.find` is the one in use.
-/

namespace DigitalAsset

/-- A search for an address that a program derives from seeds. -/
abbrev AddressSearch : Type := (seeds : List Bytes) → (program : Address) → Option Address

namespace ProgramAddress

/-- The greatest number of seeds beside the bump. -/
def maxSeeds : Nat := 15

/-- The greatest length of a seed. -/
def maxSeedLength : Nat := 32

/-- The bytes that end every hashed message: `ProgramDerivedAddress`. -/
def marker : Bytes := "ProgramDerivedAddress".toList.map fun c => UInt8.ofNat c.toNat

/-- The hash of seeds with a bump. -/
def candidate (seeds : List Bytes) (program : Address) (bump : UInt8) : Bytes :=
  Sha256.hash (seeds.flatten ++ bump :: (program.bytes ++ marker))

/-- The first address at or below a bump that is no point of the curve. -/
def search (seeds : List Bytes) (program : Address) : (bump : Nat) → Option Address
  | 0 => none
  | bump + 1 =>
    let hash := candidate seeds program (UInt8.ofNat (bump + 1))
    if Edwards25519.isPoint hash then search seeds program bump else Address.ofBytes? hash

/-- The address that a program derives from seeds. -/
def find : AddressSearch := fun seeds program =>
  if maxSeeds < seeds.length ∨ seeds.any fun s => maxSeedLength < s.length then none
  else search seeds program 255

/-- Too many seeds, or one that is too long, have no address. -/
theorem find_eq_none {seeds : List Bytes} {program : Address}
    (h : maxSeeds < seeds.length ∨ ∃ s ∈ seeds, maxSeedLength < s.length) :
    find seeds program = none := by
  unfold find
  rw [if_pos]
  rcases h with h | ⟨s, hs, hlong⟩
  · exact Or.inl h
  · exact Or.inr (List.any_eq_true.mpr ⟨s, hs, by simpa using hlong⟩)

end ProgramAddress

end DigitalAsset
