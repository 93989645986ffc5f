import DigitalAsset.Codec.Reader
import DigitalAsset.Codec.Wire

/-!
# Extra accounts

A hook or oracle may ask for further accounts.  Each is described either by its address or by the
seeds that a program address is derived from; the seeds may refer to the asset, its collection, its
owner and the recipient, which are known only when the account is resolved.
-/

namespace DigitalAsset

/-! ## Well-known addresses -/

/-- The addresses that a description may refer to. -/
inductive WellKnown where
  | asset
  | collection
  | owner
  | recipient
  deriving DecidableEq, Repr

namespace WellKnown

/-- The name of a well-known address. -/
def name : WellKnown → String
  | asset => "asset"
  | collection => "collection"
  | owner => "owner"
  | recipient => "recipient"

theorem name_injective {a b : WellKnown} (h : a.name = b.name) : a = b := by
  cases a <;> cases b <;> first | rfl | exact absurd h (by decide)

end WellKnown

/-! ## Seeds -/

/-- A seed of a program address. -/
inductive Seed where
  /-- The bytes of a well-known address. -/
  | wellKnown (address : WellKnown)
  /-- The bytes of a fixed address. -/
  | address (address : Address)
  /-- Fixed bytes. -/
  | bytes (bytes : Bytes)
  deriving DecidableEq

namespace Seed

/-- The reader of a seed. -/
def reader : Reader Seed :=
  Reader.tagged "seed" "seed tag" fun tag =>
    if tag = 0 then some (pure (wellKnown .collection))
    else if tag = 1 then some (pure (wellKnown .owner))
    else if tag = 2 then some (pure (wellKnown .recipient))
    else if tag = 3 then some (pure (wellKnown .asset))
    else if tag = 4 then some (return address (← Reader.address "seed.address"))
    else if tag = 5 then some (return bytes (← Reader.blob "seed.bytes"))
    else none

/-- The written form of a seed. -/
def encode : Seed → Bytes
  | wellKnown .collection => Wire.u8 0
  | wellKnown .owner => Wire.u8 1
  | wellKnown .recipient => Wire.u8 2
  | wellKnown .asset => Wire.u8 3
  | address a => Wire.u8 4 ++ Wire.address a
  | bytes b => Wire.u8 5 ++ Wire.blob b

end Seed

/-! ## Descriptions -/

/-- What an instruction may do with an account. -/
structure AccountFlags where
  isSigner : Bool
  isWritable : Bool
  deriving DecidableEq, Repr

/-- Where the key of an extra account comes from. -/
inductive AccountSource where
  /-- Derived from the address of the program that asks for the account. -/
  | preconfiguredProgram
  /-- Derived from a well-known address. -/
  | preconfigured (address : WellKnown)
  /-- Derived from seeds of its own, under the given program or the one that asks. -/
  | customPda (seeds : List Seed) (program : Option Address)
  /-- A fixed address. -/
  | address (address : Address)
  deriving DecidableEq

/-- The description of an extra account. -/
structure ExtraAccount where
  source : AccountSource
  flags : AccountFlags
  deriving DecidableEq

namespace ExtraAccount

/-- The reader of account flags. -/
def flagsReader : Reader AccountFlags := do
  let isSigner ← Reader.bool "extra_account.is_signer"
  let isWritable ← Reader.bool "extra_account.is_writable"
  return ⟨isSigner, isWritable⟩

/-- The reader of a description with the given source and the flags after it. -/
def withFlags (source : Reader AccountSource) : Reader ExtraAccount := do
  let source ← source
  let flags ← flagsReader
  return ⟨source, flags⟩

/-- The reader of seeds and an optional program. -/
def customPdaReader : Reader AccountSource := do
  let seeds ← Reader.list "extra_account.seeds" Seed.reader
  let program ← Reader.option "extra_account.custom_program_id"
    (Reader.address "extra_account.custom_program_id")
  return .customPda seeds program

/-- The reader of a description. -/
def reader : Reader ExtraAccount :=
  Reader.tagged "extra_account" "extra account tag" fun tag =>
    if tag = 0 then some (withFlags (pure .preconfiguredProgram))
    else if tag = 1 then some (withFlags (pure (.preconfigured .collection)))
    else if tag = 2 then some (withFlags (pure (.preconfigured .owner)))
    else if tag = 3 then some (withFlags (pure (.preconfigured .recipient)))
    else if tag = 4 then some (withFlags (pure (.preconfigured .asset)))
    else if tag = 5 then some (withFlags customPdaReader)
    else if tag = 6 then
      some (withFlags (return .address (← Reader.address "extra_account.address")))
    else none

/-- The written form of a source: its tag and what follows it. -/
def encodeSource : AccountSource → Bytes
  | .preconfiguredProgram => Wire.u8 0
  | .preconfigured .collection => Wire.u8 1
  | .preconfigured .owner => Wire.u8 2
  | .preconfigured .recipient => Wire.u8 3
  | .preconfigured .asset => Wire.u8 4
  | .customPda seeds program =>
    Wire.u8 5 ++ Wire.list Seed.encode seeds ++ Wire.option Wire.address program
  | .address a => Wire.u8 6 ++ Wire.address a

/-- The written form of account flags. -/
def encodeFlags (flags : AccountFlags) : Bytes :=
  Wire.bool flags.isSigner ++ Wire.bool flags.isWritable

/-- The written form of a description. -/
def encode (extra : ExtraAccount) : Bytes := encodeSource extra.source ++ encodeFlags extra.flags

end ExtraAccount

end DigitalAsset
