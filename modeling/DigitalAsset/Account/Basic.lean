import DigitalAsset.Registry.Payload

/-!
# Accounts

An account begins with a base record: the fields that every asset or collection has.  If the buffer
goes on after it, a header says where the registry of plugins and adapters stands.  An account is
read at a known address, which is not stored in it.
-/

namespace DigitalAsset

/-! ## Base records -/

/-- The fields that every asset has. -/
structure AssetBase where
  owner : Address
  updateAuthority : UpdateAuthority
  name : String
  uri : String
  seq : Option UInt64
  deriving DecidableEq

namespace AssetBase

/-- The reader of an asset's base record. -/
def reader : Reader AssetBase := do
  Marker.reader .asset
  let owner ← Reader.address "owner"
  let updateAuthority ← UpdateAuthority.reader
  let name ← Reader.string "name"
  let uri ← Reader.string "uri"
  let seq ← Reader.option "seq" (Reader.u64 "seq")
  return ⟨owner, updateAuthority, name, uri, seq⟩

/-- The written form of an asset's base record. -/
def encode (b : AssetBase) : Bytes :=
  Wire.u8 Marker.asset.tag ++ Wire.address b.owner ++ b.updateAuthority.encode ++
    Wire.string b.name ++ Wire.string b.uri ++ Wire.option Wire.u64 b.seq

end AssetBase

/-- The fields that every collection has. -/
structure CollectionBase where
  updateAuthority : Address
  name : String
  uri : String
  numMinted : UInt32
  currentSize : UInt32
  deriving DecidableEq

namespace CollectionBase

/-- The reader of a collection's base record. -/
def reader : Reader CollectionBase := do
  Marker.reader .collection
  let updateAuthority ← Reader.address "update_authority"
  let name ← Reader.string "name"
  let uri ← Reader.string "uri"
  let numMinted ← Reader.u32 "num_minted"
  let currentSize ← Reader.u32 "current_size"
  return ⟨updateAuthority, name, uri, numMinted, currentSize⟩

/-- The written form of a collection's base record. -/
def encode (b : CollectionBase) : Bytes :=
  Wire.u8 Marker.collection.tag ++ Wire.address b.updateAuthority ++ Wire.string b.name ++
    Wire.string b.uri ++ Wire.u32 b.numMinted ++ Wire.u32 b.currentSize

end CollectionBase

/-! ## Extensions -/

/-- What an account carries after its base record. -/
structure Extension where
  header : Option PluginHeader
  plugins : PluginSlots
  adapters : AdapterTable

namespace Extension

/-- Nothing after the base record. -/
def empty : Extension := ⟨none, .empty, .empty⟩

/-- What stands after a base record that ends at `baseEnd`. -/
def readAt (settings : Settings) (data : Bytes) (baseEnd : Nat)
    (spelling : Json.Spelling := Json.parse) : Except Error Extension := do
  if data.length ≤ baseEnd then return empty
  let header ← PluginHeader.reader.value data baseEnd
  let start ← Reader.indexOf "plugin_registry" header.registryOffset data
  let registry ← (Registry.reader settings).value data start
  let plugins ← PluginSlots.ofRecords settings data registry.plugins
  let adapters ← AdapterTable.ofRecords settings data registry.adapters spelling
  return ⟨some header, plugins, adapters⟩

end Extension

/-! ## Assets and collections -/

/-- An account at an address: its base record and what follows it. -/
structure Account (Base : Type) where
  address : Address
  base : Base
  extension : Extension

namespace Account

/-- The plugins of an account. -/
def plugins (a : Account Base) : PluginSlots := a.extension.plugins

/-- The adapters of an account. -/
def adapters (a : Account Base) : AdapterTable := a.extension.adapters

/-- The account that a buffer holds, its base record being read by `reader`. -/
def decode (reader : Reader Base) (settings : Settings) (address : Address) (data : Bytes)
    (spelling : Json.Spelling := Json.parse) : Except Error (Account Base) := do
  let outcome := reader data 0
  let base ← outcome.result
  let extension ← Extension.readAt settings data outcome.next spelling
  return ⟨address, base, extension⟩

end Account

/-- An asset account. -/
abbrev Asset : Type := Account AssetBase

/-- A collection account. -/
abbrev Collection : Type := Account CollectionBase

namespace Asset

/-- The asset that a buffer holds. -/
def decode (settings : Settings) (address : Address) (data : Bytes)
    (spelling : Json.Spelling := Json.parse) : Except Error Asset :=
  Account.decode AssetBase.reader settings address data spelling

/-- The collection that an asset belongs to. -/
def collection? (asset : Asset) : Option Address := asset.base.updateAuthority.collection?

end Asset

namespace Collection

/-- The collection that a buffer holds. -/
def decode (settings : Settings) (address : Address) (data : Bytes)
    (spelling : Json.Spelling := Json.parse) : Except Error Collection :=
  Account.decode CollectionBase.reader settings address data spelling

end Collection

end DigitalAsset
