import DigitalAsset.Account.Basic

/-!
# Drafts

A draft lists what an account shall carry after its base record, and `Draft.encode` writes it: the
header, the payloads of the plugins, the payloads of the adapters each followed by its data, and
the registry that points back to them.  A draft may hold entries of kinds that this version does
not know, as a later version would write them.
-/

namespace DigitalAsset

/-! ## Base records to begin with -/

/-- The base record of an asset whose name and text address nobody has chosen yet. -/
def AssetBase.placeholder (owner : Address) (updateAuthority : UpdateAuthority) : AssetBase :=
  { owner := owner
    updateAuthority := updateAuthority
    name := "Test Asset"
    uri := "https://example.com/asset.json"
    seq := none }

/-- The base record of a collection without members whose name and text address nobody has chosen
yet. -/
def CollectionBase.placeholder (updateAuthority : Address) : CollectionBase :=
  { updateAuthority := updateAuthority
    name := "Test Collection"
    uri := "https://example.com/collection.json"
    numMinted := 0
    currentSize := 0 }

/-! ## Entries -/

/-- A plugin of a draft. -/
inductive PluginDraft where
  | known (authority : Authority) (plugin : Plugin)
  | unknown (tag : UInt8) (authority : Authority)
  deriving DecidableEq

namespace PluginDraft

/-- The bytes of the payload; of an unknown kind only its tag. -/
def payload : PluginDraft → Bytes
  | known _ plugin => plugin.encode
  | unknown tag _ => Wire.u8 tag

/-- The registry record of a plugin whose payload stands at `offset`. -/
def record (offset : Nat) : PluginDraft → Bytes
  | known authority plugin =>
    Wire.u8 plugin.kind.tag ++ authority.encode ++ Wire.u64 (UInt64.ofNat offset)
  | unknown tag authority => Wire.u8 tag ++ authority.encode ++ Wire.u64 (UInt64.ofNat offset)

end PluginDraft

/-- An adapter of a draft. -/
structure AdapterDraft where
  authority : Authority
  checks : Option (List (Event × UInt32))
  adapter : Adapter
  data : Option Bytes
  deriving DecidableEq

namespace AdapterDraft

/-- The bytes of the payload and of the data after it. -/
def payload (a : AdapterDraft) : Bytes := a.adapter.encode ++ a.data.getD []

/-- The written form of an event and its flags. -/
def encodeCheck (check : Event × UInt32) : Bytes := Wire.u8 check.1.tag ++ Wire.u32 check.2

/-- The registry record of an adapter whose payload stands at `offset`. -/
def record (offset : Nat) (a : AdapterDraft) : Bytes :=
  let dataOffset := UInt64.ofNat (offset + a.adapter.encode.length)
  Wire.u8 a.adapter.kind.tag ++ a.authority.encode ++
    Wire.option (Wire.list encodeCheck) a.checks ++ Wire.u64 (UInt64.ofNat offset) ++
    Wire.option Wire.u64 (a.data.map fun _ => dataOffset) ++
    Wire.option Wire.u64 (a.data.map fun bytes => UInt64.ofNat bytes.length)

end AdapterDraft

/-- An adapter of an unknown kind: its tag and authority. -/
structure UnknownAdapterDraft where
  tag : UInt8
  authority : Authority
  deriving DecidableEq

namespace UnknownAdapterDraft

/-- The bytes of the payload: the tag alone. -/
def payload (u : UnknownAdapterDraft) : Bytes := Wire.u8 u.tag

/-- The registry record of an adapter whose payload stands at `offset`; it has no checks and no
data. -/
def record (offset : Nat) (u : UnknownAdapterDraft) : Bytes :=
  Wire.u8 u.tag ++ u.authority.encode ++ Wire.u8 0 ++ Wire.u64 (UInt64.ofNat offset) ++
    Wire.u8 0 ++ Wire.u8 0

end UnknownAdapterDraft

/-! ## Drafts -/

/-- What an account shall carry after its base record. -/
structure Draft where
  plugins : List PluginDraft := []
  adapters : List AdapterDraft := []
  unknownAdapters : List UnknownAdapterDraft := []
  /-- Whether the registry lists adapters at all. -/
  externalSection : Bool := true
  deriving DecidableEq

/-- Payloads written one after the other, and the records that point to them. -/
structure Placement where
  payloads : Bytes
  records : Bytes
  deriving DecidableEq

namespace Placement

/-- The placement of items, the first of which stands at `start`. -/
def ofList (payload : α → Bytes) (record : Nat → α → Bytes) : (start : Nat) → List α → Placement
  | _, [] => ⟨[], []⟩
  | start, a :: rest =>
    let bytes := payload a
    let after := ofList payload record (start + bytes.length) rest
    ⟨bytes ++ after.payloads, record start a ++ after.records⟩

/-- Two placements, one after the other. -/
def append (first second : Placement) : Placement :=
  ⟨first.payloads ++ second.payloads, first.records ++ second.records⟩

end Placement

namespace Draft

/-- Whether a draft lists nothing. -/
def isEmpty (d : Draft) : Bool :=
  d.plugins.isEmpty && d.adapters.isEmpty && d.unknownAdapters.isEmpty

/-- The plugins of a draft, placed from `start` on. -/
def placePlugins (d : Draft) (start : Nat) : Placement :=
  Placement.ofList PluginDraft.payload PluginDraft.record start d.plugins

/-- The adapters of a draft, known ones first, placed from `start` on. -/
def placeAdapters (d : Draft) (start : Nat) : Placement :=
  let known := Placement.ofList AdapterDraft.payload AdapterDraft.record start d.adapters
  known.append
    (Placement.ofList UnknownAdapterDraft.payload UnknownAdapterDraft.record
      (start + known.payloads.length) d.unknownAdapters)

/-- The adapters of a draft with their count, or nothing if the registry lists no adapters. -/
def adapterSection (d : Draft) (start : Nat) : Placement :=
  if d.externalSection then
    let placed := d.placeAdapters start
    ⟨placed.payloads,
      Wire.count (d.adapters.length + d.unknownAdapters.length) ++ placed.records⟩
  else ⟨[], []⟩

/-- The bytes of an account with a given base record. -/
def encode (base : Bytes) (d : Draft) : Bytes :=
  if d.isEmpty then base
  else
    let start := base.length + PluginHeader.width
    let plugins := d.placePlugins start
    let adapters := d.adapterSection (start + plugins.payloads.length)
    let payloads := plugins.payloads ++ adapters.payloads
    let header : PluginHeader := ⟨UInt64.ofNat (start + payloads.length)⟩
    base ++ header.encode ++ payloads ++ Wire.u8 Marker.pluginRegistry.tag ++
      Wire.count d.plugins.length ++ plugins.records ++ adapters.records

end Draft

end DigitalAsset
