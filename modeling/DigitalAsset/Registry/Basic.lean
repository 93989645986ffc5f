import DigitalAsset.Registry.Record

/-!
# The plugin registry

After its marker a registry lists the plugins and then the adapters of an account.  Entries of
unknown kinds are dropped.  The list of plugins has to be readable to its end.  The list of adapters
ends at the first entry that cannot be read, and it may be missing altogether: older accounts end
after the plugins.
-/

namespace DigitalAsset

/-- Read the leading byte of a structure, which has to be the given marker. -/
def Marker.reader (expected : Marker) : Reader Unit := do
  let found ← Reader.u8 "key"
  if found = expected.tag then return ()
  else Reader.fail (.unexpectedKey expected found)

/-- The header between an account's own fields and its plugins: where the registry stands. -/
structure PluginHeader where
  registryOffset : UInt64
  deriving DecidableEq

namespace PluginHeader

/-- The number of bytes of a header. -/
def width : Nat := 9

/-- The reader of a header. -/
def reader : Reader PluginHeader := do
  Marker.reader .pluginHeader
  return ⟨← Reader.u64 "plugin_registry_offset"⟩

/-- The written form of a header. -/
def encode (h : PluginHeader) : Bytes :=
  Wire.u8 Marker.pluginHeader.tag ++ Wire.u64 h.registryOffset

end PluginHeader

/-- The records of an account, unknown entries left out. -/
structure Registry where
  plugins : List PluginRecord
  adapters : List AdapterRecord
  deriving DecidableEq

namespace Registry

/-- The reader of the plugin entries. -/
def pluginEntries (settings : Settings) : Reader (List (Entry PluginRecord)) :=
  Reader.list "registry" (PluginRecord.entryReader settings)

/-- The reader of the adapter entries, up to the first that cannot be read; none at the end of the
buffer. -/
def adapterEntries (settings : Settings) : Reader (List (Entry AdapterRecord)) :=
  fun data pos =>
    if Reader.remaining data pos = 0 then ⟨.ok [], pos⟩
    else
      (do
        let count ← Reader.u32 "external_registry"
        Reader.upTo (AdapterRecord.entryReader settings) count.toNat) data pos

/-- The reader of a registry. -/
def reader (settings : Settings) : Reader Registry := do
  Marker.reader .pluginRegistry
  let plugins ← pluginEntries settings
  let adapters ← adapterEntries settings
  return ⟨plugins.filterMap Entry.record?, adapters.filterMap Entry.record?⟩

end Registry

end DigitalAsset
