import DigitalAsset.Adapter.Basic

/-!
# Written form of adapters

A payload is the tag of its kind and then its fields.  The errors of a hook's and an oracle's own
fields carry the type name of the kind.
-/

namespace DigitalAsset

/-! ## Reading -/

/-- The reader of a schema. -/
def Schema.reader : Reader Schema :=
  Reader.tagged "schema" "schema tag" fun tag => (Schema.ofTag? tag).map pure

/-- The reader of the parent of a data section. -/
def LinkedDataKey.reader : Reader LinkedDataKey :=
  Reader.tagged "parent_key" "linked data key tag" fun tag =>
    if tag = 0 then
      some (return .linkedLifecycleHook (← Reader.address "parent_key.hooked_program"))
    else if tag = 1 then some (return .linkedAppData (← Authority.reader))
    else none

/-- The reader of a hook named `key`. -/
def Hook.reader (key : String) : Reader Hook := do
  let hookedProgram ← Reader.address key
  let extraAccounts ← Reader.option key (Reader.list key ExtraAccount.reader)
  let dataAuthority ← Reader.option key Authority.reader
  let schema ← Schema.reader
  return ⟨hookedProgram, extraAccounts, dataAuthority, schema⟩

/-- The reader of a results offset inside an oracle named `key`. -/
def ResultsOffset.reader (key : String) : Reader ResultsOffset := do
  let start ← Reader.position
  let tag ← Reader.u8 key
  if tag = 0 then return noOffset
  else if tag = 1 then return anchor
  else if tag = 2 then return custom (← Reader.u64 key)
  else
    Reader.fail (.decode "Oracle.results_offset" start (.unknown "results offset tag" tag))

/-- The reader of an oracle named `key`. -/
def Oracle.reader (key : String) : Reader Oracle := do
  let baseAddress ← Reader.address key
  let baseAddressConfig ← Reader.option key ExtraAccount.reader
  let resultsOffset ← ResultsOffset.reader key
  return ⟨baseAddress, baseAddressConfig, resultsOffset⟩

/-- The reader of an authority's data. -/
def AppData.reader : Reader AppData := do
  let dataAuthority ← Authority.reader
  let schema ← Schema.reader
  return ⟨dataAuthority, schema⟩

/-- The reader of a data section. -/
def DataSection.reader : Reader DataSection := do
  let parentKey ← LinkedDataKey.reader
  let schema ← Schema.reader
  return ⟨parentKey, schema⟩

namespace Adapter

/-- The reader of the fields of an adapter of a given kind. -/
def fields (kind : AdapterKind) : Reader Adapter :=
  let key := kind.typeName
  match kind with
  | .lifecycleHook => return lifecycleHook (← Hook.reader key)
  | .oracle => return oracle (← Oracle.reader key)
  | .appData => return appData (← AppData.reader)
  | .linkedLifecycleHook => return linkedLifecycleHook (← Hook.reader key)
  | .linkedAppData => return linkedAppData (← AppData.reader)
  | .dataSection => return dataSection (← DataSection.reader)

/-- The reader of an adapter payload. -/
def reader : Reader Adapter :=
  Reader.tagged "external_plugin_adapter" "adapter tag" fun tag =>
    (AdapterKind.ofTag? tag).map fields

end Adapter

/-! ## Writing -/

/-- The written form of a schema. -/
def Schema.encode (s : Schema) : Bytes := Wire.u8 s.tag

/-- The written form of the parent of a data section. -/
def LinkedDataKey.encode : LinkedDataKey → Bytes
  | .linkedLifecycleHook program => Wire.u8 0 ++ Wire.address program
  | .linkedAppData authority => Wire.u8 1 ++ authority.encode

/-- The written form of a hook. -/
def Hook.encode (h : Hook) : Bytes :=
  Wire.address h.hookedProgram ++
    Wire.option (Wire.list ExtraAccount.encode) h.extraAccounts ++
    Wire.option Authority.encode h.dataAuthority ++ h.schema.encode

/-- The written form of a results offset. -/
def ResultsOffset.encode : ResultsOffset → Bytes
  | .noOffset => Wire.u8 0
  | .anchor => Wire.u8 1
  | .custom offset => Wire.u8 2 ++ Wire.u64 offset

/-- The written form of an oracle. -/
def Oracle.encode (o : Oracle) : Bytes :=
  Wire.address o.baseAddress ++ Wire.option ExtraAccount.encode o.baseAddressConfig ++
    o.resultsOffset.encode

/-- The written form of an authority's data. -/
def AppData.encode (d : AppData) : Bytes := d.dataAuthority.encode ++ d.schema.encode

/-- The written form of a data section. -/
def DataSection.encode (s : DataSection) : Bytes := s.parentKey.encode ++ s.schema.encode

namespace Adapter

/-- The written form of the fields of an adapter. -/
def encodeFields : Adapter → Bytes
  | lifecycleHook h => h.encode
  | oracle o => o.encode
  | appData d => d.encode
  | linkedLifecycleHook h => h.encode
  | linkedAppData d => d.encode
  | dataSection s => s.encode

/-- The written form of an adapter payload. -/
def encode (a : Adapter) : Bytes := Wire.u8 a.kind.tag ++ a.encodeFields

end Adapter

end DigitalAsset
