import DigitalAsset.Report.Basic

/-!
# Reports: adapters

The JSON form of adapter tables.
-/

namespace DigitalAsset

open Json

/-- The JSON form of the parent of a data section. -/
def LinkedDataKey.toJson : LinkedDataKey → Json
  | .linkedLifecycleHook program => variant "linkedLifecycleHook" program.toJson
  | .linkedAppData authority => variant "linkedAppData" authority.toJson

/-- The JSON form of a hook. -/
def Hook.toJson (h : Hook) : Json :=
  object
    [("hookedProgram", h.hookedProgram.toJson),
      ("extraAccounts", Json.ofOption (Json.ofList ExtraAccount.toJson) h.extraAccounts),
      ("dataAuthority", Json.ofOption Authority.toJson h.dataAuthority),
      ("schema", h.schema.toJson)]

/-- The JSON form of a results offset. -/
def ResultsOffset.toJson : ResultsOffset → Json
  | .noOffset => string "noOffset"
  | .anchor => string "anchor"
  | .custom offset => variant "custom" (Json.ofUInt64 offset)

/-- The JSON form of an oracle. -/
def Oracle.toJson (o : Oracle) : Json :=
  object
    [("baseAddress", o.baseAddress.toJson),
      ("baseAddressConfig", Json.ofOption ExtraAccount.toJson o.baseAddressConfig),
      ("resultsOffset", o.resultsOffset.toJson)]

/-- The JSON form of an authority's data. -/
def AppData.toJson (d : AppData) : Json :=
  object [("dataAuthority", d.dataAuthority.toJson), ("schema", d.schema.toJson)]

/-- The JSON form of a data section. -/
def DataSection.toJson (s : DataSection) : Json :=
  object [("parentKey", s.parentKey.toJson), ("schema", s.schema.toJson)]

/-- The JSON form of lifecycle checks: the events listened to, each with its flags. -/
def Checks.toJson (checks : Checks) : Json :=
  object (checks.toList.map fun (event, result) =>
    (event.keyName, object [("flags", Json.ofUInt32 result.flags)]))

/-- The JSON form of adapter data. -/
def AdapterData.toJson : AdapterData → Json
  | .binary bytes => variant "binary" (Bytes.toJson bytes)
  | .json value => variant "json" value

/-- The JSON form of an attached adapter whose payload is written by `payload`. -/
def AttachedAdapter.toJson (payload : α → Json) (entry : AttachedAdapter α) : Json :=
  object
    [("authority", entry.authority.toJson), ("offset", Json.ofUInt64 entry.offset),
      ("lifecycleChecks", Json.ofOption Checks.toJson entry.checks),
      ("dataOffset", Json.ofOption Json.ofUInt64 entry.dataOffset),
      ("dataLen", Json.ofOption Json.ofUInt64 entry.dataLength),
      ("data", Json.ofOption AdapterData.toJson entry.data), ("adapter", payload entry.payload)]

/-- The JSON form of an adapter table. -/
def AdapterTable.toJson (table : AdapterTable) : Json :=
  object
    [("lifecycleHooks", Json.ofList (AttachedAdapter.toJson Hook.toJson) table.lifecycleHooks),
      ("oracles", Json.ofList (AttachedAdapter.toJson Oracle.toJson) table.oracles),
      ("appDatas", Json.ofList (AttachedAdapter.toJson AppData.toJson) table.appDatas),
      ("linkedLifecycleHooks",
        Json.ofList (AttachedAdapter.toJson Hook.toJson) table.linkedLifecycleHooks),
      ("linkedAppDatas",
        Json.ofList (AttachedAdapter.toJson AppData.toJson) table.linkedAppDatas),
      ("dataSections",
        Json.ofList (AttachedAdapter.toJson DataSection.toJson) table.dataSections)]

end DigitalAsset
