import DigitalAsset.Account.Basic
import DigitalAsset.Report.Adapters
import DigitalAsset.Report.Plugins

/-!
# Reports: registries and accounts

The JSON form of registry records, assets and collections.
-/

namespace DigitalAsset

open Json

/-- The JSON form of a plugin header. -/
def PluginHeader.toJson (h : PluginHeader) : Json :=
  object [("pluginRegistryOffset", Json.ofUInt64 h.registryOffset)]

/-- The name of an adapter kind in records: its type name with a small letter. -/
def AdapterKind.keyName (k : AdapterKind) : String := k.typeName.decapitalize

/-- The JSON form of a plugin record. -/
def PluginRecord.toJson (r : PluginRecord) : Json :=
  object
    [("pluginType", string r.kind.keyName), ("authority", r.authority.toJson),
      ("offset", Json.ofUInt64 r.offset)]

/-- The JSON form of an adapter record. -/
def AdapterRecord.toJson (r : AdapterRecord) : Json :=
  object
    [("pluginType", string r.kind.keyName), ("authority", r.authority.toJson),
      ("lifecycleChecks", Json.ofOption Checks.toJson r.checks),
      ("offset", Json.ofUInt64 r.offset),
      ("dataOffset", Json.ofOption Json.ofUInt64 r.dataOffset),
      ("dataLen", Json.ofOption Json.ofUInt64 r.dataLength)]

/-- The JSON form of a registry. -/
def Registry.toJson (r : Registry) : Json :=
  object
    [("registry", Json.ofList PluginRecord.toJson r.plugins),
      ("externalRegistry", Json.ofList AdapterRecord.toJson r.adapters)]

/-- The members of what follows a base record. -/
def Extension.members (e : Extension) : List (String × Json) :=
  [("pluginHeader", Json.ofOption PluginHeader.toJson e.header), ("plugins", e.plugins.toJson),
    ("externalPluginAdapters", e.adapters.toJson)]

/-- The members of an asset's base record. -/
def AssetBase.members (b : AssetBase) : List (String × Json) :=
  [("owner", b.owner.toJson), ("updateAuthority", b.updateAuthority.toJson),
    ("name", string b.name), ("uri", string b.uri), ("seq", Json.ofOption Json.ofUInt64 b.seq)]

/-- The members of a collection's base record. -/
def CollectionBase.members (b : CollectionBase) : List (String × Json) :=
  [("updateAuthority", b.updateAuthority.toJson), ("name", string b.name), ("uri", string b.uri),
    ("numMinted", Json.ofUInt32 b.numMinted), ("currentSize", Json.ofUInt32 b.currentSize)]

/-- The JSON form of an account whose base record has the given members. -/
def Account.toJson (members : Base → List (String × Json)) (a : Account Base) : Json :=
  object (("publicKey", a.address.toJson) :: members a.base ++ a.extension.members)

/-- The JSON form of an asset. -/
def Asset.toJson (a : Asset) : Json := Account.toJson AssetBase.members a

/-- The JSON form of a collection. -/
def Collection.toJson (c : Collection) : Json := Account.toJson CollectionBase.members c

end DigitalAsset
