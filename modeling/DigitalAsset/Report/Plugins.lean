import DigitalAsset.Plugin.Slots
import DigitalAsset.Report.Basic

/-!
# Reports: plugins

The JSON form of plugin slots.  A plugin without fields is null.
-/

namespace DigitalAsset

open Json

/-- The JSON form of a rule set. -/
def RuleSet.toJson : RuleSet → Json
  | .none => string "none"
  | .allow programs => variant "programAllowList" (Json.ofList Address.toJson programs)
  | .deny programs => variant "programDenyList" (Json.ofList Address.toJson programs)

/-- The JSON form of a creator. -/
def Creator.toJson (c : Creator) : Json :=
  object [("address", c.address.toJson), ("percentage", Json.ofNat c.percentage.toNat)]

/-- The JSON form of an attribute. -/
def Attribute.toJson (a : Attribute) : Json :=
  object [("key", string a.key), ("value", string a.value)]

/-- The JSON form of a creator's signature. -/
def CreatorSignature.toJson (s : CreatorSignature) : Json :=
  object [("address", s.address.toJson), ("verified", bool s.verified)]

/-- The JSON form of an autograph. -/
def AutographSignature.toJson (s : AutographSignature) : Json :=
  object [("address", s.address.toJson), ("message", string s.message)]

/-- The JSON form of the fields of a plugin. -/
def Plugin.toJson : Plugin → Json
  | .royalties basisPoints creators ruleSet =>
    object
      [("basisPoints", Json.ofNat basisPoints.toNat),
        ("creators", Json.ofList Creator.toJson creators), ("ruleSet", ruleSet.toJson)]
  | .freezeDelegate frozen => object [("frozen", bool frozen)]
  | .permanentFreezeDelegate frozen => object [("frozen", bool frozen)]
  | .updateDelegate delegates =>
    object [("additionalDelegates", Json.ofList Address.toJson delegates)]
  | .attributes list => object [("attributeList", Json.ofList Attribute.toJson list)]
  | .edition n => object [("number", Json.ofUInt32 n)]
  | .masterEdition maxSupply name uri =>
    object
      [("maxSupply", Json.ofOption Json.ofUInt32 maxSupply), ("name", Json.ofOption string name),
        ("uri", Json.ofOption string uri)]
  | .verifiedCreators signatures =>
    object [("signatures", Json.ofList CreatorSignature.toJson signatures)]
  | .autograph signatures =>
    object [("signatures", Json.ofList AutographSignature.toJson signatures)]
  | .burnDelegate => null
  | .transferDelegate => null
  | .permanentTransferDelegate => null
  | .permanentBurnDelegate => null
  | .addBlocker => null
  | .immutableMetadata => null

/-- The JSON form of an attached plugin. -/
def AttachedPlugin.toJson (p : AttachedPlugin kind) : Json :=
  object
    [("authority", p.authority.toJson), ("offset", Json.ofUInt64 p.offset),
      ("plugin", p.plugin.toJson)]

/-- The JSON form of plugin slots: every slot by its key name. -/
def PluginSlots.toJson (slots : PluginSlots) : Json :=
  object (PluginKind.all.map fun k =>
    (k.keyName, Json.ofOption AttachedPlugin.toJson (slots.get? k)))

end DigitalAsset
