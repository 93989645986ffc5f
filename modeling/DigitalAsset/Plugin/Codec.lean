import DigitalAsset.Plugin.Basic

/-!
# Written form of plugins

A payload is the tag of its kind and then its fields.  The errors of a field carry the key name of
the kind.
-/

namespace DigitalAsset

/-! ## Reading -/

/-- The reader of a creator inside a plugin named `key`. -/
def Creator.reader (key : String) : Reader Creator := do
  let address ← Reader.address key
  let percentage ← Reader.u8 key
  return ⟨address, percentage⟩

/-- The reader of an attribute inside a plugin named `key`. -/
def Attribute.reader (key : String) : Reader Attribute := do
  let name ← Reader.string key
  let value ← Reader.string key
  return ⟨name, value⟩

/-- The reader of a creator's signature inside a plugin named `key`. -/
def CreatorSignature.reader (key : String) : Reader CreatorSignature := do
  let address ← Reader.address key
  let verified ← Reader.bool key
  return ⟨address, verified⟩

/-- The reader of an autograph inside a plugin named `key`. -/
def AutographSignature.reader (key : String) : Reader AutographSignature := do
  let address ← Reader.address key
  let message ← Reader.string key
  return ⟨address, message⟩

/-- The name of a rule set in errors. -/
def RuleSet.what : String := "royalties.rule_set"

/-- The reader of a rule set. -/
def RuleSet.reader : Reader RuleSet :=
  Reader.tagged what "rule set tag" fun tag =>
    if tag = 0 then some (pure .none)
    else if tag = 1 then some (return .allow (← Reader.list what (Reader.address what)))
    else if tag = 2 then some (return .deny (← Reader.list what (Reader.address what)))
    else Option.none

namespace Plugin

/-- The reader of the fields of a plugin of a given kind. -/
def fields (kind : PluginKind) : Reader Plugin :=
  let key := kind.keyName
  match kind with
  | .royalties => do
    let basisPoints ← Reader.u16 key
    let creators ← Reader.list key (Creator.reader key)
    let ruleSet ← RuleSet.reader
    return royalties basisPoints creators ruleSet
  | .freezeDelegate => return freezeDelegate (← Reader.bool key)
  | .burnDelegate => return burnDelegate
  | .transferDelegate => return transferDelegate
  | .updateDelegate => return updateDelegate (← Reader.list key (Reader.address key))
  | .permanentFreezeDelegate => return permanentFreezeDelegate (← Reader.bool key)
  | .attributes => return attributes (← Reader.list key (Attribute.reader key))
  | .permanentTransferDelegate => return permanentTransferDelegate
  | .permanentBurnDelegate => return permanentBurnDelegate
  | .edition => return edition (← Reader.u32 key)
  | .masterEdition => do
    let maxSupply ← Reader.option key (Reader.u32 key)
    let name ← Reader.option key (Reader.string key)
    let uri ← Reader.option key (Reader.string key)
    return masterEdition maxSupply name uri
  | .addBlocker => return addBlocker
  | .immutableMetadata => return immutableMetadata
  | .verifiedCreators => return verifiedCreators (← Reader.list key (CreatorSignature.reader key))
  | .autograph => return autograph (← Reader.list key (AutographSignature.reader key))

/-- The reader of a plugin payload. -/
def reader : Reader Plugin :=
  Reader.tagged "plugin" "plugin tag" fun tag => (PluginKind.ofTag? tag).map fields

end Plugin

/-! ## Writing -/

/-- The written form of a creator. -/
def Creator.encode (c : Creator) : Bytes := Wire.address c.address ++ Wire.u8 c.percentage

/-- The written form of an attribute. -/
def Attribute.encode (a : Attribute) : Bytes := Wire.string a.key ++ Wire.string a.value

/-- The written form of a creator's signature. -/
def CreatorSignature.encode (s : CreatorSignature) : Bytes :=
  Wire.address s.address ++ Wire.bool s.verified

/-- The written form of an autograph. -/
def AutographSignature.encode (s : AutographSignature) : Bytes :=
  Wire.address s.address ++ Wire.string s.message

/-- The written form of a rule set. -/
def RuleSet.encode : RuleSet → Bytes
  | .none => Wire.u8 0
  | .allow programs => Wire.u8 1 ++ Wire.list Wire.address programs
  | .deny programs => Wire.u8 2 ++ Wire.list Wire.address programs

namespace Plugin

/-- The written form of the fields of a plugin. -/
def encodeFields : Plugin → Bytes
  | royalties basisPoints creators ruleSet =>
    Wire.u16 basisPoints ++ Wire.list Creator.encode creators ++ ruleSet.encode
  | freezeDelegate frozen => Wire.bool frozen
  | updateDelegate delegates => Wire.list Wire.address delegates
  | permanentFreezeDelegate frozen => Wire.bool frozen
  | attributes list => Wire.list Attribute.encode list
  | edition number => Wire.u32 number
  | masterEdition maxSupply name uri =>
    Wire.option Wire.u32 maxSupply ++ Wire.option Wire.string name ++ Wire.option Wire.string uri
  | verifiedCreators signatures => Wire.list CreatorSignature.encode signatures
  | autograph signatures => Wire.list AutographSignature.encode signatures
  | burnDelegate => []
  | transferDelegate => []
  | permanentTransferDelegate => []
  | permanentBurnDelegate => []
  | addBlocker => []
  | immutableMetadata => []

/-- The written form of a plugin payload. -/
def encode (p : Plugin) : Bytes := Wire.u8 p.kind.tag ++ p.encodeFields

end Plugin

end DigitalAsset
