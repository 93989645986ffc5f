import DigitalAsset.Authority

/-!
# Plugins

The payload of a first-party plugin, one alternative for each kind.
-/

namespace DigitalAsset

/-- A creator and their share of the royalties in percent. -/
structure Creator where
  address : Address
  percentage : UInt8
  deriving DecidableEq

/-- Which programs may move a royalty-bearing asset. -/
inductive RuleSet where
  /-- Every program. -/
  | none
  /-- Only the listed programs. -/
  | allow (programs : List Address)
  /-- All but the listed programs. -/
  | deny (programs : List Address)
  deriving DecidableEq

/-- A named trait of an asset. -/
structure Attribute where
  key : String
  value : String
  deriving DecidableEq

/-- A creator, and whether they have confirmed it. -/
structure CreatorSignature where
  address : Address
  verified : Bool
  deriving DecidableEq

/-- A message that an address has left on an asset. -/
structure AutographSignature where
  address : Address
  message : String
  deriving DecidableEq

/-- The payload of a plugin. -/
inductive Plugin where
  | royalties (basisPoints : UInt16) (creators : List Creator) (ruleSet : RuleSet)
  | freezeDelegate (frozen : Bool)
  | burnDelegate
  | transferDelegate
  | updateDelegate (additionalDelegates : List Address)
  | permanentFreezeDelegate (frozen : Bool)
  | attributes (attributeList : List Attribute)
  | permanentTransferDelegate
  | permanentBurnDelegate
  | edition (number : UInt32)
  | masterEdition (maxSupply : Option UInt32) (name : Option String) (uri : Option String)
  | addBlocker
  | immutableMetadata
  | verifiedCreators (signatures : List CreatorSignature)
  | autograph (signatures : List AutographSignature)
  deriving DecidableEq

namespace Plugin

/-- The kind of a plugin. -/
def kind : Plugin → PluginKind
  | royalties .. => .royalties
  | freezeDelegate .. => .freezeDelegate
  | burnDelegate => .burnDelegate
  | transferDelegate => .transferDelegate
  | updateDelegate .. => .updateDelegate
  | permanentFreezeDelegate .. => .permanentFreezeDelegate
  | attributes .. => .attributes
  | permanentTransferDelegate => .permanentTransferDelegate
  | permanentBurnDelegate => .permanentBurnDelegate
  | edition .. => .edition
  | masterEdition .. => .masterEdition
  | addBlocker => .addBlocker
  | immutableMetadata => .immutableMetadata
  | verifiedCreators .. => .verifiedCreators
  | autograph .. => .autograph

/-- Whether a plugin is a freeze delegate that has frozen the asset. -/
def isFreezing : Plugin → Bool
  | freezeDelegate frozen => frozen
  | permanentFreezeDelegate frozen => frozen
  | _ => false

end Plugin

end DigitalAsset
