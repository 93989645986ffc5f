/-!
# Markers

Every account and every registry structure begins with one byte that says what it is.
-/

namespace DigitalAsset

/-- What the leading byte of a structure announces. -/
inductive Marker where
  | uninitialized
  | asset
  | hashedAsset
  | pluginHeader
  | pluginRegistry
  | collection
  deriving DecidableEq, Repr

namespace Marker

/-- The leading byte. -/
def tag : Marker → UInt8
  | uninitialized => 0
  | asset => 1
  | hashedAsset => 2
  | pluginHeader => 3
  | pluginRegistry => 4
  | collection => 5

/-- The marker of a leading byte. -/
def ofTag? (tag : UInt8) : Option Marker :=
  if tag = 0 then some uninitialized
  else if tag = 1 then some asset
  else if tag = 2 then some hashedAsset
  else if tag = 3 then some pluginHeader
  else if tag = 4 then some pluginRegistry
  else if tag = 5 then some collection
  else none

/-- The name of a marker, with the version of its layout. -/
def name : Marker → String
  | uninitialized => "Uninitialized"
  | asset => "AssetV1"
  | hashedAsset => "HashedAssetV1"
  | pluginHeader => "PluginHeaderV1"
  | pluginRegistry => "PluginRegistryV1"
  | collection => "CollectionV1"

@[simp] theorem ofTag?_tag (m : Marker) : ofTag? m.tag = some m := by
  cases m <;> rfl

end Marker

end DigitalAsset
