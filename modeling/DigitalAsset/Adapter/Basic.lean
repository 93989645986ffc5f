import DigitalAsset.Authority
import DigitalAsset.ExtraAccount

/-!
# Adapters

The payload of an external plugin adapter, one alternative for each kind, and the identity by which
an asset's adapter stands in the way of its collection's.
-/

namespace DigitalAsset

/-- A program that is called at lifecycle events, and the accounts it needs. -/
structure Hook where
  hookedProgram : Address
  extraAccounts : Option (List ExtraAccount)
  dataAuthority : Option Authority
  schema : Schema
  deriving DecidableEq

/-- Where an oracle account keeps its answers. -/
inductive ResultsOffset where
  | noOffset
  | anchor
  | custom (offset : UInt64)
  deriving DecidableEq, Repr

/-- An account that approves or rejects lifecycle events. -/
structure Oracle where
  baseAddress : Address
  baseAddressConfig : Option ExtraAccount
  resultsOffset : ResultsOffset
  deriving DecidableEq

/-- Data that an authority may write. -/
structure AppData where
  dataAuthority : Authority
  schema : Schema
  deriving DecidableEq

/-- The adapter of the collection that a data section belongs to. -/
inductive LinkedDataKey where
  | linkedLifecycleHook (hookedProgram : Address)
  | linkedAppData (dataAuthority : Authority)
  deriving DecidableEq

/-- The text that tells two parents of data sections apart. -/
def LinkedDataKey.identity : LinkedDataKey → String
  | .linkedLifecycleHook program => "LinkedLifecycleHook-" ++ program.toBase58
  | .linkedAppData authority => "LinkedAppData-" ++ authority.identity

/-- The part of a collection's adapter data that an asset carries. -/
structure DataSection where
  parentKey : LinkedDataKey
  schema : Schema
  deriving DecidableEq

/-- The payload of an adapter. -/
inductive Adapter where
  | lifecycleHook (hook : Hook)
  | oracle (oracle : Oracle)
  | appData (data : AppData)
  | linkedLifecycleHook (hook : Hook)
  | linkedAppData (data : AppData)
  | dataSection (dataSection : DataSection)
  deriving DecidableEq

namespace Adapter

/-- The kind of an adapter. -/
def kind : Adapter → AdapterKind
  | lifecycleHook _ => .lifecycleHook
  | oracle _ => .oracle
  | appData _ => .appData
  | linkedLifecycleHook _ => .linkedLifecycleHook
  | linkedAppData _ => .linkedAppData
  | dataSection _ => .dataSection

/-- The schema of the attached data; an oracle declares none. -/
def schema? : Adapter → Option Schema
  | lifecycleHook h => some h.schema
  | oracle _ => none
  | appData d => some d.schema
  | linkedLifecycleHook h => some h.schema
  | linkedAppData d => some d.schema
  | dataSection s => some s.schema

/-- The text of what an adapter is attached to: its program, base address, authority or parent. -/
def keyText : Adapter → String
  | lifecycleHook h => h.hookedProgram.toBase58
  | oracle o => o.baseAddress.toBase58
  | appData d => d.dataAuthority.identity
  | linkedLifecycleHook h => h.hookedProgram.toBase58
  | linkedAppData d => d.dataAuthority.identity
  | dataSection s => s.parentKey.identity

/-- The text that tells two adapters apart: the name of the kind and the key. -/
def identity (a : Adapter) : String := a.kind.typeName ++ "-" ++ a.keyText

end Adapter

end DigitalAsset
