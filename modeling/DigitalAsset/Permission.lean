import DigitalAsset.Derivation

/-!
# Permissions

Whether a principal may change a plugin of an asset, or transfer, burn or update the asset.
Plugins are looked up in the derived asset.  If the asset names a collection, no other collection
may be supplied.
-/

namespace DigitalAsset.Asset

/-! ## Principals -/

/-- Whether a principal owns an asset. -/
def isOwner (asset : Asset) (principal : Address) : Bool := principal = asset.base.owner

/-- Whether a principal is the update authority of an asset.  For an asset in a collection it is
the update authority of the collection supplied; without a collection nobody is. -/
def hasUpdateAuthority (asset : Asset) (collection : Option Collection) (principal : Address) :
    Bool :=
  match asset.base.updateAuthority with
  | .collection _ =>
    match collection with
    | some collection => collection.base.updateAuthority = principal
    | none => false
  | .address address => address = principal
  | .none => false

/-- Whether a principal is meant by a plugin authority. -/
def authorityMatches (asset : Asset) (collection : Option Collection) (principal : Address) :
    Authority → Bool
  | .none => false
  | .owner => asset.isOwner principal
  | .updateAuthority => asset.hasUpdateAuthority collection principal
  | .address address => address = principal

/-! ## The derived asset -/

/-- Refuse a collection other than the one that the asset names. -/
def ensureCollection (asset : Asset) (collection : Option Collection) : Except Error Unit :=
  match asset.collection?, collection with
  | some named, some supplied =>
    if named = supplied.address then .ok () else .error (.collectionMismatch named supplied.address)
  | _, _ => .ok ()

/-- The derived asset under a collection that the asset does not refuse. -/
def checkedDerive (asset : Asset) (collection : Option Collection) : Except Error Asset :=
  match asset.ensureCollection collection with
  | .error e => .error e
  | .ok () => asset.derive collection

/-- Whether a principal holds the plugin of a kind in the derived asset. -/
def holds (asset : Asset) (collection : Option Collection) (derived : Asset) (principal : Address)
    (kind : PluginKind) : Bool :=
  match derived.plugins.authority? kind with
  | some authority => asset.authorityMatches collection principal authority
  | none => false

/-- For each plugin kind, whether a principal holds the plugin of that kind. -/
def pluginAuthorities (asset : Asset) (collection : Option Collection) (principal : Address)
    (kinds : List PluginKind) : Except Error (List Bool) :=
  (asset.checkedDerive collection).map fun derived =>
    kinds.map (asset.holds collection derived principal)

/-! ## Actions -/

/-- Whether a freeze delegate has frozen an asset that is derived already. -/
def frozen (derived : Asset) : Bool :=
  derived.plugins.freezes .freezeDelegate || derived.plugins.freezes .permanentFreezeDelegate

/-- Whether an asset is frozen, by a plugin of its own or of the collection supplied. -/
def isFrozen (asset : Asset) (collection : Option Collection) : Except Error Bool :=
  (asset.derive collection).map frozen

/-- Whether a principal may act on an asset.  The holder of the permanent delegate always may; while
the asset is not frozen its owner may, and the holder of the delegate. -/
def canAct (permanent delegate : PluginKind) (asset : Asset) (collection : Option Collection)
    (principal : Address) : Except Error Bool :=
  (asset.checkedDerive collection).map fun derived =>
    asset.holds collection derived principal permanent ||
      (!derived.frozen &&
        (asset.isOwner principal || asset.holds collection derived principal delegate))

/-- Whether a principal may transfer an asset. -/
def canTransfer : Asset → Option Collection → Address → Except Error Bool :=
  canAct .permanentTransferDelegate .transferDelegate

/-- Whether a principal may burn an asset. -/
def canBurn : Asset → Option Collection → Address → Except Error Bool :=
  canAct .permanentBurnDelegate .burnDelegate

/-- Whether a principal may update an asset. -/
def canUpdate (asset : Asset) (collection : Option Collection) (principal : Address) : Bool :=
  asset.hasUpdateAuthority collection principal

end DigitalAsset.Asset
