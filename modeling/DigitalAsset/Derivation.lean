import DigitalAsset.Account.Basic

/-!
# Derivation

An asset takes over what its collection carries.  A plugin slot of the asset goes before the
collection's.  The adapters of the collection follow the asset's own, except those with an identity
that the asset already has.  Then the data of each data section goes to the linked app data that it
belongs to.
-/

namespace DigitalAsset

/-! ## Merging -/

/-- The slots of an asset, filled up from its collection's; a master edition stays with the
collection. -/
def PluginSlots.merge (asset collection : PluginSlots) : PluginSlots :=
  ⟨fun k => if k = .masterEdition then asset.get? k else (asset.get? k).or (collection.get? k)⟩

namespace AdapterTable

/-- The entries of an asset, then those of its collection whose identity the asset lacks. -/
def mergeEntries (make : α → Adapter) (asset collection : List (AttachedAdapter α)) :
    List (AttachedAdapter α) :=
  let identity := fun entry : AttachedAdapter α => (make entry.payload).identity
  let taken := asset.map identity
  asset ++ collection.filter fun entry => !taken.contains (identity entry)

/-- The adapters of an asset and its collection, kind by kind. -/
def merge (asset collection : AdapterTable) : AdapterTable :=
  { lifecycleHooks :=
      mergeEntries .lifecycleHook asset.lifecycleHooks collection.lifecycleHooks
    oracles := mergeEntries .oracle asset.oracles collection.oracles
    appDatas := mergeEntries .appData asset.appDatas collection.appDatas
    linkedLifecycleHooks :=
      mergeEntries .linkedLifecycleHook asset.linkedLifecycleHooks collection.linkedLifecycleHooks
    linkedAppDatas :=
      mergeEntries .linkedAppData asset.linkedAppDatas collection.linkedAppDatas
    dataSections := mergeEntries .dataSection asset.dataSections collection.dataSections }

/-! ## Data sections -/

/-- The entries with other data for the first one that `authority` may write. -/
def setData (authority : Authority) (data : Option AdapterData) :
    List (AttachedAdapter AppData) → List (AttachedAdapter AppData)
  | [] => []
  | entry :: rest =>
    if entry.payload.dataAuthority = authority then { entry with data := data } :: rest
    else entry :: setData authority data rest

/-- The linked app data after the data of one section has gone to the entry it belongs to. -/
def injectSection (linked : List (AttachedAdapter AppData)) (entry : AttachedAdapter DataSection) :
    Except Error (List (AttachedAdapter AppData)) :=
  match entry.payload.parentKey with
  | .linkedLifecycleHook program => .error (.unsupportedLink program)
  | .linkedAppData authority => .ok (setData authority entry.data linked)

/-- The table after the data of every section has gone to the entry it belongs to. -/
def injectSections (table : AdapterTable) : Except Error AdapterTable :=
  (table.dataSections.foldlM injectSection table.linkedAppDatas).map fun linked =>
    { table with linkedAppDatas := linked }

end AdapterTable

/-! ## Derived assets -/

/-- The asset with all that it takes over from a collection, if one is given. -/
def Asset.derive (asset : Asset) (collection : Option Collection) : Except Error Asset :=
  match collection with
  | none => .ok asset
  | some collection =>
    ((asset.adapters.merge collection.adapters).injectSections).map fun adapters =>
      { asset with
        extension :=
          { asset.extension with
            plugins := asset.plugins.merge collection.plugins
            adapters := adapters } }

end DigitalAsset
