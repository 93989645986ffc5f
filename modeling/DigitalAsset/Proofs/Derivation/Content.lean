import DigitalAsset.Account.Draft
import DigitalAsset.Proofs.Derivation.Sections

/-!
# What a derived asset is made of

`Asset.MergeOf` lists, field by field, what an asset takes over from its collection and what stays
its own, and `Asset.derive_mergeOf` proves it of every derivation that succeeds.
-/

namespace DigitalAsset

/-- The plugins and adapters of `derived` are those of `asset`, filled up from `collection`; all else
is the asset's. -/
structure Asset.MergeOf (asset : Asset) (collection : Collection) (derived : Asset) : Prop where
  address : derived.address = asset.address
  base : derived.base = asset.base
  header : derived.extension.header = asset.extension.header
  /-- A slot is the asset's if it is taken, else the collection's; a master edition is not taken
  over. -/
  plugins : ∀ k, derived.plugins.get? k =
    if k = .masterEdition then asset.plugins.get? k
    else (asset.plugins.get? k).or (collection.plugins.get? k)
  /-- The taken slots are those of both sides, less a master edition that only the collection
  has. -/
  kinds : ∀ k, k ∈ derived.plugins.kinds ↔
    k ∈ asset.plugins.kinds ∨ k ∈ collection.plugins.kinds ∧ k ≠ .masterEdition
  lifecycleHooks : derived.adapters.lifecycleHooks =
    AdapterTable.mergeBy Hook.hookedProgram asset.adapters.lifecycleHooks
      collection.adapters.lifecycleHooks
  oracles : derived.adapters.oracles =
    AdapterTable.mergeBy Oracle.baseAddress asset.adapters.oracles collection.adapters.oracles
  appDatas : derived.adapters.appDatas =
    AdapterTable.mergeBy AppData.dataAuthority asset.adapters.appDatas collection.adapters.appDatas
  linkedLifecycleHooks : derived.adapters.linkedLifecycleHooks =
    AdapterTable.mergeBy Hook.hookedProgram asset.adapters.linkedLifecycleHooks
      collection.adapters.linkedLifecycleHooks
  /-- The data of linked app data may come from a data section; nothing else of it does. -/
  linkedAppDatas : derived.adapters.linkedAppDatas.map AttachedAdapter.withoutData =
    (AdapterTable.mergeBy AppData.dataAuthority asset.adapters.linkedAppDatas
      collection.adapters.linkedAppDatas).map AttachedAdapter.withoutData
  dataSections : derived.adapters.dataSections =
    AdapterTable.mergeBy DataSection.parentKey asset.adapters.dataSections
      collection.adapters.dataSections

namespace PluginSlots

theorem get?_merge (asset collection : PluginSlots) (k : PluginKind) :
    (asset.merge collection).get? k =
      if k = .masterEdition then asset.get? k else (asset.get? k).or (collection.get? k) :=
  rfl

theorem mem_kinds_merge {asset collection : PluginSlots} {k : PluginKind} :
    k ∈ (asset.merge collection).kinds ↔
      k ∈ asset.kinds ∨ k ∈ collection.kinds ∧ k ≠ .masterEdition := by
  rw [mem_kinds, mem_kinds, mem_kinds, get?_merge]
  split
  · rename_i hmaster
    simp [hmaster]
  · rename_i hother
    simp [hother]

end PluginSlots

/-- **The content of a derived asset.** -/
theorem Asset.derive_mergeOf {asset derived : Asset} {collection : Collection}
    (h : asset.derive (some collection) = .ok derived) : asset.MergeOf collection derived := by
  rw [derive_some] at h
  split at h
  · cases h
  · cases h
    have hmerge := AdapterTable.merge_eq asset.adapters collection.adapters
    exact
      { address := rfl
        base := rfl
        header := rfl
        plugins := fun k => rfl
        kinds := fun k => PluginSlots.mem_kinds_merge
        lifecycleHooks := congrArg AdapterTable.lifecycleHooks hmerge
        oracles := congrArg AdapterTable.oracles hmerge
        appDatas := congrArg AdapterTable.appDatas hmerge
        linkedLifecycleHooks := congrArg AdapterTable.linkedLifecycleHooks hmerge
        linkedAppDatas := by
          have hsame := congrArg AdapterTable.linkedAppDatas hmerge
          exact (AdapterTable.map_withoutData_foldl_handOver _ _).trans (congrArg _ hsame)
        dataSections := congrArg AdapterTable.dataSections hmerge }

/-! ## A derivation -/

/-- An adapter entry about which the registry says nothing. -/
def AttachedAdapter.plain (payload : α) (data : Option AdapterData) : AttachedAdapter α :=
  ⟨.owner, 0, none, none, none, data, payload⟩

/-- An asset with a freeze delegate, linked app data that its owner may write, and an oracle. -/
def Asset.sample : Asset where
  address := .zero
  base := AssetBase.placeholder .zero (.collection .zero)
  extension :=
    { header := none
      plugins := PluginSlots.empty.insert .owner 120 (.freezeDelegate false)
      adapters :=
        { AdapterTable.empty with
          oracles := [.plain ⟨.zero, none, .anchor⟩ none]
          linkedAppDatas := [.plain ⟨.owner, .binary⟩ none] } }

/-- A collection with a freeze delegate and a master edition, the same oracle and another one twice,
and data for what the owner may write. -/
def Collection.sample : Collection where
  address := .zero
  base := CollectionBase.placeholder .zero
  extension :=
    { header := none
      plugins :=
        (PluginSlots.empty.insert .none 90 (.freezeDelegate true)).insert .owner 95
          (.masterEdition none none none)
      adapters :=
        { AdapterTable.empty with
          oracles :=
            [.plain ⟨.zero, none, .noOffset⟩ none, .plain ⟨.ofPrefix [1], none, .anchor⟩ none,
              .plain ⟨.ofPrefix [1], none, .noOffset⟩ none]
          dataSections := [.plain ⟨.linkedAppData .owner, .binary⟩ (some (.binary [7]))] } }

/-- The sample derives: one plugin and one oracle are in each, and the master edition stays behind. -/
theorem Asset.derive_sample :
    ∃ derived, sample.derive (some Collection.sample) = .ok derived ∧
      sample.MergeOf Collection.sample derived := by
  have hderive : sample.derive (some Collection.sample) = .ok _ :=
    derive_some sample Collection.sample
  exact ⟨_, hderive, derive_mergeOf hderive⟩

end DigitalAsset
