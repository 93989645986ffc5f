import DigitalAsset.Derivation
import DigitalAsset.Proofs.Adapter.Identity

/-!
# Merging by key

The merge of two lists of adapters compares identities, which are texts.  `AdapterTable.mergeBy`
is the same merge by the keys themselves: the entries of the asset, then the entries of the
collection whose key no entry of the asset has.  `AdapterTable.merge_eq` says that the whole merge is
this one, kind by kind.
-/

namespace DigitalAsset.AdapterTable

/-- The entries of an asset, then those of its collection whose key no entry of the asset has. -/
def mergeBy [DecidableEq κ] (key : α → κ) (asset collection : List (AttachedAdapter α)) :
    List (AttachedAdapter α) :=
  asset ++ collection.filter fun entry => ∀ own ∈ asset, key own.payload ≠ key entry.payload

/-- Where identities tell apart what keys tell apart, merging by identity is merging by key. -/
theorem mergeEntries_eq_mergeBy [DecidableEq κ] {make : α → Adapter} {key : α → κ}
    (h : ∀ a b, (make a).identity = (make b).identity ↔ key a = key b)
    (asset collection : List (AttachedAdapter α)) :
    mergeEntries make asset collection = mergeBy key asset collection := by
  have hkept : ∀ entry : AttachedAdapter α,
      (!(asset.map fun own => (make own.payload).identity).contains (make entry.payload).identity) =
        decide (∀ own ∈ asset, key own.payload ≠ key entry.payload) := by
    intro entry
    rw [Bool.eq_iff_iff]
    simp [h]
  simp only [mergeEntries, mergeBy, hkept]

/-- The merge of two tables, each kind by its key. -/
theorem merge_eq (asset collection : AdapterTable) :
    asset.merge collection =
      { lifecycleHooks :=
          mergeBy Hook.hookedProgram asset.lifecycleHooks collection.lifecycleHooks
        oracles := mergeBy Oracle.baseAddress asset.oracles collection.oracles
        appDatas := mergeBy AppData.dataAuthority asset.appDatas collection.appDatas
        linkedLifecycleHooks :=
          mergeBy Hook.hookedProgram asset.linkedLifecycleHooks collection.linkedLifecycleHooks
        linkedAppDatas :=
          mergeBy AppData.dataAuthority asset.linkedAppDatas collection.linkedAppDatas
        dataSections :=
          mergeBy DataSection.parentKey asset.dataSections collection.dataSections } := by
  rw [merge]
  congr 1
  all_goals
    apply mergeEntries_eq_mergeBy
    intro a b
    simp [Adapter.identity_eq_iff, Adapter.key]

end DigitalAsset.AdapterTable
