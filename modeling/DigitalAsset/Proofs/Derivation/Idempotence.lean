import DigitalAsset.Proofs.Derivation.Content
import DigitalAsset.Proofs.Derivation.Injection

/-!
# Deriving twice

A derived asset has all that its collection has to give, so deriving it again under the same
collection changes nothing (`Asset.derive_derived`).  The merge finds the key of every adapter of the
collection among the adapters that are there already, and the data sections, which are the same as
before, write the same data to the same places.
-/

namespace DigitalAsset

/-! ## Merging again -/

theorem PluginSlots.merge_merge (asset collection : PluginSlots) :
    (asset.merge collection).merge collection = asset.merge collection := by
  ext1 kind
  rw [get?_merge, get?_merge]
  split
  · rfl
  · rw [Option.or_assoc, Option.or_self]

namespace AdapterTable

/-- Where every key of the collection is an asset's already, there is nothing to take over. -/
theorem mergeBy_eq_left [DecidableEq κ] {key : α → κ} {asset collection : List (AttachedAdapter α)}
    (h : ∀ entry ∈ collection, ∃ own ∈ asset, key own.payload = key entry.payload) :
    mergeBy key asset collection = asset := by
  rw [mergeBy, List.append_right_eq_self, List.filter_eq_nil_iff]
  intro entry hentry hnew
  obtain ⟨own, hown, hsame⟩ := h entry hentry
  exact of_decide_eq_true hnew own hown hsame

/-- After the merge every key of the collection is there. -/
theorem exists_key_mergeBy [DecidableEq κ] {key : α → κ}
    {asset collection : List (AttachedAdapter α)} {entry : AttachedAdapter α}
    (h : entry ∈ collection) :
    ∃ own ∈ mergeBy key asset collection, key own.payload = key entry.payload := by
  by_cases hown : ∃ own ∈ asset, key own.payload = key entry.payload
  · obtain ⟨own, hmem, hsame⟩ := hown
    exact ⟨own, List.mem_append_left _ hmem, hsame⟩
  · push Not at hown
    refine ⟨entry, List.mem_append_right _ ?_, rfl⟩
    exact List.mem_filter.mpr ⟨h, decide_eq_true hown⟩

theorem mergeBy_mergeBy [DecidableEq κ] (key : α → κ) (asset collection : List (AttachedAdapter α)) :
    mergeBy key (mergeBy key asset collection) collection = mergeBy key asset collection :=
  mergeBy_eq_left fun _ => exists_key_mergeBy

/-- The data of an entry does not count for its key. -/
theorem exists_key_congr {key : α → κ} {entries entries' : List (AttachedAdapter α)} {k : κ}
    (hsame : entries.map AttachedAdapter.withoutData = entries'.map AttachedAdapter.withoutData)
    (h : ∃ own ∈ entries, key own.payload = k) : ∃ own ∈ entries', key own.payload = k := by
  obtain ⟨own, hmem, hkey⟩ := h
  have hbare : own.withoutData ∈ entries'.map AttachedAdapter.withoutData :=
    hsame ▸ List.mem_map_of_mem hmem
  obtain ⟨other, hother, heq⟩ := List.mem_map.mp hbare
  have hpayload : other.withoutData.payload = own.withoutData.payload := by rw [heq]
  exact ⟨other, hother, (congrArg key hpayload).trans hkey⟩

/-! ## Handing over again -/

theorem withDataOf_withDataOf (entry : AttachedAdapter α) (other? : Option (AttachedAdapter β)) :
    (entry.withDataOf other?).withDataOf other? = entry.withDataOf other? := by
  cases other? <;> rfl

theorem payload_withDataOf (entry : AttachedAdapter α) (other? : Option (AttachedAdapter β)) :
    (entry.withDataOf other?).payload = entry.payload := by
  cases other? <;> rfl

/-- Sections that hand over their data a second time write what is there already. -/
theorem foldl_handOver_foldl_handOver (sections : List (AttachedAdapter DataSection))
    (linked : List (AttachedAdapter AppData)) :
    sections.foldl handOver (sections.foldl handOver linked) = sections.foldl handOver linked := by
  have hlength (l : List (AttachedAdapter AppData)) :
      (sections.foldl handOver l).length = l.length := by
    simpa using congrArg List.length (map_withoutData_foldl_handOver sections l)
  have hsame := map_withoutData_foldl_handOver sections linked
  apply List.ext_getElem?
  intro i
  cases hentry : linked[i]? with
  | none =>
    have hend : linked.length ≤ i := List.getElem?_eq_none_iff.mp hentry
    rw [List.getElem?_eq_none (by rwa [hlength, hlength]), List.getElem?_eq_none (by rwa [hlength])]
  | some entry =>
    have honce := getElem?_foldl_handOver sections hentry
    -- The entry still stands first for its authority, or behind another one, as it did before.
    split at honce
    · rename_i hfirst
      rw [getElem?_foldl_handOver sections honce, honce, payload_withDataOf, place?_congr hsame,
        if_pos hfirst, withDataOf_withDataOf]
    · rename_i hlater
      rw [getElem?_foldl_handOver sections honce, honce, place?_congr hsame, if_neg hlater]

end AdapterTable

/-! ## Deriving again -/

namespace Asset

open AdapterTable

/-- A derived table has taken over all that there is. -/
theorem merge_derivedAdapters (asset : Asset) (collection : Collection) :
    (asset.derivedAdapters collection).merge collection.adapters =
      asset.derivedAdapters collection := by
  have hlinked : mergeBy AppData.dataAuthority
        (asset.derivedAdapters collection).linkedAppDatas collection.adapters.linkedAppDatas =
      (asset.derivedAdapters collection).linkedAppDatas := by
    apply mergeBy_eq_left
    intro entry hentry
    rw [derivedAdapters, merge_eq]
    exact exists_key_congr (map_withoutData_foldl_handOver _ _).symm (exists_key_mergeBy hentry)
  rw [merge_eq, hlinked]
  simp only [derivedAdapters, merge_eq, mergeBy_mergeBy]

/-- So its sections have nothing to hand over. -/
theorem derivedAdapters_of_derived {asset derived : Asset} {collection : Collection}
    (h : derived.adapters = asset.derivedAdapters collection) :
    derived.derivedAdapters collection = derived.adapters := by
  rw [derivedAdapters, h, merge_derivedAdapters]
  simp only [derivedAdapters, foldl_handOver_foldl_handOver]

/-- No section of a derived asset belongs to a hook. -/
theorem hookLink?_of_derived {asset derived : Asset} {collection : Collection}
    (hfree : asset.hookLink? collection = none)
    (h : derived.adapters = asset.derivedAdapters collection) :
    derived.hookLink? collection = none := by
  have hsections : derived.adapters.dataSections =
      mergeBy DataSection.parentKey asset.adapters.dataSections
        collection.adapters.dataSections := by
    rw [h, derivedAdapters, merge_eq]
  rw [hookLink?] at hfree ⊢
  rw [hsections, firstHook?_mergeBy, hfree, Option.none_or]
  exact (Option.or_eq_none_iff.mp hfree).2

/-- A derivation that succeeds merges the plugins, fills the table and leaves all else alone. -/
theorem derive_eq_ok_iff {asset derived : Asset} {collection : Collection} :
    asset.derive (some collection) = .ok derived ↔
      asset.hookLink? collection = none ∧ derived.address = asset.address ∧
        derived.base = asset.base ∧
        derived.extension =
          ⟨asset.extension.header, asset.plugins.merge collection.plugins,
            asset.derivedAdapters collection⟩ := by
  rw [derive_some]
  cases asset.hookLink? collection with
  | some program => simp
  | none =>
    constructor
    · rintro ⟨⟩
      exact ⟨rfl, rfl, rfl, rfl⟩
    · rintro ⟨_, haddress, hbase, hextension⟩
      obtain ⟨address, base, extension⟩ := derived
      cases haddress
      cases hbase
      cases hextension
      rfl

/-- **Deriving twice.**  A derived asset is derived from itself. -/
theorem derive_derived {asset derived : Asset} {collection : Collection}
    (h : asset.derive (some collection) = .ok derived) :
    derived.derive (some collection) = .ok derived := by
  obtain ⟨hfree, _, _, hextension⟩ := derive_eq_ok_iff.mp h
  have hplugins : derived.plugins = asset.plugins.merge collection.plugins :=
    congrArg Extension.plugins hextension
  have hadapters : derived.adapters = asset.derivedAdapters collection :=
    congrArg Extension.adapters hextension
  refine derive_eq_ok_iff.mpr ⟨hookLink?_of_derived hfree hadapters, rfl, rfl, ?_⟩
  rw [derivedAdapters_of_derived hadapters, hplugins, PluginSlots.merge_merge, ← hplugins]
  rfl

end Asset

end DigitalAsset
