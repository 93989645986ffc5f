import DigitalAsset.Proofs.Derivation.Merge

/-!
# Data sections

A merged data section whose parent is a lifecycle hook makes the derivation fail, and the first such
section names the program in the error.  Otherwise the sections hand their data over in order, which
changes nothing but the data of linked app data.

`Asset.derive_some` puts both together: whether a derivation fails is seen from the sections of the
asset and of the collection before they are merged.
-/

namespace DigitalAsset

/-- The program of the lifecycle hook that a data section belongs to, if it belongs to one. -/
def DataSection.hookedProgram? (s : DataSection) : Option Address :=
  match s.parentKey with
  | .linkedLifecycleHook program => some program
  | .linkedAppData _ => none

theorem DataSection.hookedProgram?_eq_some_iff {s : DataSection} {program : Address} :
    s.hookedProgram? = some program ↔ s.parentKey = .linkedLifecycleHook program := by
  rw [hookedProgram?]
  cases s.parentKey <;> simp

/-- An adapter entry without its data. -/
def AttachedAdapter.withoutData (entry : AttachedAdapter α) : AttachedAdapter α :=
  { entry with data := none }

namespace AdapterTable

/-- The program that the first section with a hook as its parent names. -/
def firstHook? (sections : List (AttachedAdapter DataSection)) : Option Address :=
  sections.findSome? (·.payload.hookedProgram?)

/-- No section belongs to a lifecycle hook. -/
def HookFree (sections : List (AttachedAdapter DataSection)) : Prop :=
  ∀ entry ∈ sections, ∀ program, entry.payload.parentKey ≠ .linkedLifecycleHook program

theorem firstHook?_eq_none_iff {sections : List (AttachedAdapter DataSection)} :
    firstHook? sections = none ↔ HookFree sections := by
  rw [firstHook?, List.findSome?_eq_none_iff]
  simp only [HookFree, Option.eq_none_iff_forall_ne_some, ne_eq,
    DataSection.hookedProgram?_eq_some_iff]

/-- The linked app data after one section whose parent is an authority has handed over its data. -/
def handOver (linked : List (AttachedAdapter AppData)) (entry : AttachedAdapter DataSection) :
    List (AttachedAdapter AppData) :=
  match entry.payload.parentKey with
  | .linkedLifecycleHook _ => linked
  | .linkedAppData authority => setData authority entry.data linked

/-! ## All sections in turn -/

/-- Sections without a hook among their parents hand over their data one after the other; the first
one with a hook ends it all. -/
theorem foldlM_injectSection (sections : List (AttachedAdapter DataSection))
    (linked : List (AttachedAdapter AppData)) :
    sections.foldlM injectSection linked =
      match firstHook? sections with
      | some program => .error (.unsupportedLink program)
      | none => .ok (sections.foldl handOver linked) := by
  induction sections generalizing linked with
  | nil => rfl
  | cons entry rest ih =>
    rw [List.foldlM_cons, firstHook?, List.findSome?_cons]
    cases hparent : entry.payload.parentKey with
    | linkedLifecycleHook program =>
      simp only [injectSection, DataSection.hookedProgram?, hparent]
      rfl
    | linkedAppData authority =>
      simp only [injectSection, DataSection.hookedProgram?, hparent, List.foldl_cons, handOver]
      exact ih _

theorem injectSections_eq (table : AdapterTable) :
    table.injectSections =
      match firstHook? table.dataSections with
      | some program => .error (.unsupportedLink program)
      | none =>
        .ok { table with linkedAppDatas := table.dataSections.foldl handOver table.linkedAppDatas } := by
  rw [injectSections, foldlM_injectSection]
  cases firstHook? table.dataSections <;> rfl

theorem findSome?_filter_of_none {p : α → Bool} {f : α → Option β} {l : List α}
    (h : ∀ a ∈ l, p a = false → f a = none) : (l.filter p).findSome? f = l.findSome? f := by
  induction l with
  | nil => rfl
  | cons a rest ih =>
    have hrest := ih fun b hb => h b (List.mem_cons_of_mem a hb)
    cases hp : p a with
    | true => rw [List.filter_cons_of_pos hp, List.findSome?_cons, List.findSome?_cons, hrest]
    | false =>
      rw [List.filter_cons_of_neg (by simp [hp]), List.findSome?_cons, h a List.mem_cons_self hp,
        hrest]

/-- A section of the collection that the merge drops has its parent in common with a section of the
asset, so the first hook is the asset's first, or else the collection's first. -/
theorem firstHook?_mergeBy (asset collection : List (AttachedAdapter DataSection)) :
    firstHook? (mergeBy DataSection.parentKey asset collection) =
      (firstHook? asset).or (firstHook? collection) := by
  rw [mergeBy, firstHook?, List.findSome?_append, ← firstHook?]
  cases hasset : firstHook? asset with
  | some program => rfl
  | none =>
    have hown : ∀ own ∈ asset, own.payload.hookedProgram? = none := by
      simpa [firstHook?] using hasset
    rw [Option.none_or, Option.none_or, firstHook?]
    apply findSome?_filter_of_none
    intro entry _ hdropped
    -- Some section of the asset has the same parent, and it has no hook.
    obtain ⟨own, hmem, hsame⟩ : ∃ own ∈ asset, own.payload.parentKey = entry.payload.parentKey := by
      simpa using hdropped
    have hnone := hown own hmem
    rwa [DataSection.hookedProgram?, hsame] at hnone

/-! ## What the sections leave alone -/

theorem map_withoutData_setData (authority : Authority) (data : Option AdapterData)
    (linked : List (AttachedAdapter AppData)) :
    (setData authority data linked).map AttachedAdapter.withoutData =
      linked.map AttachedAdapter.withoutData := by
  induction linked with
  | nil => rfl
  | cons entry rest ih =>
    rw [setData]
    split
    · rfl
    · rw [List.map_cons, List.map_cons, ih]

/-- Nothing but the data of linked app data changes. -/
theorem map_withoutData_foldl_handOver (sections : List (AttachedAdapter DataSection))
    (linked : List (AttachedAdapter AppData)) :
    (sections.foldl handOver linked).map AttachedAdapter.withoutData =
      linked.map AttachedAdapter.withoutData := by
  induction sections generalizing linked with
  | nil => rfl
  | cons entry rest ih =>
    rw [List.foldl_cons, ih, handOver]
    split
    · rfl
    · exact map_withoutData_setData _ _ _

end AdapterTable

/-! ## Derivation -/

namespace Asset

/-- The adapters of a derived asset, if no data section stands in the way. -/
def derivedAdapters (asset : Asset) (collection : Collection) : AdapterTable :=
  let merged := asset.adapters.merge collection.adapters
  { merged with linkedAppDatas := merged.dataSections.foldl AdapterTable.handOver merged.linkedAppDatas }

/-- The first hook that a data section of the asset has as its parent, or else of the collection. -/
def hookLink? (asset : Asset) (collection : Collection) : Option Address :=
  (AdapterTable.firstHook? asset.adapters.dataSections).or
    (AdapterTable.firstHook? collection.adapters.dataSections)

/-- The sections of both sides are looked through one after the other. -/
theorem hookLink?_eq {asset : Asset} {collection : Collection} :
    asset.hookLink? collection =
      AdapterTable.firstHook?
        (asset.adapters.dataSections ++ collection.adapters.dataSections) := by
  rw [AdapterTable.firstHook?, List.findSome?_append]
  rfl

/-- Derivation fails exactly if a data section of either side has a hook as its parent. -/
theorem derive_some (asset : Asset) (collection : Collection) :
    asset.derive (some collection) =
      match asset.hookLink? collection with
      | some program => .error (.unsupportedLink program)
      | none =>
        .ok
          { asset with
            extension :=
              { asset.extension with
                plugins := asset.plugins.merge collection.plugins
                adapters := asset.derivedAdapters collection } } := by
  have hsections : (asset.adapters.merge collection.adapters).dataSections =
      AdapterTable.mergeBy DataSection.parentKey asset.adapters.dataSections
        collection.adapters.dataSections := by
    rw [AdapterTable.merge_eq]
  simp only [derive, AdapterTable.injectSections_eq, hsections, AdapterTable.firstHook?_mergeBy]
  rw [hookLink?]
  cases (AdapterTable.firstHook? asset.adapters.dataSections).or
    (AdapterTable.firstHook? collection.adapters.dataSections) with
  | some program => rfl
  | none =>
    rw [derivedAdapters, hsections]
    rfl

end Asset

end DigitalAsset
