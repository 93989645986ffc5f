import DigitalAsset.Proofs.Derivation.Sections
import Mathlib.Data.List.Induction

/-!
# Where the data of sections goes

Each data section overwrites the data of the first linked app data that its authority may write, so
of several sections for one authority the last one counts.  The merge keeps no section of the
collection for an authority for which the asset has a section of its own, so the asset's sections go
before the collection's although they are handed over first.

`Asset.InjectionLaw` states the outcome on the sections of both sides, and
`Asset.derive_injectionLaw` proves it of every derivation.
-/

namespace DigitalAsset

namespace AdapterTable

/-! ## The law -/

/-- The last section that holds data for an authority. -/
def lastSection? (authority : Authority) (sections : List (AttachedAdapter DataSection)) :
    Option (AttachedAdapter DataSection) :=
  (sections.filter fun entry => entry.payload.parentKey = .linkedAppData authority).getLast?

/-- The entry stands at place `i`, and no entry before it is for the same authority. -/
def FirstAt (linked : List (AttachedAdapter AppData)) (i : Nat) (entry : AttachedAdapter AppData) :
    Prop :=
  linked[i]? = some entry ∧
    ∀ j < i, ∀ earlier, linked[j]? = some earlier →
      earlier.payload.dataAuthority ≠ entry.payload.dataAuthority

/-- The entry stands at place `i`, and an entry before it is for the same authority. -/
def LaterAt (linked : List (AttachedAdapter AppData)) (i : Nat) (entry : AttachedAdapter AppData) :
    Prop :=
  linked[i]? = some entry ∧
    ∃ j < i, ∃ earlier, linked[j]? = some earlier ∧
      earlier.payload.dataAuthority = entry.payload.dataAuthority

/-- The first section that belongs to a lifecycle hook belongs to the hook of `program`. -/
def FirstHook (sections : List (AttachedAdapter DataSection)) (program : Address) : Prop :=
  ∃ before entry after, sections = before ++ entry :: after ∧ HookFree before ∧
    entry.payload.parentKey = .linkedLifecycleHook program

end AdapterTable

/-- The entry with the data of another one in place of its own, if there is another one. -/
def AttachedAdapter.withDataOf (entry : AttachedAdapter α) :
    Option (AttachedAdapter β) → AttachedAdapter α
  | some other => { entry with data := other.data }
  | none => entry

namespace Asset

open AdapterTable

/-- The section whose data counts for an authority: the asset's last one, or else the collection's
last one. -/
def sectionFor? (asset : Asset) (collection : Collection) (authority : Authority) :
    Option (AttachedAdapter DataSection) :=
  (lastSection? authority asset.adapters.dataSections).or
    (lastSection? authority collection.adapters.dataSections)

/-- The adapters of `derived` are the merged ones after the data of the sections has gone to where it
belongs. -/
structure Injected (asset : Asset) (collection : Collection) (derived : Asset) : Prop where
  /-- The first entry for an authority has the data of the section that counts, or else its own. -/
  first : ∀ i entry, FirstAt (asset.adapters.merge collection.adapters).linkedAppDatas i entry →
    derived.adapters.linkedAppDatas[i]? =
      some (entry.withDataOf (asset.sectionFor? collection entry.payload.dataAuthority))
  /-- A later entry for the same authority stays as it is. -/
  later : ∀ i entry, LaterAt (asset.adapters.merge collection.adapters).linkedAppDatas i entry →
    derived.adapters.linkedAppDatas[i]? = some entry
  length : derived.adapters.linkedAppDatas.length =
    (asset.adapters.merge collection.adapters).linkedAppDatas.length
  /-- No other adapter changes. -/
  others : derived.adapters =
    { asset.adapters.merge collection.adapters with
      linkedAppDatas := derived.adapters.linkedAppDatas }

/-- What the answer to a derivation has to be, as far as data sections go. -/
structure InjectionLaw (asset : Asset) (collection : Collection) (answer : Except Error Asset) :
    Prop where
  /-- A section of either side that belongs to a hook is what makes a derivation fail. -/
  fails_iff : (∃ e, answer = .error e) ↔
    ¬ HookFree (asset.adapters.dataSections ++ collection.adapters.dataSections)
  /-- The error names the hook of the first such section of the asset. -/
  ownHook : ∀ program, FirstHook asset.adapters.dataSections program →
    answer = .error (.unsupportedLink program)
  /-- If the asset has none, the error names the hook of the first such section of the collection. -/
  collectionHook : HookFree asset.adapters.dataSections →
    ∀ program, FirstHook collection.adapters.dataSections program →
      answer = .error (.unsupportedLink program)
  /-- Without such sections there is a derived asset, and it has the data of the sections. -/
  succeeds : HookFree (asset.adapters.dataSections ++ collection.adapters.dataSections) →
    ∃ derived, answer = .ok derived ∧ asset.Injected collection derived

end Asset

/-! ## Sections that count -/

namespace AdapterTable

theorem lastSection?_concat (authority : Authority) (sections : List (AttachedAdapter DataSection))
    (entry : AttachedAdapter DataSection) :
    lastSection? authority (sections ++ [entry]) =
      if entry.payload.parentKey = .linkedAppData authority then some entry
      else lastSection? authority sections := by
  rw [lastSection?, List.filter_append]
  split
  · rename_i hparent
    simp [hparent]
  · rename_i hparent
    simp [hparent, lastSection?]

theorem lastSection?_eq_none_iff {authority : Authority}
    {sections : List (AttachedAdapter DataSection)} :
    lastSection? authority sections = none ↔
      ∀ entry ∈ sections, entry.payload.parentKey ≠ .linkedAppData authority := by
  simp [lastSection?]

/-- The section that counts after the merge is the asset's, or else the collection's. -/
theorem lastSection?_mergeBy (authority : Authority)
    (asset collection : List (AttachedAdapter DataSection)) :
    lastSection? authority (mergeBy DataSection.parentKey asset collection) =
      (lastSection? authority asset).or (lastSection? authority collection) := by
  rw [mergeBy, lastSection?, List.filter_append, List.getLast?_append, List.filter_filter]
  cases hown : lastSection? authority asset with
  | none =>
    -- The asset has no such section, so the merge keeps all of the collection's.
    rw [← lastSection?, hown, Option.or_none, Option.none_or, lastSection?]
    congr 1
    apply List.filter_congr
    intro entry _
    by_cases hparent : entry.payload.parentKey = .linkedAppData authority
    · simpa [hparent] using lastSection?_eq_none_iff.mp hown
    · simp [hparent]
  | some own =>
    -- The asset has one, so the merge drops every such section of the collection.
    have hmem : own ∈ asset ∧ own.payload.parentKey = .linkedAppData authority := by
      simpa using List.mem_of_getLast? hown
    have hdropped : (collection.filter fun entry =>
        decide (entry.payload.parentKey = .linkedAppData authority) &&
          decide (∀ own ∈ asset, own.payload.parentKey ≠ entry.payload.parentKey)) = [] := by
      rw [List.filter_eq_nil_iff]
      intro entry _ hkept
      simp only [Bool.and_eq_true, decide_eq_true_eq] at hkept
      exact hkept.2 own hmem.1 (hmem.2.trans hkept.1.symm)
    rw [hdropped, ← lastSection?, hown]
    rfl

/-! ## What the sections write -/

/-- The place of the first entry for an authority. -/
def place? (authority : Authority) (linked : List (AttachedAdapter AppData)) : Option Nat :=
  linked.findIdx? fun entry => entry.payload.dataAuthority = authority

theorem place?_cons (authority : Authority) (entry : AttachedAdapter AppData)
    (rest : List (AttachedAdapter AppData)) :
    place? authority (entry :: rest) =
      if entry.payload.dataAuthority = authority then some 0
      else (place? authority rest).map (· + 1) := by
  simp [place?, List.findIdx?_cons]

theorem place?_eq_some_iff {linked : List (AttachedAdapter AppData)} {i : Nat}
    {entry : AttachedAdapter AppData} (h : linked[i]? = some entry) :
    place? entry.payload.dataAuthority linked = some i ↔ FirstAt linked i entry := by
  obtain ⟨hi, rfl⟩ := List.getElem?_eq_some_iff.mp h
  rw [place?, List.findIdx?_eq_some_iff_getElem, FirstAt]
  constructor
  · rintro ⟨_, _, hbefore⟩
    refine ⟨h, ?_⟩
    intro j hj earlier hearlier
    obtain ⟨hjlt, rfl⟩ := List.getElem?_eq_some_iff.mp hearlier
    simpa using hbefore j hj
  · rintro ⟨_, hbefore⟩
    refine ⟨hi, by simp, ?_⟩
    intro j hj
    simpa using hbefore j hj linked[j] (List.getElem?_eq_getElem _)

/-- The places depend on nothing but the authorities. -/
theorem place?_congr {linked linked' : List (AttachedAdapter AppData)}
    (h : linked.map AttachedAdapter.withoutData = linked'.map AttachedAdapter.withoutData)
    (authority : Authority) : place? authority linked = place? authority linked' := by
  have hplace (l : List (AttachedAdapter AppData)) :
      place? authority l = place? authority (l.map AttachedAdapter.withoutData) := by
    rw [place?, place?, List.findIdx?_map]
    rfl
  rw [hplace linked, h, ← hplace linked']

/-- One section writes to the first entry for its authority and to no other. -/
theorem getElem?_setData (authority : Authority) (data : Option AdapterData)
    (linked : List (AttachedAdapter AppData)) (i : Nat) :
    (setData authority data linked)[i]? =
      if place? authority linked = some i then
        (linked[i]?).map fun entry => { entry with data := data }
      else linked[i]? := by
  induction linked generalizing i with
  | nil => simp [setData]
  | cons entry rest ih =>
    rw [setData, place?_cons]
    split
    · cases i <;> simp
    · cases i with
      | zero => simp
      | succ i => simp [ih]

/-- All sections together write to the first entry for each authority, and there the last one
counts. -/
theorem getElem?_foldl_handOver (sections : List (AttachedAdapter DataSection))
    {linked : List (AttachedAdapter AppData)} {i : Nat} {entry : AttachedAdapter AppData}
    (h : linked[i]? = some entry) :
    (sections.foldl handOver linked)[i]? =
      some
        (if place? entry.payload.dataAuthority linked = some i then
          entry.withDataOf (lastSection? entry.payload.dataAuthority sections)
        else entry) := by
  -- The last section writes last, so the induction takes sections off the end.
  induction sections using List.reverseRecOn with
  | nil => simp [h, lastSection?, AttachedAdapter.withDataOf]
  | append_singleton rest last ih =>
    have hplace := place?_congr (map_withoutData_foldl_handOver rest linked)
    rw [List.foldl_append, List.foldl_cons, List.foldl_nil, handOver, lastSection?_concat]
    cases hparent : last.payload.parentKey with
    | linkedLifecycleHook program => simpa using ih
    | linkedAppData authority =>
      simp only [getElem?_setData, hplace, ih, LinkedDataKey.linkedAppData.injEq]
      by_cases hsame : authority = entry.payload.dataAuthority
      · subst hsame
        by_cases hfirst : place? entry.payload.dataAuthority linked = some i
        · simp only [hfirst, if_pos, Option.map_some, AttachedAdapter.withDataOf]
          cases lastSection? entry.payload.dataAuthority rest <;> rfl
        · simp [hfirst]
      · -- The section writes to the place of another authority, if it writes at all.
        have helse : place? authority linked ≠ some i := by
          intro hplaced
          rw [place?, List.findIdx?_eq_some_iff_getElem] at hplaced
          obtain ⟨hi, hauthority, _⟩ := hplaced
          obtain ⟨_, rfl⟩ := List.getElem?_eq_some_iff.mp h
          exact hsame (of_decide_eq_true hauthority).symm
        simp [helse, hsame]

/-! ## Hooks -/

theorem firstHook?_of_firstHook {sections : List (AttachedAdapter DataSection)} {program : Address}
    (h : FirstHook sections program) : firstHook? sections = some program := by
  obtain ⟨before, entry, after, rfl, hfree, hparent⟩ := h
  have hbefore := firstHook?_eq_none_iff.mpr hfree
  rw [firstHook?] at hbefore ⊢
  rw [List.findSome?_append, hbefore, List.findSome?_cons, DataSection.hookedProgram?, hparent]
  rfl

end AdapterTable

/-! ## Derivation -/

namespace Asset

open AdapterTable

/-- The derived adapters have the data of the sections. -/
theorem injected_of_adapters {asset derived : Asset} {collection : Collection}
    (h : derived.adapters = asset.derivedAdapters collection) : asset.Injected collection derived := by
  have hsections : (asset.adapters.merge collection.adapters).dataSections =
      mergeBy DataSection.parentKey asset.adapters.dataSections
        collection.adapters.dataSections :=
    congrArg dataSections (merge_eq asset.adapters collection.adapters)
  have hlinked : derived.adapters.linkedAppDatas =
      (asset.adapters.merge collection.adapters).dataSections.foldl handOver
        (asset.adapters.merge collection.adapters).linkedAppDatas := by
    rw [h]
    rfl
  constructor
  · intro i entry hfirst
    rw [hlinked, getElem?_foldl_handOver _ hfirst.1, if_pos ((place?_eq_some_iff hfirst.1).mpr hfirst),
      hsections, lastSection?_mergeBy, sectionFor?]
  · rintro i entry ⟨hentry, j, hj, earlier, hearlier, hsame⟩
    have hnot : place? entry.payload.dataAuthority
        (asset.adapters.merge collection.adapters).linkedAppDatas ≠ some i := by
      intro hplace
      exact ((place?_eq_some_iff hentry).mp hplace).2 j hj earlier hearlier hsame
    rw [hlinked, getElem?_foldl_handOver _ hentry, if_neg hnot]
  · rw [hlinked]
    simpa using congrArg List.length (map_withoutData_foldl_handOver
      (asset.adapters.merge collection.adapters).dataSections
      (asset.adapters.merge collection.adapters).linkedAppDatas)
  · rw [h]
    rfl

/-- **The injection of data sections.**  A derivation obeys the law for every asset and collection,
whatever sections and linked app data they repeat. -/
theorem derive_injectionLaw (asset : Asset) (collection : Collection) :
    asset.InjectionLaw collection (asset.derive (some collection)) where
  fails_iff := by
    rw [derive_some, ← firstHook?_eq_none_iff, ← hookLink?_eq]
    cases asset.hookLink? collection <;> simp
  ownHook := by
    intro program hfirst
    rw [derive_some, hookLink?, firstHook?_of_firstHook hfirst]
    rfl
  collectionHook := by
    intro hfree program hfirst
    rw [derive_some, hookLink?, firstHook?_eq_none_iff.mpr hfree, firstHook?_of_firstHook hfirst]
    rfl
  succeeds := by
    intro hfree
    rw [derive_some, hookLink?_eq, firstHook?_eq_none_iff.mpr hfree]
    exact ⟨_, rfl, injected_of_adapters rfl⟩

end Asset

end DigitalAsset
