import DigitalAsset.Proofs.Derivation.Idempotence
import DigitalAsset.Proofs.Permission.ForeignCollection

/-!
# Answers that agree

Four questions are answered on the derived asset: whether it is frozen, whether a principal may
transfer or burn it, and which plugins a principal holds.  `Asset.freezeLaw` says how the answers
hang together.  The last three are refused together and with the same error.  The freeze question is
answered without looking at the address of the collection, so it agrees with the others only if the
asset does not name another collection; under another one it still has an answer, which is that of
the slots of both.  Whenever the answer is that the asset is frozen, only the permanent delegate may
act.

It does not matter for any answer whether the asset has been derived before
(`Asset.derive_sameAnswers`).
-/

namespace DigitalAsset.Asset

/-! ## Freezing -/

/-- How the freeze answer and the answers for a principal hang together, who may ask for the plugins of
some kinds. -/
structure FreezeLaw (asset : Asset) (collection : Option Collection) (principal : Address)
    (kinds : List PluginKind) : Prop where
  /-- Transfers, burns and look-ups of plugins are refused together. -/
  refusedTogether : ∀ e,
    (asset.canTransfer collection principal = .error e ↔
      asset.pluginAuthorities collection principal kinds = .error e) ∧
    (asset.canBurn collection principal = .error e ↔
      asset.pluginAuthorities collection principal kinds = .error e)
  /-- They refuse another collection than the asset's, whatever data sections there are. -/
  mismatch : ∀ named supplied, asset.base.updateAuthority = .collection named →
    collection = some supplied → supplied.address ≠ named →
    asset.canTransfer collection principal = .error (.collectionMismatch named supplied.address) ∧
    asset.canBurn collection principal = .error (.collectionMismatch named supplied.address) ∧
    asset.pluginAuthorities collection principal kinds =
      .error (.collectionMismatch named supplied.address)
  /-- The freeze question is refused with them, unless the collection is another one. -/
  frozenRefused : ¬ asset.Mismatched collection → ∀ e,
    asset.isFrozen collection = .error e ↔
      asset.pluginAuthorities collection principal kinds = .error e
  /-- Whatever collection it is, the freeze question is refused for a data section that belongs to a
  hook. -/
  frozenLink : ∀ supplied, collection = some supplied →
    (∃ program, asset.HasHookLink supplied program) →
    ∃ program, asset.HasHookLink supplied program ∧
      asset.isFrozen collection = .error (.unsupportedLink program)
  /-- Otherwise it is answered by the freeze delegates that count. -/
  frozenDecided :
    (∀ supplied, collection = some supplied → ∀ program, ¬ asset.HasHookLink supplied program) →
    ∃ frozen, asset.isFrozen collection = .ok frozen ∧
      (frozen = true ↔ asset.Frozen collection)
  /-- Only the permanent delegate transfers a frozen asset, its owner being no exception. -/
  transferFrozen : asset.isFrozen collection = .ok true →
    (asset.canTransfer collection principal = .ok true ↔
      asset.pluginAuthorities collection principal [.permanentTransferDelegate] = .ok [true])
  /-- So it is with burning. -/
  burnFrozen : asset.isFrozen collection = .ok true →
    (asset.canBurn collection principal = .ok true ↔
      asset.pluginAuthorities collection principal [.permanentBurnDelegate] = .ok [true])

section

variable {asset : Asset} {collection : Option Collection} {principal : Address}

theorem pluginAuthorities_eq_error_iff {kinds : List PluginKind} {e : Error} :
    asset.pluginAuthorities collection principal kinds = .error e ↔
      asset.checkedDerive collection = .error e :=
  Traversal.map_eq_error_iff

theorem canAct_eq_error_iff {permanent delegate : PluginKind} {e : Error} :
    canAct permanent delegate asset collection principal = .error e ↔
      asset.checkedDerive collection = .error e :=
  Traversal.map_eq_error_iff

theorem isFrozen_eq_error_iff {e : Error} :
    asset.isFrozen collection = .error e ↔ asset.derive collection = .error e :=
  Traversal.map_eq_error_iff

/-- On a frozen asset everything hangs on the permanent delegate. -/
theorem canAct_of_isFrozen {permanent delegate : PluginKind}
    (h : asset.isFrozen collection = .ok true) :
    canAct permanent delegate asset collection principal = .ok true ↔
      asset.pluginAuthorities collection principal [permanent] = .ok [true] := by
  obtain ⟨derived, hderive, hfrozen⟩ := Traversal.map_eq_ok_iff.mp h
  rw [canAct, pluginAuthorities, checkedDerive]
  -- If the collection is refused, then neither answer is yes.
  cases asset.ensureCollection collection with
  | error e => simp [Except.map]
  | ok _ => simp [hderive, hfrozen, Except.map]

end

/-- **The freeze answer.**  It hangs together with the answers for every principal and all plugins as
the law says. -/
theorem freezeLaw (asset : Asset) (collection : Option Collection) (principal : Address)
    (kinds : List PluginKind) : asset.FreezeLaw collection principal kinds where
  refusedTogether := by
    intro e
    rw [pluginAuthorities_eq_error_iff]
    exact ⟨canAct_eq_error_iff, canAct_eq_error_iff⟩
  mismatch := by
    rintro named supplied hnamed rfl hne
    have hrefused := checkedDerive_of_mismatch hnamed hne
    exact ⟨canAct_eq_error_iff.mpr hrefused, canAct_eq_error_iff.mpr hrefused,
      pluginAuthorities_eq_error_iff.mpr hrefused⟩
  frozenRefused := by
    intro hmatch e
    rw [isFrozen_eq_error_iff, pluginAuthorities_eq_error_iff, checkedDerive_of_not_mismatched hmatch]
  frozenLink := by
    rintro supplied rfl ⟨witnessed, hwitnessed⟩
    cases hfirst : asset.hookLink? supplied with
    | none => exact absurd hwitnessed (hookLink?_eq_none_iff.mp hfirst witnessed)
    | some program =>
      refine ⟨program, hasHookLink_of_hookLink? hfirst, isFrozen_eq_error_iff.mpr ?_⟩
      rw [derive_some, hfirst]
  frozenDecided := by
    intro hlinks
    obtain ⟨derived, hderive, hshows⟩ :=
      exists_derive fun supplied hsupplied => hookLink?_eq_none_iff.mpr (hlinks supplied hsupplied)
    exact ⟨derived.frozen, by rw [isFrozen, hderive, Except.map], frozen_iff hshows⟩
  transferFrozen := canAct_of_isFrozen
  burnFrozen := canAct_of_isFrozen

/-- A collection whose permanent freeze delegate has frozen its assets. -/
def freezingCollection : Collection where
  address := .ofPrefix [2]
  base := .placeholder stranger
  extension :=
    { header := none
      plugins := PluginSlots.empty.insert .updateAuthority 0 (.permanentFreezeDelegate true)
      adapters := .empty }

/-- The freeze question is not refused with the others: an asset is called frozen on behalf of a
collection that it does not belong to. -/
theorem not_isFrozen_refused_together :
    ¬ ∀ (asset : Asset) (collection : Option Collection) (principal : Address)
        (kinds : List PluginKind),
      (∀ e,
        (asset.isFrozen collection = .error e ↔ asset.canTransfer collection principal = .error e) ∧
        (asset.canTransfer collection principal = .error e ↔
          asset.canBurn collection principal = .error e) ∧
        (asset.canBurn collection principal = .error e ↔
          asset.pluginAuthorities collection principal kinds = .error e)) ∧
      (asset.isFrozen collection = .ok true →
        (asset.canTransfer collection principal = .ok true ↔
          asset.pluginAuthorities collection principal [.permanentTransferDelegate] = .ok [true]) ∧
        (asset.canBurn collection principal = .ok true ↔
          asset.pluginAuthorities collection principal [.permanentBurnDelegate] = .ok [true])) := by
  intro hclaim
  have hfrozen : (bare (.collection .zero)).isFrozen (some freezingCollection) = .ok true := by decide
  have hrefused : (bare (.collection .zero)).canTransfer (some freezingCollection) .zero =
      .error (.collectionMismatch .zero freezingCollection.address) := by
    decide
  have halike := ((hclaim (bare (.collection .zero)) (some freezingCollection) .zero []).1
    (.collectionMismatch .zero freezingCollection.address)).1
  cases hfrozen.symm.trans (halike.mpr hrefused)

/-! ## Derived assets -/

/-- The answers for a derived asset are those for the asset that it was derived from. -/
structure SameAnswers (asset derived : Asset) (collection : Option Collection) : Prop where
  pluginAuthorities : ∀ principal kinds,
    derived.pluginAuthorities collection principal kinds =
      asset.pluginAuthorities collection principal kinds
  canTransfer : ∀ principal,
    derived.canTransfer collection principal = asset.canTransfer collection principal
  canBurn : ∀ principal, derived.canBurn collection principal = asset.canBurn collection principal
  canUpdate : ∀ principal,
    derived.canUpdate collection principal = asset.canUpdate collection principal
  isFrozen : derived.isFrozen collection = asset.isFrozen collection

section

variable {asset derived : Asset} {collection : Option Collection}

/-- The base record decides which collections are refused. -/
theorem ensureCollection_congr (h : derived.base = asset.base) :
    derived.ensureCollection collection = asset.ensureCollection collection := by
  rw [ensureCollection.eq_def, ensureCollection.eq_def, collection?, collection?, h]

theorem isOwner_congr (h : derived.base = asset.base) : derived.isOwner = asset.isOwner := by
  funext principal
  rw [isOwner, isOwner, h]

theorem hasUpdateAuthority_congr (h : derived.base = asset.base) :
    derived.hasUpdateAuthority collection = asset.hasUpdateAuthority collection := by
  funext principal
  rw [hasUpdateAuthority.eq_def, hasUpdateAuthority.eq_def, h]

/-- The base record decides whom an authority means. -/
theorem authorityMatches_congr (h : derived.base = asset.base) :
    derived.authorityMatches collection = asset.authorityMatches collection := by
  funext principal authority
  cases authority with
  | none => rfl
  | owner => rw [authorityMatches, authorityMatches, isOwner_congr h]
  | updateAuthority => rw [authorityMatches, authorityMatches, hasUpdateAuthority_congr h]
  | address a => rfl

/-- An asset with the same base record from which the same is derived has the same answers. -/
theorem sameAnswers_of_derive (hbase : derived.base = asset.base)
    (hderive : derived.derive collection = asset.derive collection) :
    asset.SameAnswers derived collection := by
  have hchecked : derived.checkedDerive collection = asset.checkedDerive collection := by
    rw [checkedDerive, checkedDerive, ensureCollection_congr hbase, hderive]
  have hholds : derived.holds collection = asset.holds collection := by
    funext shown principal kind
    rw [holds, holds, authorityMatches_congr hbase]
  have hact (permanent delegate : PluginKind) (principal : Address) :
      canAct permanent delegate derived collection principal =
        canAct permanent delegate asset collection principal := by
    rw [canAct, canAct, hchecked, hholds, isOwner_congr hbase]
  exact
    { pluginAuthorities := fun principal kinds => by
        rw [Asset.pluginAuthorities, Asset.pluginAuthorities, hchecked, hholds]
      canTransfer := hact _ _
      canBurn := hact _ _
      canUpdate := fun principal => by
        rw [Asset.canUpdate, Asset.canUpdate, hasUpdateAuthority_congr hbase]
      isFrozen := by rw [Asset.isFrozen, Asset.isFrozen, hderive] }

end

/-- **Derived assets.**  Deriving an asset again under the same collection changes nothing, and no
answer under that collection depends on whether the asset has been derived. -/
theorem derive_sameAnswers (asset derived : Asset) (collection : Collection)
    (h : asset.derive (some collection) = .ok derived) :
    derived.derive (some collection) = .ok derived ∧
      asset.SameAnswers derived (some collection) := by
  have hagain := derive_derived h
  have hbase := (derive_eq_ok_iff.mp h).2.2.1
  exact ⟨hagain, sameAnswers_of_derive hbase (hagain.trans h.symm)⟩

/-- The sample takes over an oracle twice and the data of a section; deriving it again adds nothing. -/
theorem derive_sameAnswers_sample :
    ∃ derived, sample.derive (some Collection.sample) = .ok derived ∧
      derived.derive (some Collection.sample) = .ok derived ∧
      sample.SameAnswers derived (some Collection.sample) := by
  have hderive : sample.derive (some Collection.sample) = .ok _ :=
    derive_some sample Collection.sample
  exact ⟨_, hderive, derive_sameAnswers _ _ _ hderive⟩

end DigitalAsset.Asset
