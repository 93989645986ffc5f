import DigitalAsset.Permission
import DigitalAsset.Proofs.Derivation.Sections

/-!
# Who may transfer or burn an asset

The functions that answer this question derive the asset and look at the result.  Here the answer is
stated on the sources alone: which slot counts (`Asset.effective?`), whom the authority of a plugin
means (`Asset.Means`), and when the asset is frozen (`Asset.Frozen`).  `Asset.ActionLaw` is the whole
law with its two refusals, and `Asset.canTransfer_canBurn_law` proves it for both actions.
-/

namespace DigitalAsset.Asset

/-! ## The law -/

/-- The plugin of a kind that counts: the asset's own, or else that of the collection supplied. -/
def effective? (asset : Asset) (collection : Option Collection) (kind : PluginKind) :
    Option (AttachedPlugin kind) :=
  (asset.plugins.get? kind).or (collection.bind fun supplied => supplied.plugins.get? kind)

/-- Whether a principal is meant by a plugin authority. -/
inductive Means (asset : Asset) (collection : Option Collection) (principal : Address) :
    Authority → Prop
  | owner : principal = asset.base.owner → Means asset collection principal .owner
  | address : Means asset collection principal (.address principal)
  | updateAuthority : asset.base.updateAuthority = .address principal →
      Means asset collection principal .updateAuthority
  | collectionAuthority {named : Address} {supplied : Collection} :
      asset.base.updateAuthority = .collection named → collection = some supplied →
      supplied.base.updateAuthority = principal → Means asset collection principal .updateAuthority

/-- The plugin of a kind counts for the asset, and its authority means the principal. -/
def Holds (asset : Asset) (collection : Option Collection) (principal : Address)
    (kind : PluginKind) : Prop :=
  ∃ attached, asset.effective? collection kind = some attached ∧
    asset.Means collection principal attached.authority

/-- One of the two freeze delegates that count has frozen the asset. -/
def Frozen (asset : Asset) (collection : Option Collection) : Prop :=
  (∃ attached, asset.effective? collection .freezeDelegate = some attached ∧
    attached.plugin = .freezeDelegate true) ∨
  ∃ attached, asset.effective? collection .permanentFreezeDelegate = some attached ∧
    attached.plugin = .permanentFreezeDelegate true

/-- The asset names another collection than the one supplied. -/
def Mismatched (asset : Asset) (collection : Option Collection) : Prop :=
  ∃ named supplied, asset.base.updateAuthority = .collection named ∧ collection = some supplied ∧
    supplied.address ≠ named

/-- A data section of the asset or of a collection has a hook of the program as its parent. -/
def HasHookLink (asset : Asset) (supplied : Collection) (program : Address) : Prop :=
  ∃ entry ∈ asset.adapters.dataSections ++ supplied.adapters.dataSections,
    entry.payload.parentKey = .linkedLifecycleHook program

/-- What the answer to a principal has to be who wants to act on an asset, with a permanent delegate
and a delegate for the action. -/
structure ActionLaw (asset : Asset) (collection : Option Collection) (principal : Address)
    (permanent delegate : PluginKind) (answer : Except Error Bool) : Prop where
  /-- Another collection than the asset's is refused before all else. -/
  mismatch : ∀ named supplied, asset.base.updateAuthority = .collection named →
    collection = some supplied → supplied.address ≠ named →
    answer = .error (.collectionMismatch named supplied.address)
  /-- Then a data section of either side that belongs to a hook is refused. -/
  unsupportedLink : ¬ asset.Mismatched collection → ∀ supplied, collection = some supplied →
    (∃ program, asset.HasHookLink supplied program) →
    ∃ program, asset.HasHookLink supplied program ∧ answer = .error (.unsupportedLink program)
  /-- Otherwise there is an answer: the permanent delegate may act, and while the asset is not frozen
  its owner and the delegate may. -/
  decided : ¬ asset.Mismatched collection →
    (∀ supplied, collection = some supplied → ∀ program, ¬ asset.HasHookLink supplied program) →
    ∃ may, answer = .ok may ∧
      (may = true ↔ asset.Holds collection principal permanent ∨
        ¬ asset.Frozen collection ∧
          (principal = asset.base.owner ∨ asset.Holds collection principal delegate))

/-! ## Principals -/

theorem authorityMatches_iff {asset : Asset} {collection : Option Collection} {principal : Address}
    {authority : Authority} :
    asset.authorityMatches collection principal authority = true ↔
      asset.Means collection principal authority := by
  constructor
  · intro h
    cases authority with
    | none => cases h
    | owner => exact .owner (of_decide_eq_true h)
    | address a =>
      obtain rfl : a = principal := of_decide_eq_true h
      exact .address
    | updateAuthority =>
      rw [authorityMatches, hasUpdateAuthority.eq_def] at h
      split at h
      · rename_i hnamed
        split at h
        · exact .collectionAuthority hnamed rfl (of_decide_eq_true h)
        · cases h
      · rename_i a hfixed
        obtain rfl : a = principal := of_decide_eq_true h
        exact .updateAuthority hfixed
      · cases h
  · intro h
    cases h with
    | owner howner => exact decide_eq_true howner
    | address => exact decide_eq_true rfl
    | updateAuthority hfixed =>
      rw [authorityMatches, hasUpdateAuthority.eq_def, hfixed]
      exact decide_eq_true rfl
    | collectionAuthority hnamed hsupplied hsame =>
      rw [authorityMatches, hasUpdateAuthority.eq_def, hnamed, hsupplied]
      exact decide_eq_true hsame

/-! ## The derived asset -/

/-- What the functions see of a derived asset: every slot but the master edition is the one that
counts. -/
def ShowsEffective (asset : Asset) (collection : Option Collection) (derived : Asset) : Prop :=
  ∀ kind, kind ≠ .masterEdition → derived.plugins.get? kind = asset.effective? collection kind

theorem holds_iff {asset derived : Asset} {collection : Option Collection} {principal : Address}
    {kind : PluginKind} (h : asset.ShowsEffective collection derived)
    (hkind : kind ≠ .masterEdition) :
    asset.holds collection derived principal kind = true ↔
      asset.Holds collection principal kind := by
  rw [holds, Holds, PluginSlots.authority?, h kind hkind]
  cases asset.effective? collection kind with
  | none => simp
  | some attached => simp [authorityMatches_iff]

/-- A freeze delegate freezes if its flag is set. -/
theorem isFreezing_freezeDelegate (attached : AttachedPlugin .freezeDelegate) :
    attached.plugin.isFreezing = true ↔ attached.plugin = .freezeDelegate true := by
  obtain ⟨_, _, plugin, hkind⟩ := attached
  cases plugin with
  | freezeDelegate frozen => simp [Plugin.isFreezing]
  | _ => cases hkind

theorem isFreezing_permanentFreezeDelegate (attached : AttachedPlugin .permanentFreezeDelegate) :
    attached.plugin.isFreezing = true ↔ attached.plugin = .permanentFreezeDelegate true := by
  obtain ⟨_, _, plugin, hkind⟩ := attached
  cases plugin with
  | permanentFreezeDelegate frozen => simp [Plugin.isFreezing]
  | _ => cases hkind

theorem freezes_iff {slots : PluginSlots} {kind : PluginKind} :
    slots.freezes kind = true ↔
      ∃ attached, slots.get? kind = some attached ∧ attached.plugin.isFreezing = true := by
  rw [PluginSlots.freezes]
  cases slots.get? kind with
  | none => simp
  | some attached => simp

theorem frozen_iff {asset derived : Asset} {collection : Option Collection}
    (h : asset.ShowsEffective collection derived) :
    derived.frozen = true ↔ asset.Frozen collection := by
  simp only [frozen, Bool.or_eq_true, freezes_iff, Frozen,
    h .freezeDelegate (by decide), h .permanentFreezeDelegate (by decide),
    isFreezing_freezeDelegate, isFreezing_permanentFreezeDelegate]

theorem hookLink?_eq_none_iff {asset : Asset} {supplied : Collection} :
    asset.hookLink? supplied = none ↔ ∀ program, ¬ asset.HasHookLink supplied program := by
  rw [hookLink?_eq, AdapterTable.firstHook?_eq_none_iff]
  constructor
  · rintro hfree program ⟨entry, hmem, hparent⟩
    exact hfree entry hmem program hparent
  · intro hno entry hmem program hparent
    exact hno program ⟨entry, hmem, hparent⟩

theorem hasHookLink_of_hookLink? {asset : Asset} {supplied : Collection} {program : Address}
    (h : asset.hookLink? supplied = some program) : asset.HasHookLink supplied program := by
  rw [hookLink?_eq, AdapterTable.firstHook?] at h
  obtain ⟨entry, hmem, hlink⟩ := List.exists_of_findSome?_eq_some h
  exact ⟨entry, hmem, DataSection.hookedProgram?_eq_some_iff.mp hlink⟩

/-- Without a refusal the derived asset shows what counts. -/
theorem exists_derive {asset : Asset} {collection : Option Collection}
    (h : ∀ supplied, collection = some supplied → asset.hookLink? supplied = none) :
    ∃ derived, asset.derive collection = .ok derived ∧ asset.ShowsEffective collection derived := by
  cases collection with
  | none =>
    refine ⟨asset, rfl, ?_⟩
    intro kind _
    rw [effective?, Option.bind_none, Option.or_none]
  | some supplied =>
    have hderive := derive_some asset supplied
    rw [h supplied rfl] at hderive
    refine ⟨_, hderive, ?_⟩
    intro kind hkind
    exact if_neg hkind

/-! ## Actions -/

theorem ensureCollection_of_mismatch {asset : Asset} {supplied : Collection} {named : Address}
    (hnamed : asset.base.updateAuthority = .collection named) (hne : supplied.address ≠ named) :
    asset.ensureCollection (some supplied) =
      .error (.collectionMismatch named supplied.address) := by
  simp [ensureCollection, collection?, hnamed, UpdateAuthority.collection?, Ne.symm hne]

theorem ensureCollection_of_not_mismatched {asset : Asset} {collection : Option Collection}
    (h : ¬ asset.Mismatched collection) : asset.ensureCollection collection = .ok () := by
  rw [ensureCollection.eq_def]
  split
  · rename_i named supplied hnamed
    apply if_pos
    by_contra hne
    refine h ⟨named, supplied, ?_, rfl, Ne.symm hne⟩
    rw [collection?, UpdateAuthority.collection?.eq_def] at hnamed
    split at hnamed
    · cases hnamed
      assumption
    · cases hnamed
  · rfl

/-- A collection that is not refused leaves the derivation to itself. -/
theorem checkedDerive_of_not_mismatched {asset : Asset} {collection : Option Collection}
    (h : ¬ asset.Mismatched collection) :
    asset.checkedDerive collection = asset.derive collection := by
  rw [checkedDerive, ensureCollection_of_not_mismatched h]

/-- The law holds of every action with its two delegates. -/
theorem canAct_law {permanent delegate : PluginKind} (hpermanent : permanent ≠ .masterEdition)
    (hdelegate : delegate ≠ .masterEdition) (asset : Asset) (collection : Option Collection)
    (principal : Address) :
    asset.ActionLaw collection principal permanent delegate
      (canAct permanent delegate asset collection principal) where
  mismatch := by
    rintro named supplied hnamed rfl hne
    rw [canAct, checkedDerive, ensureCollection_of_mismatch hnamed hne]
    rfl
  unsupportedLink := by
    rintro hmatch supplied rfl ⟨witnessed, hwitnessed⟩
    rw [canAct, checkedDerive_of_not_mismatched hmatch, derive_some]
    cases hfirst : asset.hookLink? supplied with
    | none => exact absurd hwitnessed (hookLink?_eq_none_iff.mp hfirst witnessed)
    | some program => exact ⟨program, hasHookLink_of_hookLink? hfirst, rfl⟩
  decided := by
    intro hmatch hlinks
    obtain ⟨derived, hderive, hshows⟩ :=
      exists_derive fun supplied hsupplied => hookLink?_eq_none_iff.mpr (hlinks supplied hsupplied)
    rw [canAct, checkedDerive_of_not_mismatched hmatch, hderive]
    refine ⟨_, rfl, ?_⟩
    -- The answer is the law, read through what the derived asset shows.
    rw [Bool.or_eq_true, Bool.and_eq_true, Bool.or_eq_true, Bool.not_eq_true', ← Bool.not_eq_true,
      holds_iff hshows hpermanent, holds_iff hshows hdelegate, frozen_iff hshows, isOwner,
      decide_eq_true_iff]

/-- **Transfer and burn.**  Both actions obey the law, each with its own delegates. -/
theorem canTransfer_canBurn_law (asset : Asset) (collection : Option Collection)
    (principal : Address) :
    asset.ActionLaw collection principal .permanentTransferDelegate .transferDelegate
        (asset.canTransfer collection principal) ∧
      asset.ActionLaw collection principal .permanentBurnDelegate .burnDelegate
        (asset.canBurn collection principal) :=
  ⟨canAct_law (by decide) (by decide) asset collection principal,
    canAct_law (by decide) (by decide) asset collection principal⟩

end DigitalAsset.Asset
