import DigitalAsset.Account.Draft
import DigitalAsset.Proofs.Permission.Decision
import DigitalAsset.Proofs.Traversal

/-!
# Collections that an asset does not belong to

The functions that answer permission questions are given a collection, and the caller may give any.
Those that derive the asset refuse a collection other than the one that the asset names.  An asset
that names none takes over the plugins of whatever collection it is given, and with them the rights
of their holders: `Asset.canTransfer_canBurn_foreignLaw` says that this is the only way in which a
foreign collection gives anybody a right to transfer or burn.

Whether a principal may update an asset is answered without that refusal.  For an asset in a
collection the answer is the update authority of the collection given, whatever its address:
`Asset.canUpdate_updateLaw` sets it beside the functions that do refuse.
-/

namespace DigitalAsset.Asset

/-! ## Transfer and burn -/

/-- The asset has no plugin of the kind, and the authority of the collection's plugin of that kind
means the principal, as it would if it were the asset's own. -/
def TakesOver (asset : Asset) (supplied : Collection) (principal : Address) (kind : PluginKind) :
    Prop :=
  asset.plugins.get? kind = none ∧
    ∃ attached, supplied.plugins.get? kind = some attached ∧
      asset.Means none principal attached.authority

/-- What a collection that the asset does not belong to may change about an action, which has a
permanent delegate and a delegate, for a principal. -/
structure ForeignLaw (asset : Asset) (supplied : Collection) (principal : Address)
    (permanent delegate : PluginKind) (act : Option Collection → Except Error Bool) : Prop where
  /-- An asset that names another collection refuses this one. -/
  named : ∀ named, asset.collection? = some named →
    act (some supplied) = .error (.collectionMismatch named supplied.address)
  /-- With the collection the principal may do no more than without it, unless the asset names no
  collection and takes over one of the two delegates. -/
  granted : act (some supplied) = .ok true →
    act none = .ok true ∨
      asset.collection? = none ∧
        (asset.TakesOver supplied principal permanent ∨
          asset.TakesOver supplied principal delegate)

theorem collection?_eq_some_iff {asset : Asset} {named : Address} :
    asset.collection? = some named ↔ asset.base.updateAuthority = .collection named := by
  rw [collection?, UpdateAuthority.collection?.eq_def]
  cases asset.base.updateAuthority <;> simp

/-- An answer is yes if nothing is refused and the law says so. -/
theorem canAct_eq_ok_true_iff {permanent delegate : PluginKind}
    (hpermanent : permanent ≠ .masterEdition) (hdelegate : delegate ≠ .masterEdition)
    {asset : Asset} {collection : Option Collection} {principal : Address} :
    canAct permanent delegate asset collection principal = .ok true ↔
      ¬ asset.Mismatched collection ∧
      (∀ supplied, collection = some supplied → ∀ program, ¬ asset.HasHookLink supplied program) ∧
      (asset.Holds collection principal permanent ∨
        ¬ asset.Frozen collection ∧
          (principal = asset.base.owner ∨ asset.Holds collection principal delegate)) := by
  have hlaw := canAct_law hpermanent hdelegate asset collection principal
  constructor
  · intro hyes
    have hmatch : ¬ asset.Mismatched collection := by
      rintro ⟨named, supplied, hnamed, hsupplied, hne⟩
      rw [hlaw.mismatch named supplied hnamed hsupplied hne] at hyes
      cases hyes
    have hlinks : ∀ supplied, collection = some supplied →
        ∀ program, ¬ asset.HasHookLink supplied program := by
      intro supplied hsupplied program hlink
      obtain ⟨_, _, hrefused⟩ := hlaw.unsupportedLink hmatch supplied hsupplied ⟨program, hlink⟩
      rw [hrefused] at hyes
      cases hyes
    obtain ⟨may, hmay, hiff⟩ := hlaw.decided hmatch hlinks
    exact ⟨hmatch, hlinks, hiff.mp (Except.ok.inj (hmay.symm.trans hyes))⟩
  · rintro ⟨hmatch, hlinks, hmay⟩
    obtain ⟨may, hanswer, hiff⟩ := hlaw.decided hmatch hlinks
    rw [hanswer, hiff.mpr hmay]

/-- Without a collection there is nothing to refuse. -/
theorem canAct_none_eq_ok_true_iff {permanent delegate : PluginKind}
    (hpermanent : permanent ≠ .masterEdition) (hdelegate : delegate ≠ .masterEdition)
    {asset : Asset} {principal : Address} :
    canAct permanent delegate asset none principal = .ok true ↔
      asset.Holds none principal permanent ∨
        ¬ asset.Frozen none ∧
          (principal = asset.base.owner ∨ asset.Holds none principal delegate) := by
  rw [canAct_eq_ok_true_iff hpermanent hdelegate]
  constructor
  · rintro ⟨_, _, hmay⟩
    exact hmay
  · intro hmay
    refine ⟨?_, ?_, hmay⟩
    · rintro ⟨_, _, _, hsupplied, _⟩
      cases hsupplied
    · intro supplied hsupplied
      cases hsupplied

section

variable {asset : Asset} {supplied : Collection} {principal : Address}

/-- Whom an authority means does not depend on the collection, if the asset names none. -/
theorem means_some_iff (hnone : asset.collection? = none) {authority : Authority} :
    asset.Means (some supplied) principal authority ↔ asset.Means none principal authority := by
  -- Only `collectionAuthority` looks at the collection, and it needs an asset that names one.
  constructor
  · intro h
    cases h with
    | owner howner => exact .owner howner
    | address => exact .address
    | updateAuthority hfixed => exact .updateAuthority hfixed
    | collectionAuthority hnamed _ _ =>
      rw [collection?_eq_some_iff.mpr hnamed] at hnone
      cases hnone
  · intro h
    cases h with
    | owner howner => exact .owner howner
    | address => exact .address
    | updateAuthority hfixed => exact .updateAuthority hfixed
    | collectionAuthority _ hsupplied _ => cases hsupplied

theorem effective?_none (kind : PluginKind) :
    asset.effective? none kind = asset.plugins.get? kind := by
  rw [effective?, Option.bind_none, Option.or_none]

/-- The collection's plugin counts only where the asset has none. -/
theorem effective?_some_of_own {kind : PluginKind} {attached : AttachedPlugin kind}
    (h : asset.plugins.get? kind = some attached) :
    asset.effective? (some supplied) kind = some attached := by
  rw [effective?, h, Option.some_or]

/-- A collection does not thaw an asset. -/
theorem frozen_some_of_none (h : asset.Frozen none) : asset.Frozen (some supplied) := by
  simp only [Frozen, effective?_none] at h
  refine h.imp ?_ ?_
  · rintro ⟨attached, hown, hfrozen⟩
    exact ⟨attached, effective?_some_of_own hown, hfrozen⟩
  · rintro ⟨attached, hown, hfrozen⟩
    exact ⟨attached, effective?_some_of_own hown, hfrozen⟩

/-- What a principal holds with the collection is held without it or taken over. -/
theorem holds_none_or_takesOver (hnone : asset.collection? = none) {kind : PluginKind}
    (h : asset.Holds (some supplied) principal kind) :
    asset.Holds none principal kind ∨ asset.TakesOver supplied principal kind := by
  obtain ⟨attached, heffective, hmeans⟩ := h
  have hmeans := (means_some_iff hnone).mp hmeans
  cases hown : asset.plugins.get? kind with
  | some own =>
    obtain rfl : own = attached :=
      Option.some.inj ((effective?_some_of_own hown).symm.trans heffective)
    exact .inl ⟨own, (effective?_none kind).trans hown, hmeans⟩
  | none =>
    rw [effective?, hown, Option.none_or] at heffective
    exact .inr ⟨hown, attached, heffective, hmeans⟩

/-- Actions obey the law, each with its own delegates. -/
theorem canAct_foreignLaw {permanent delegate : PluginKind}
    (hpermanent : permanent ≠ .masterEdition) (hdelegate : delegate ≠ .masterEdition)
    (hforeign : asset.collection? ≠ some supplied.address) :
    asset.ForeignLaw supplied principal permanent delegate
      (fun collection => canAct permanent delegate asset collection principal) where
  named := by
    intro named hnamed
    have hne : supplied.address ≠ named := by
      rintro rfl
      exact hforeign hnamed
    exact (canAct_law hpermanent hdelegate asset (some supplied) principal).mismatch named supplied
      (collection?_eq_some_iff.mp hnamed) rfl hne
  granted := by
    intro hyes
    obtain ⟨hmatch, _, hmay⟩ := (canAct_eq_ok_true_iff hpermanent hdelegate).mp hyes
    -- An asset that names a collection would have refused this one.
    have hnone : asset.collection? = none := by
      cases hnamed : asset.collection? with
      | none => rfl
      | some named =>
        refine absurd ⟨named, supplied, collection?_eq_some_iff.mp hnamed, rfl, ?_⟩ hmatch
        rintro rfl
        exact hforeign hnamed
    rw [canAct_none_eq_ok_true_iff hpermanent hdelegate]
    have hthaw (hthawed : ¬ asset.Frozen (some supplied)) : ¬ asset.Frozen none :=
      fun hfrozen => hthawed (frozen_some_of_none hfrozen)
    -- What the principal may do rests on the permanent delegate, on ownership or on the delegate.
    rcases hmay with hholds | ⟨hthawed, howner | hholds⟩
    · rcases holds_none_or_takesOver hnone hholds with hown | htaken
      · exact .inl (.inl hown)
      · exact .inr ⟨hnone, .inl htaken⟩
    · exact .inl (.inr ⟨hthaw hthawed, .inl howner⟩)
    · rcases holds_none_or_takesOver hnone hholds with hown | htaken
      · exact .inl (.inr ⟨hthaw hthawed, .inr hown⟩)
      · exact .inr ⟨hnone, .inr htaken⟩

end

/-- **Foreign collections.**  A collection that the asset does not belong to gives no right to
transfer or burn the asset, except that an asset that names no collection takes over delegates. -/
theorem canTransfer_canBurn_foreignLaw (asset : Asset) (supplied : Collection) (principal : Address)
    (hforeign : asset.collection? ≠ some supplied.address) :
    asset.ForeignLaw supplied principal .permanentTransferDelegate .transferDelegate
        (fun collection => asset.canTransfer collection principal) ∧
      asset.ForeignLaw supplied principal .permanentBurnDelegate .burnDelegate
        (fun collection => asset.canBurn collection principal) :=
  ⟨canAct_foreignLaw (by decide) (by decide) hforeign,
    canAct_foreignLaw (by decide) (by decide) hforeign⟩

/-! ## A collection with permanent delegates -/

/-- Somebody who has nothing to do with the assets below. -/
def stranger : Address := .ofPrefix [1]

/-- An asset without plugins. -/
def bare (updateAuthority : UpdateAuthority) : Asset where
  address := .zero
  base := .placeholder .zero updateAuthority
  extension := .empty

/-- A collection of the stranger, who holds its two permanent delegates. -/
def strangersCollection : Collection where
  address := .ofPrefix [2]
  base := .placeholder stranger
  extension :=
    { header := none
      plugins :=
        (PluginSlots.empty.insert (.address stranger) 0 .permanentTransferDelegate).insert
          (.address stranger) 0 .permanentBurnDelegate
      adapters := .empty }

/-- The stranger may burn an asset that names no collection, having taken over the permanent delegate,
and is refused by an asset that names another collection. -/
theorem foreignLaw_bare :
    (bare .none).collection? ≠ some strangersCollection.address ∧
      (bare .none).canBurn (some strangersCollection) stranger = .ok true ∧
      (bare .none).TakesOver strangersCollection stranger .permanentBurnDelegate ∧
      (bare (.collection .zero)).collection? ≠ some strangersCollection.address ∧
      (bare (.collection .zero)).canBurn (some strangersCollection) stranger =
        .error (.collectionMismatch .zero strangersCollection.address) := by
  have hforeign : (bare .none).collection? ≠ some strangersCollection.address := by decide
  have hother : (bare (.collection .zero)).collection? ≠ some strangersCollection.address := by
    decide
  have hmay : (bare .none).canBurn (some strangersCollection) stranger = .ok true := by decide
  have hwithout : (bare .none).canBurn none stranger = .ok false := by decide
  have hrefused := (canTransfer_canBurn_foreignLaw _ _ stranger hother).2.named .zero rfl
  refine ⟨hforeign, hmay, ?_, hother, hrefused⟩
  rcases (canTransfer_canBurn_foreignLaw _ _ stranger hforeign).2.granted hmay with
    hyes | ⟨_, htaken | ⟨_, _, hslot, _⟩⟩
  · cases hyes.symm.trans hwithout
  · exact htaken
  · cases hslot

/-- An asset that names no collection does give rights to the delegates of a foreign one. -/
theorem not_canTransfer_canBurn_of_foreign :
    ¬ ∀ (principal : Address) (asset : Asset) (supplied : Collection),
      asset.collection? ≠ some supplied.address →
      (asset.canTransfer (some supplied) principal = .ok true →
        asset.canTransfer none principal = .ok true) ∧
      (asset.canBurn (some supplied) principal = .ok true →
        asset.canBurn none principal = .ok true) := by
  intro hclaim
  have hforeign : (bare .none).collection? ≠ some strangersCollection.address := by decide
  have hwith : (bare .none).canTransfer (some strangersCollection) stranger = .ok true := by decide
  have hwithout : (bare .none).canTransfer none stranger = .ok false := by decide
  have hyes := (hclaim stranger (bare .none) strangersCollection hforeign).1 hwith
  cases hyes.symm.trans hwithout

/-! ## Updating -/

/-- Who may update an asset that names a collection, and what becomes of the plugins under its update
authority, when `supplied` is given as the collection. -/
structure UpdateLaw (asset : Asset) (named : Address) (supplied : Collection) (principal : Address) :
    Prop where
  /-- Without a collection nobody may. -/
  alone : asset.canUpdate none principal = false
  /-- With a collection its update authority may, whatever its address. -/
  update : asset.canUpdate (some supplied) principal = true ↔
    supplied.base.updateAuthority = principal
  /-- So it is with a plugin authority that stands for the update authority. -/
  matched : asset.authorityMatches (some supplied) principal .updateAuthority = true ↔
    supplied.base.updateAuthority = principal
  /-- The functions that derive the asset refuse another collection than the one named. -/
  refused : supplied.address ≠ named →
    (∀ kinds, asset.pluginAuthorities (some supplied) principal kinds =
      .error (.collectionMismatch named supplied.address)) ∧
    asset.canTransfer (some supplied) principal =
      .error (.collectionMismatch named supplied.address) ∧
    asset.canBurn (some supplied) principal = .error (.collectionMismatch named supplied.address)
  /-- There a plugin under the update authority is matched only by that of the collection named. -/
  checked : ∀ derived kinds flags, asset.derive (some supplied) = .ok derived →
    asset.pluginAuthorities (some supplied) principal kinds = .ok flags →
    ∀ kind (position : Nat), derived.plugins.authority? kind = some .updateAuthority →
      kinds[position]? = some kind → flags[position]? = some true →
      supplied.address = named ∧ supplied.base.updateAuthority = principal

section

variable {asset : Asset} {named : Address} {supplied : Collection} {principal : Address}

/-- The update authority of an asset in a collection is that of the collection supplied. -/
theorem hasUpdateAuthority_iff (hnamed : asset.base.updateAuthority = .collection named) :
    asset.hasUpdateAuthority (some supplied) principal = true ↔
      supplied.base.updateAuthority = principal := by
  rw [hasUpdateAuthority.eq_def, hnamed]
  exact decide_eq_true_iff

theorem checkedDerive_of_mismatch (hnamed : asset.base.updateAuthority = .collection named)
    (hne : supplied.address ≠ named) :
    asset.checkedDerive (some supplied) = .error (.collectionMismatch named supplied.address) := by
  rw [checkedDerive, ensureCollection_of_mismatch hnamed hne]

/-- What is derived without a refusal is derived from the collection named. -/
theorem address_of_checkedDerive {derived : Asset}
    (hnamed : asset.base.updateAuthority = .collection named)
    (h : asset.checkedDerive (some supplied) = .ok derived) : supplied.address = named := by
  by_contra hne
  rw [checkedDerive_of_mismatch hnamed hne] at h
  cases h

/-- The check does not change what is derived. -/
theorem derive_of_checkedDerive {collection : Option Collection} {derived : Asset}
    (h : asset.checkedDerive collection = .ok derived) : asset.derive collection = .ok derived := by
  rw [checkedDerive] at h
  split at h
  · cases h
  · exact h

end

/-- **Updating.**  For an asset in a collection, the right to update it goes with the update authority
of whatever collection is supplied.  Only the functions that derive the asset insist on the one that
it names. -/
theorem canUpdate_updateLaw (asset : Asset) (named : Address) (supplied : Collection)
    (principal : Address) (hnamed : asset.base.updateAuthority = .collection named) :
    asset.UpdateLaw named supplied principal where
  alone := by rw [canUpdate, hasUpdateAuthority.eq_def, hnamed]
  update := hasUpdateAuthority_iff hnamed
  matched := hasUpdateAuthority_iff hnamed
  refused := by
    intro hne
    have hderive := checkedDerive_of_mismatch hnamed hne
    refine ⟨?_, ?_, ?_⟩
    · intro kinds
      rw [pluginAuthorities, hderive, Except.map]
    · rw [canTransfer, canAct, hderive, Except.map]
    · rw [canBurn, canAct, hderive, Except.map]
  checked := by
    intro derived kinds flags hderived hflags kind position hauthority hkind hflag
    obtain ⟨same, hsame, rfl⟩ := Traversal.map_eq_ok_iff.mp hflags
    obtain rfl : same = derived :=
      Except.ok.inj ((derive_of_checkedDerive hsame).symm.trans hderived)
    rw [List.getElem?_map, hkind, Option.map_some, Option.some.injEq, holds, hauthority] at hflag
    exact ⟨address_of_checkedDerive hnamed hsame, (hasUpdateAuthority_iff hnamed).mp hflag⟩

/-- Given the stranger's collection, the stranger may update an asset in another one, but is refused
where plugins are looked up. -/
theorem updateLaw_bare :
    (bare (.collection .zero)).base.updateAuthority = .collection .zero ∧
      strangersCollection.address ≠ .zero ∧
      (bare (.collection .zero)).canUpdate (some strangersCollection) stranger = true ∧
      (bare (.collection .zero)).pluginAuthorities (some strangersCollection) stranger
          [.permanentBurnDelegate] =
        .error (.collectionMismatch .zero strangersCollection.address) := by
  have hlaw : (bare (.collection .zero)).UpdateLaw .zero strangersCollection stranger :=
    canUpdate_updateLaw (bare (.collection .zero)) .zero strangersCollection stranger rfl
  have hforeign : strangersCollection.address ≠ .zero := by decide
  exact ⟨rfl, hforeign, hlaw.update.mpr rfl, (hlaw.refused hforeign).1 [.permanentBurnDelegate]⟩

/-- The right to update does not need the collection that the asset names. -/
theorem not_canUpdate_only_named :
    ¬ ∀ (principal : Address) (asset : Asset) (named : Address) (supplied : Collection),
      asset.base.updateAuthority = .collection named →
      (asset.canUpdate (some supplied) principal = true →
        supplied.address = named ∧ supplied.base.updateAuthority = principal) ∧
      (asset.authorityMatches (some supplied) principal .updateAuthority = true →
        supplied.address = named ∧ supplied.base.updateAuthority = principal) := by
  intro hclaim
  have hmay : (bare (.collection .zero)).canUpdate (some strangersCollection) stranger = true := by
    decide
  have hsame := ((hclaim stranger (bare (.collection .zero)) .zero strangersCollection rfl).1 hmay).1
  exact absurd hsame (by decide)

end DigitalAsset.Asset
