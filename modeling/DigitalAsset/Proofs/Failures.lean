import DigitalAsset.Proofs.Account.Failures
import DigitalAsset.Proofs.Permission.Agreement
import DigitalAsset.Proofs.Resolution.Refusals

/-!
# Which operation fails with what

Every operation on accounts has a few errors of its own.  `failureLaw` says which they are, for all
buffers, settings, assets, collections and descriptions, and for every search for program addresses.
The two errors that end nothing, an unknown registry entry and a schema that is not read, are among
the errors of no operation; whatever is raised is fatal.
-/

namespace DigitalAsset

open Traversal

/-! ## Errors -/

namespace Error

/-- The errors of deriving an asset. -/
inductive OfDerivation (asset : Asset) (collection : Option Collection) : Error → Prop
  /-- A data section of the asset or of its collection belongs to a hook. -/
  | unsupportedLink {supplied : Collection} {program : Address} :
      collection = some supplied → asset.HasHookLink supplied program →
      OfDerivation asset collection (.unsupportedLink program)

/-- The errors of asking what may be done with an asset. -/
inductive OfPermission (asset : Asset) (collection : Option Collection) : Error → Prop
  /-- The asset names another collection. -/
  | collectionMismatch {named : Address} {supplied : Collection} :
      asset.base.updateAuthority = .collection named → collection = some supplied →
      supplied.address ≠ named →
      OfPermission asset collection (.collectionMismatch named supplied.address)
  /-- A data section of the asset or of its collection belongs to a hook. -/
  | unsupportedLink {supplied : Collection} {program : Address} :
      collection = some supplied → asset.HasHookLink supplied program →
      OfPermission asset collection (.unsupportedLink program)

/-- The errors of resolving extra accounts. -/
inductive OfResolution : Error → Prop
  /-- Some seeds have no program address. -/
  | invalidSeeds (program : Address) (count : Nat) :
      OfResolution (.invalidSeeds program (.noBump count))
  /-- Inputs are missing, at least one, and each is named once. -/
  | missingRequiredInput {inputs : List String} :
      inputs ≠ [] → inputs.Nodup → OfResolution (.missingRequiredInput inputs)

variable {asset : Asset} {collection : Option Collection} {e : Error}

theorem OfDerivation.ofPermission (h : e.OfDerivation asset collection) :
    e.OfPermission asset collection := by
  cases h with
  | unsupportedLink hsupplied hlink => exact .unsupportedLink hsupplied hlink

theorem OfPermission.isFatal (h : e.OfPermission asset collection) : e.isFatal = true := by
  cases h <;> rfl

theorem OfResolution.isFatal (h : e.OfResolution) : e.isFatal = true := by
  cases h <;> rfl

/-- Without a collection nothing is refused. -/
theorem not_ofPermission_none : ¬ e.OfPermission asset none := by
  rintro (⟨_, hsupplied, _⟩ | ⟨hsupplied, _⟩) <;> cases hsupplied

/-- Some operation fails with the error. -/
inductive Raised (find : AddressSearch) : Error → Prop
  | decodeAsset {settings : Settings} {address : Address} {data : Bytes} {e : Error} :
      Asset.decode settings address data = .error e → Raised find e
  | decodeCollection {settings : Settings} {address : Address} {data : Bytes} {e : Error} :
      Collection.decode settings address data = .error e → Raised find e
  | derive {asset : Asset} {collection : Option Collection} {e : Error} :
      asset.derive collection = .error e → Raised find e
  | pluginAuthorities {asset : Asset} {collection : Option Collection} {principal : Address}
      {kinds : List PluginKind} {e : Error} :
      asset.pluginAuthorities collection principal kinds = .error e → Raised find e
  | canTransfer {asset : Asset} {collection : Option Collection} {principal : Address} {e : Error} :
      asset.canTransfer collection principal = .error e → Raised find e
  | canBurn {asset : Asset} {collection : Option Collection} {principal : Address} {e : Error} :
      asset.canBurn collection principal = .error e → Raised find e
  | isFrozen {asset : Asset} {collection : Option Collection} {e : Error} :
      asset.isFrozen collection = .error e → Raised find e
  | resolveExtraAccount {description : ExtraAccount} {program : Address} {inputs : Inputs}
      {e : Error} :
      resolveExtraAccount find description program inputs = .error e → Raised find e
  | resolveLifecycle {event : Event} {table : AdapterTable} {inputs : Inputs} {e : Error} :
      resolveLifecycle find event table inputs = .error e → Raised find e

end Error

/-! ## The law -/

/-- The errors of each operation, with a search for program addresses. -/
structure FailureLaw (find : AddressSearch) : Prop where
  decodeAsset : ∀ settings address data,
    FailsOnly (Error.OfAccount settings.duplicatePlugins .asset)
      (Asset.decode settings address data)
  decodeCollection : ∀ settings address data,
    FailsOnly (Error.OfAccount settings.duplicatePlugins .collection)
      (Collection.decode settings address data)
  derive : ∀ (asset : Asset) collection,
    FailsOnly (Error.OfDerivation asset collection) (asset.derive collection)
  pluginAuthorities : ∀ (asset : Asset) collection principal kinds,
    FailsOnly (Error.OfPermission asset collection)
      (asset.pluginAuthorities collection principal kinds)
  canTransfer : ∀ (asset : Asset) collection principal,
    FailsOnly (Error.OfPermission asset collection) (asset.canTransfer collection principal)
  canBurn : ∀ (asset : Asset) collection principal,
    FailsOnly (Error.OfPermission asset collection) (asset.canBurn collection principal)
  isFrozen : ∀ (asset : Asset) collection,
    FailsOnly (Error.OfPermission asset collection) (asset.isFrozen collection)
  /-- Without a collection all questions about an asset are answered. -/
  withoutCollection : ∀ (asset : Asset) principal kinds,
    (∃ derived, asset.derive none = .ok derived) ∧
    (∃ held, asset.pluginAuthorities none principal kinds = .ok held) ∧
    (∃ may, asset.canTransfer none principal = .ok may) ∧
    (∃ may, asset.canBurn none principal = .ok may) ∧
    ∃ frozen, asset.isFrozen none = .ok frozen
  resolveExtraAccount : ∀ description program inputs,
    FailsOnly Error.OfResolution (resolveExtraAccount find description program inputs)
  resolveLifecycle : ∀ event table inputs,
    FailsOnly Error.OfResolution (resolveLifecycle find event table inputs)
  /-- Unknown entries and unread schemas are never raised. -/
  fatal : ∀ e, Error.Raised find e → e.isFatal = true

/-! ## Derivation and permissions -/

namespace Asset

theorem failsOnly_derive (asset : Asset) (collection : Option Collection) :
    FailsOnly (Error.OfDerivation asset collection) (asset.derive collection) := by
  cases collection with
  | none => exact .ok asset
  | some supplied =>
    rw [derive_some]
    cases hfirst : asset.hookLink? supplied with
    | none => exact .ok _
    | some program => exact .error (.unsupportedLink rfl (hasHookLink_of_hookLink? hfirst))

/-- The collection is refused before it is looked into. -/
theorem failsOnly_checkedDerive (asset : Asset) (collection : Option Collection) :
    FailsOnly (Error.OfPermission asset collection) (asset.checkedDerive collection) := by
  by_cases hmatch : asset.Mismatched collection
  · obtain ⟨named, supplied, hnamed, rfl, hne⟩ := hmatch
    rw [checkedDerive_of_mismatch hnamed hne]
    exact .error (.collectionMismatch hnamed rfl hne)
  · rw [checkedDerive_of_not_mismatched hmatch]
    exact (failsOnly_derive asset collection).imp fun _ => Error.OfDerivation.ofPermission

theorem failsOnly_pluginAuthorities (asset : Asset) (collection : Option Collection)
    (principal : Address) (kinds : List PluginKind) :
    FailsOnly (Error.OfPermission asset collection)
      (asset.pluginAuthorities collection principal kinds) :=
  (failsOnly_checkedDerive asset collection).map

theorem failsOnly_canAct (permanent delegate : PluginKind) (asset : Asset)
    (collection : Option Collection) (principal : Address) :
    FailsOnly (Error.OfPermission asset collection)
      (canAct permanent delegate asset collection principal) :=
  (failsOnly_checkedDerive asset collection).map

theorem failsOnly_isFrozen (asset : Asset) (collection : Option Collection) :
    FailsOnly (Error.OfPermission asset collection) (asset.isFrozen collection) :=
  ((failsOnly_derive asset collection).imp fun _ => Error.OfDerivation.ofPermission).map

/-- What can only be refused with a collection is answered without one. -/
theorem exists_ok_of_none {asset : Asset} {x : Except Error α}
    (h : FailsOnly (Error.OfPermission asset none) x) : ∃ a, x = .ok a := by
  cases x with
  | error e => exact absurd (h e rfl) Error.not_ofPermission_none
  | ok a => exact ⟨a, rfl⟩

end Asset

/-! ## Resolution -/

section

variable (find : AddressSearch) (inputs : Inputs)

theorem ofResolution_missingError {missing : List WellKnown} (h : missing ≠ []) :
    (missingError missing).OfResolution := by
  apply Error.OfResolution.missingRequiredInput
  · obtain ⟨first, rest, rfl⟩ := List.exists_cons_of_ne_nil h
    simp [List.eraseDups_cons]
  · exact (nodup_eraseDups missing).map fun _ _ => WellKnown.name_injective

theorem failsOnly_resolveExtraAccount (description : ExtraAccount) (program : Address) :
    FailsOnly Error.OfResolution (resolveExtraAccount find description program inputs) := by
  rw [resolveExtraAccount]
  rcases description.resolve_cases find inputs program with
    ⟨account, _, hresolve⟩ | ⟨hlacks, hresolve⟩ | ⟨seeds, under, _, _, hresolve⟩
  · rw [hresolve]
    exact .ok account
  · rw [hresolve]
    exact .error (ofResolution_missingError hlacks)
  · rw [hresolve]
    exact .error (.invalidSeeds under seeds.length)

theorem failsOnly_collectAnswers (resolutions : List (Resolution α)) :
    FailsOnly Error.OfResolution (collectAnswers resolutions) := by
  rw [collectAnswers]
  split
  · exact .ok _
  · rename_i hmissing
    exact .error (ofResolution_missingError (by simpa using hmissing))

theorem failsOnly_resolveRequests (requests : List Request) :
    FailsOnly Error.OfResolution (resolveRequests find inputs requests) := by
  rw [resolveRequests]
  split
  · rename_i e hfails
    -- Missing inputs are no failure of a single request yet.
    obtain ⟨program, count, rfl⟩ := FailsOnly.mapM Request.failsOnly_invalidSeeds requests e hfails
    exact .error (.invalidSeeds program count)
  · exact failsOnly_collectAnswers _

end

/-! ## All operations -/

/-- What is raised belongs to some operation, and the errors of all operations are fatal. -/
theorem Error.Raised.isFatal {find : AddressSearch} {e : Error} (h : e.Raised find) :
    e.isFatal = true := by
  cases h with
  | decodeAsset h =>
    exact (Account.failsOnly_decode AssetBase.marked_reader _ _ _ e h).isFatal
  | decodeCollection h =>
    exact (Account.failsOnly_decode CollectionBase.marked_reader _ _ _ e h).isFatal
  | derive h => exact (Asset.failsOnly_derive _ _ e h).ofPermission.isFatal
  | pluginAuthorities h => exact (Asset.failsOnly_pluginAuthorities _ _ _ _ e h).isFatal
  | canTransfer h => exact (Asset.failsOnly_canAct _ _ _ _ _ e h).isFatal
  | canBurn h => exact (Asset.failsOnly_canAct _ _ _ _ _ e h).isFatal
  | isFrozen h => exact (Asset.failsOnly_isFrozen _ _ e h).isFatal
  | resolveExtraAccount h => exact (failsOnly_resolveExtraAccount find _ _ _ e h).isFatal
  | resolveLifecycle h => exact (failsOnly_resolveRequests find _ _ e h).isFatal

/-- **Failures.**  Each operation fails with errors of its own only, and all of these are fatal. -/
theorem failureLaw (find : AddressSearch) : FailureLaw find where
  decodeAsset := Account.failsOnly_decode AssetBase.marked_reader
  decodeCollection := Account.failsOnly_decode CollectionBase.marked_reader
  derive := Asset.failsOnly_derive
  pluginAuthorities := Asset.failsOnly_pluginAuthorities
  canTransfer := Asset.failsOnly_canAct _ _
  canBurn := Asset.failsOnly_canAct _ _
  isFrozen := Asset.failsOnly_isFrozen
  withoutCollection := by
    intro asset principal kinds
    refine ⟨⟨asset, rfl⟩, ?_, ?_, ?_, ?_⟩
    · exact Asset.exists_ok_of_none (asset.failsOnly_pluginAuthorities none principal kinds)
    · exact Asset.exists_ok_of_none (Asset.failsOnly_canAct _ _ asset none principal)
    · exact Asset.exists_ok_of_none (Asset.failsOnly_canAct _ _ asset none principal)
    · exact Asset.exists_ok_of_none (asset.failsOnly_isFrozen none)
  resolveExtraAccount := fun description program inputs =>
    failsOnly_resolveExtraAccount find inputs description program
  resolveLifecycle := fun event table inputs =>
    failsOnly_resolveRequests find inputs (table.requests event)
  fatal := fun _ h => h.isFatal

/-- A collection is no asset. -/
example : Asset.decode {} .zero [5] = .error (.unexpectedKey .asset 5) := rfl

end DigitalAsset
