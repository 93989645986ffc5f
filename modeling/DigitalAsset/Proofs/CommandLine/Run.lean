import DigitalAsset.Proofs.Account.Strictness
import DigitalAsset.Proofs.CommandLine.AccountFile
import DigitalAsset.Proofs.CommandLine.Summary
import DigitalAsset.Proofs.Failures

/-!
# What a run answers

A run supplies the addresses and inputs that the functions on accounts ask for, and derives the asset
more than once: for the summary, and again in every question about a principal.  Once its options are
read, its accounts decoded and its asset derived (`Prepared`), two things can still go wrong, and
`AnswerLaw` says when they do and what is printed otherwise.
-/

namespace DigitalAsset.CommandLine

open Traversal

/-! ## The law -/

/-- The error of an operation on accounts that a failure goes back to. -/
def Failure.error? : Failure → Option Error
  | settingsFile _ _ => none
  | settings _ => none
  | unreadable _ _ => none
  | notBase64 _ _ => none
  | notHex _ _ => none
  | asset _ error => some error
  | collection _ error => some error
  | derivation error => some error
  | resolution _ error => some error
  | permissions error => some error

/-- The run has its options and settings, and with them its accounts and the derived asset. -/
structure Prepared (env : Environment) (source : File.Source) (arguments : List String)
    (options : Options) (asset : Asset) (collection : Option Collection) (derived : Asset) :
    Prop where
  parsed : Options.parse env arguments = .ok options
  loaded : ∃ settings, loadSettings env source options = .ok settings ∧
    loadAsset settings source options = .ok asset ∧
    loadCollection settings source options asset = .ok collection
  derived : asset.derive collection = .ok derived

/-- The failures of a run that is prepared. -/
inductive Failure.OfAnswers (find : AddressSearch) (options : Options) (asset : Asset)
    (collection : Option Collection) (derived : Asset) : Failure → Prop
  /-- The event that was asked for is not resolved. -/
  | resolution {event : Event} {e : Error} :
      options.event = some event →
      resolveLifecycle find event derived.adapters (resolutionInputs options asset collection) =
        .error e →
      OfAnswers find options asset collection derived (.resolution event e)
  /-- A principal was asked for, and the collection was given an address that is not the one that the
  asset names. -/
  | collectionMismatch {named : Address} {supplied : Collection} :
      options.principal.isSome → options.collectionAddress = some supplied.address →
      asset.base.updateAuthority = .collection named → collection = some supplied →
      supplied.address ≠ named →
      OfAnswers find options asset collection derived
        (.permissions (.collectionMismatch named supplied.address))

/-- What the inputs that a run lacks can be. -/
structure LackingLaw (options : Options) (asset : Asset) (names : List String) : Prop where
  notAsset : "asset" ∉ names
  notOwner : "owner" ∉ names
  collection : "collection" ∈ names →
    options.collection = none ∧ ∀ named, asset.base.updateAuthority ≠ .collection named
  recipient : "recipient" ∈ names → options.recipient = none

/-- The permissions are what the questions about a principal answer, one by one. -/
structure PermissionsLaw (asset : Asset) (collection : Option Collection) (derived : Asset)
    (principal : Address) (p : Permissions) : Prop where
  principal_eq : p.principal = principal
  canTransfer : asset.canTransfer collection principal = .ok p.canTransfer
  canBurn : asset.canBurn collection principal = .ok p.canBurn
  canUpdate : asset.canUpdate collection principal = p.canUpdate
  pluginAuthority : p.pluginAuthority =
    derived.plugins.kinds.map fun kind => (kind, asset.holds collection derived principal kind)

/-- What the map of plugin authorities says about a principal, `members` being its entries, and how it
goes with the permissions. -/
structure MembersLaw (asset : Asset) (collection : Option Collection) (derived : Asset)
    (principal : Address) (p : Permissions) (members : List (String × Json)) : Prop where
  /-- No name stands twice in the map. -/
  ascending : Json.Ascending members
  /-- There are as many entries as plugins of the derived asset. -/
  length : members.length = derived.plugins.size
  /-- Each of these plugins has an entry, with the answer to the question about it alone. -/
  mem_iff : ∀ name value, (name, value) ∈ members ↔
    ∃ kind held, (derived.plugins.get? kind).isSome ∧
      asset.pluginAuthorities collection principal [kind] = .ok [held] ∧
      name = kind.keyName ∧ value = .bool held
  /-- The permanent delegates may act. -/
  permanentTransfer : ("permanentTransferDelegate", .bool true) ∈ members → p.canTransfer = true
  permanentBurn : ("permanentBurnDelegate", .bool true) ∈ members → p.canBurn = true
  /-- The plugins of the update authority are held by whoever may update the asset. -/
  update : ∀ kind, derived.plugins.authority? kind = some .updateAuthority →
    ((kind.keyName, .bool true) ∈ members ↔ p.canUpdate = true)

/-- How a run ends that is prepared. -/
structure AnswerLaw (find : AddressSearch) (options : Options) (asset : Asset)
    (collection : Option Collection) (derived : Asset) (ending : Ending) : Prop where
  ends : (∃ summary, ending = .printed summary) ∨ ∃ failure, ending = .failed failure
  failed : ∀ failure, ending = .failed failure →
    failure.OfAnswers find options asset collection derived
  /-- A collection is refused only for an address that was given. -/
  matched : options.collectionAddress = none → ∀ failure, ending = .failed failure →
    ∀ named supplied, failure.error? ≠ some (.collectionMismatch named supplied)
  /-- Inputs are lacking only for an event, and only those that there is no way to know. -/
  lacking : ∀ failure, ending = .failed failure →
    ∀ names, failure.error? = some (.missingRequiredInput names) →
      options.event.isSome ∧ LackingLaw options asset names
  /-- The event resolved and the collection not refused, there is a summary. -/
  prints : (∀ event, options.event = some event → ∃ accounts,
      resolveLifecycle find event derived.adapters (resolutionInputs options asset collection) =
        .ok accounts) →
    (options.principal.isSome → ¬ asset.Mismatched collection) →
    ∃ summary, ending = .printed summary
  /-- It shows the derived asset, and answers what was asked. -/
  printed : ∀ summary, ending = .printed summary →
    summary.asset = derived ∧ summary.collection = collection ∧
    (∀ event, options.event = some event → ∃ accounts, summary.extraAccounts = some accounts ∧
      resolveLifecycle find event derived.adapters (resolutionInputs options asset collection) =
        .ok accounts) ∧
    ∀ principal, options.principal = some principal →
      ∃ p members, summary.permissions = some p ∧
        summary.pluginAuthority? = some (.object members) ∧
        PermissionsLaw asset collection derived principal p ∧
        MembersLaw asset collection derived principal p members

/-! ## Addresses -/

section

variable {options : Options} {asset : Asset} {collection : Option Collection}
  (haddress : collection.map (·.address) =
    options.collection.map fun _ => collectionAddress options asset)

include haddress

/-- The address that the asset names is the last resort, so another one has been given. -/
theorem collectionAddress_of_mismatched {named : Address} {supplied : Collection}
    (hnamed : asset.base.updateAuthority = .collection named) (hsupplied : collection = some supplied)
    (hne : supplied.address ≠ named) : options.collectionAddress = some supplied.address := by
  rw [hsupplied, Option.map_some, eq_comm, Option.map_eq_some_iff] at haddress
  obtain ⟨_, _, haddress⟩ := haddress
  rw [collectionAddress, Asset.collection?_eq_some_iff.mpr hnamed] at haddress
  cases hgiven : options.collectionAddress with
  | none =>
    rw [hgiven] at haddress
    exact absurd haddress.symm hne
  | some given =>
    rw [hgiven] at haddress
    exact congrArg some haddress

/-- What a resolution is not supplied with. -/
theorem lackingLaw_of_absent {names : List String}
    (h : ∀ name ∈ names, ∃ w : WellKnown, name = w.name ∧
      (resolutionInputs options asset collection).get? w = none) :
    LackingLaw options asset names := by
  have habsent {w : WellKnown} (hw : w.name ∈ names) :
      (resolutionInputs options asset collection).get? w = none := by
    obtain ⟨other, hname, hnone⟩ := h _ hw
    exact WellKnown.name_injective hname ▸ hnone
  -- The first two are always supplied, from the asset itself.
  refine ⟨?_, ?_, ?_, ?_⟩
  · intro hasset
    cases habsent (w := .asset) hasset
  · intro howner
    cases habsent (w := .owner) howner
  · intro hcollection
    have hnone := habsent (w := .collection) hcollection
    obtain ⟨hloaded, hnamed⟩ := Option.or_eq_none_iff.mp hnone
    refine ⟨?_, ?_⟩
    · rwa [haddress, Option.map_eq_none_iff] at hloaded
    · intro named hauthority
      cases hnamed.symm.trans (Asset.collection?_eq_some_iff.mpr hauthority)
  · intro hrecipient
    exact habsent (w := .recipient) hrecipient

end

/-! ## Permissions -/

section

variable {asset derived : Asset} {collection : Option Collection} {principal : Address}

/-- Plugins are looked up in the asset that is printed. -/
theorem pluginAuthorities_of_checkedDerive (hchecked : asset.checkedDerive collection = .ok derived)
    (kinds : List PluginKind) :
    asset.pluginAuthorities collection principal kinds =
      .ok (kinds.map (asset.holds collection derived principal)) :=
  map_eq_ok_iff.mpr ⟨derived, hchecked, rfl⟩

/-- All questions about a principal are answered under a collection that is not refused. -/
theorem permissionsOf_of_checkedDerive (hchecked : asset.checkedDerive collection = .ok derived)
    (principal : Address) :
    ∃ p, permissionsOf asset collection derived principal = .ok p ∧
      PermissionsLaw asset collection derived principal p := by
  obtain ⟨mayTransfer, htransfer⟩ : ∃ may, asset.canTransfer collection principal = .ok may :=
    ⟨_, map_eq_ok_iff.mpr ⟨derived, hchecked, rfl⟩⟩
  obtain ⟨mayBurn, hburn⟩ : ∃ may, asset.canBurn collection principal = .ok may :=
    ⟨_, map_eq_ok_iff.mpr ⟨derived, hchecked, rfl⟩⟩
  refine ⟨_, by
    rw [permissionsOf, pluginAuthorities_of_checkedDerive hchecked, htransfer, hburn]
    rfl, ?_⟩
  exact ⟨rfl, htransfer, hburn, rfl, List.map_prod_left_eq_zip.symm⟩

/-- The asset being derived already, asking about a principal can only fail because the collection is
refused. -/
theorem permissionsOf_cases (hderived : asset.derive collection = .ok derived)
    (principal : Address) :
    (∃ named supplied, asset.base.updateAuthority = .collection named ∧
      collection = some supplied ∧ supplied.address ≠ named ∧
      permissionsOf asset collection derived principal =
        .error (.collectionMismatch named supplied.address)) ∨
    asset.checkedDerive collection = .ok derived ∧
      ∃ p, permissionsOf asset collection derived principal = .ok p ∧
        PermissionsLaw asset collection derived principal p := by
  by_cases hmatch : asset.Mismatched collection
  · obtain ⟨named, supplied, hnamed, rfl, hne⟩ := hmatch
    refine .inl ⟨named, supplied, hnamed, rfl, hne, ?_⟩
    rw [permissionsOf, Asset.pluginAuthorities_eq_error_iff.mpr
      (Asset.checkedDerive_of_mismatch hnamed hne)]
    rfl
  · have hchecked := (Asset.checkedDerive_of_not_mismatched hmatch).trans hderived
    exact .inr ⟨hchecked, permissionsOf_of_checkedDerive hchecked principal⟩

namespace PermissionsLaw

variable {p : Permissions} (h : PermissionsLaw asset collection derived principal p)

include h

/-- The entries of the map are those of the plugins of the derived asset, in another order. -/
theorem members_perm :
    p.members.Perm (derived.plugins.kinds.map fun kind =>
      (kind.keyName, .bool (asset.holds collection derived principal kind))) := by
  rw [Permissions.members, h.pluginAuthority, List.map_map]
  refine sortedMembers_perm ?_
  rw [List.map_map]
  exact derived.plugins.nodup_kinds.map PluginKind.keyName_injective

theorem mem_members_iff {name : String} {value : Json} :
    (name, value) ∈ p.members ↔
      ∃ kind, (derived.plugins.get? kind).isSome ∧ name = kind.keyName ∧
        value = .bool (asset.holds collection derived principal kind) := by
  rw [h.members_perm.mem_iff, List.mem_map]
  constructor
  · rintro ⟨kind, hkind, hmember⟩
    cases hmember
    exact ⟨kind, PluginSlots.mem_kinds.mp hkind, rfl, rfl⟩
  · rintro ⟨kind, hkind, rfl, rfl⟩
    exact ⟨kind, PluginSlots.mem_kinds.mpr hkind, rfl⟩

/-- The entry of one plugin. -/
theorem keyName_mem_members_iff (kind : PluginKind) {held : Bool} :
    (kind.keyName, .bool held) ∈ p.members ↔
      (derived.plugins.get? kind).isSome ∧
        asset.holds collection derived principal kind = held := by
  rw [h.mem_members_iff]
  constructor
  · rintro ⟨other, hother, hname, hheld⟩
    cases PluginKind.keyName_injective hname
    exact ⟨hother, (Json.bool.inj hheld).symm⟩
  · rintro ⟨hkind, rfl⟩
    exact ⟨kind, hkind, rfl, rfl⟩

/-- The holder of the permanent delegate may act, frozen or not. -/
theorem canAct_of_mem_members (hchecked : asset.checkedDerive collection = .ok derived)
    {permanent delegate : PluginKind} (hmem : (permanent.keyName, .bool true) ∈ p.members) :
    Asset.canAct permanent delegate asset collection principal = .ok true := by
  have hheld := ((h.keyName_mem_members_iff permanent).mp hmem).2
  refine map_eq_ok_iff.mpr ⟨derived, hchecked, ?_⟩
  rw [hheld, Bool.true_or]

theorem membersLaw (hchecked : asset.checkedDerive collection = .ok derived) :
    MembersLaw asset collection derived principal p p.members where
  ascending := ascending_sortedMembers _
  length := by rw [h.members_perm.length_eq, List.length_map, PluginSlots.size]
  mem_iff := by
    intro name value
    rw [h.mem_members_iff]
    simp only [pluginAuthorities_of_checkedDerive hchecked, List.map_cons, List.map_nil]
    constructor
    · rintro ⟨kind, hkind, hname, hvalue⟩
      exact ⟨kind, _, hkind, rfl, hname, hvalue⟩
    · rintro ⟨kind, held, hkind, hheld, hname, hvalue⟩
      cases hheld
      exact ⟨kind, hkind, hname, hvalue⟩
  permanentTransfer := by
    intro hmem
    have hmay : asset.canTransfer collection principal = .ok true :=
      h.canAct_of_mem_members hchecked hmem
    exact Except.ok.inj (h.canTransfer.symm.trans hmay)
  permanentBurn := by
    intro hmem
    have hmay : asset.canBurn collection principal = .ok true :=
      h.canAct_of_mem_members hchecked hmem
    exact Except.ok.inj (h.canBurn.symm.trans hmay)
  update := by
    intro kind hauthority
    have hsome : (derived.plugins.get? kind).isSome := by
      obtain ⟨attached, hattached, _⟩ := Option.map_eq_some_iff.mp hauthority
      rw [hattached]
      rfl
    have hheld : asset.holds collection derived principal kind = p.canUpdate := by
      rw [← h.canUpdate, Asset.holds, hauthority]
      rfl
    rw [h.keyName_mem_members_iff, hheld]
    exact and_iff_right hsome

end PermissionsLaw

end

/-! ## Summaries -/

theorem whenAsked_eq_error_iff {question : Option α} {answer : α → Except Failure β}
    {failure : Failure} :
    whenAsked question answer = .error failure ↔
      ∃ a, question = some a ∧ answer a = .error failure := by
  cases question with
  | none => simp [whenAsked]
  | some a => simp [whenAsked, map_eq_error_iff]

/-- A question that has an answer if it is asked fails in no case. -/
theorem exists_whenAsked {question : Option α} {answer : α → Except Failure β}
    (h : ∀ a, question = some a → ∃ b, answer a = .ok b) :
    ∃ result, whenAsked question answer = .ok result := by
  cases question with
  | none => exact ⟨none, rfl⟩
  | some a =>
    obtain ⟨b, hb⟩ := h a rfl
    exact ⟨some b, map_eq_ok_iff.mpr ⟨b, hb, rfl⟩⟩

section

variable {find : AddressSearch} {options : Options} {asset derived : Asset}
  {collection : Option Collection} (hderived : asset.derive collection = .ok derived)

include hderived

theorem summarize_of_derive :
    summarize find options asset collection = (do
      let extraAccounts ←
        whenAsked options.event (resolveEvent find options asset collection derived)
      let permissions ← whenAsked options.principal fun principal =>
        (permissionsOf asset collection derived principal).mapError .permissions
      return {
        asset := derived
        collection := collection
        extraAccounts := extraAccounts
        permissions := permissions }) := by
  rw [summarize, hderived]
  rfl

theorem ofAnswers_of_summarize
    (haddress : collection.map (·.address) =
      options.collection.map fun _ => collectionAddress options asset)
    {failure : Failure} (h : summarize find options asset collection = .error failure) :
    failure.OfAnswers find options asset collection derived := by
  rw [summarize_of_derive hderived] at h
  rcases bind_eq_error_iff.mp h with hfails | ⟨accounts, _, h⟩
  · obtain ⟨event, hevent, hfails⟩ := whenAsked_eq_error_iff.mp hfails
    obtain ⟨e, he, rfl⟩ := mapError_eq_error_iff.mp hfails
    exact .resolution hevent he
  rcases bind_eq_error_iff.mp h with hfails | ⟨permissions, _, h⟩
  · obtain ⟨principal, hprincipal, hfails⟩ := whenAsked_eq_error_iff.mp hfails
    obtain ⟨e, he, rfl⟩ := mapError_eq_error_iff.mp hfails
    rcases permissionsOf_cases hderived principal with
      ⟨named, supplied, hnamed, hsupplied, hne, hrefused⟩ | ⟨_, p, hp, _⟩
    · cases hrefused.symm.trans he
      exact .collectionMismatch (Option.isSome_of_eq_some hprincipal)
        (collectionAddress_of_mismatched haddress hnamed hsupplied hne) hnamed hsupplied hne
    · cases hp.symm.trans he
  · cases h

theorem exists_summarize
    (hresolved : ∀ event, options.event = some event → ∃ accounts,
      resolveLifecycle find event derived.adapters (resolutionInputs options asset collection) =
        .ok accounts)
    (hmatch : options.principal.isSome → ¬ asset.Mismatched collection) :
    ∃ summary, summarize find options asset collection = .ok summary := by
  have hevent : ∃ accounts, whenAsked options.event
      (resolveEvent find options asset collection derived) = .ok accounts := by
    refine exists_whenAsked fun event hasked => ?_
    obtain ⟨accounts, haccounts⟩ := hresolved event hasked
    exact ⟨accounts, mapError_eq_ok_iff.mpr haccounts⟩
  have hprincipal : ∃ permissions, (whenAsked options.principal fun principal =>
      (permissionsOf asset collection derived principal).mapError .permissions) =
        .ok permissions := by
    refine exists_whenAsked fun principal hasked => ?_
    rcases permissionsOf_cases hderived principal with
      ⟨named, supplied, hnamed, hsupplied, hne, _⟩ | ⟨_, p, hp, _⟩
    · exact absurd ⟨named, supplied, hnamed, hsupplied, hne⟩
        (hmatch (Option.isSome_of_eq_some hasked))
    · exact ⟨p, mapError_eq_ok_iff.mpr hp⟩
  obtain ⟨accounts, haccounts⟩ := hevent
  obtain ⟨permissions, hpermissions⟩ := hprincipal
  rw [summarize_of_derive hderived, haccounts, hpermissions]
  exact ⟨_, rfl⟩

end

/-! ## Runs -/

section

variable {find : AddressSearch} {env : Environment} {source : File.Source}
  {arguments : List String} {options : Options} {asset derived : Asset}
  {collection : Option Collection}
  (h : Prepared env source arguments options asset collection derived)

include h

theorem Prepared.execute_eq :
    execute find env source options = summarize find options asset collection := by
  obtain ⟨settings, hsettings, hasset, hcollection⟩ := h.loaded
  rw [execute, hsettings]
  show (loadAsset settings source options >>= _) = _
  rw [hasset]
  show (loadCollection settings source options asset >>= _) = _
  rw [hcollection]
  rfl

theorem Prepared.run_eq_printed_iff {summary : Summary} :
    run find env source arguments = .printed summary ↔
      summarize find options asset collection = .ok summary := by
  rw [run, h.parsed]
  simp only [h.execute_eq]
  cases summarize find options asset collection <;> simp

theorem Prepared.run_eq_failed_iff {failure : Failure} :
    run find env source arguments = .failed failure ↔
      summarize find options asset collection = .error failure := by
  rw [run, h.parsed]
  simp only [h.execute_eq]
  cases summarize find options asset collection <;> simp

/-- The address of the collection of a prepared run. -/
theorem Prepared.address_eq :
    collection.map (·.address) = options.collection.map fun _ => collectionAddress options asset := by
  obtain ⟨_, _, _, hcollection⟩ := h.loaded
  exact address_of_loadCollection hcollection

theorem Prepared.ofAnswers {failure : Failure}
    (hfailed : run find env source arguments = .failed failure) :
    failure.OfAnswers find options asset collection derived :=
  ofAnswers_of_summarize h.derived h.address_eq (h.run_eq_failed_iff.mp hfailed)

end

/-- **Runs.**  A prepared run ends as the law says, whatever its options are and whatever its accounts
hold. -/
theorem run_answerLaw (find : AddressSearch) (env : Environment) (source : File.Source)
    (arguments : List String) (options : Options) (asset derived : Asset)
    (collection : Option Collection)
    (h : Prepared env source arguments options asset collection derived) :
    AnswerLaw find options asset collection derived (run find env source arguments) where
  ends := by
    cases hsummary : summarize find options asset collection with
    | ok summary => exact .inl ⟨summary, h.run_eq_printed_iff.mpr hsummary⟩
    | error failure => exact .inr ⟨failure, h.run_eq_failed_iff.mpr hsummary⟩
  failed := fun _ hfailed => h.ofAnswers hfailed
  matched := by
    intro hnone failure hfailed named supplied herror
    cases h.ofAnswers hfailed with
    | resolution _ hfails =>
      -- A resolution looks at no collection.
      cases herror
      cases failsOnly_resolveRequests find _ _ _ hfails
    | collectionMismatch _ hgiven => cases hnone.symm.trans hgiven
  lacking := by
    intro failure hfailed names herror
    cases h.ofAnswers hfailed with
    | resolution hevent hfails =>
      cases herror
      refine ⟨Option.isSome_of_eq_some hevent, lackingLaw_of_absent h.address_eq ?_⟩
      exact failsOnly_namesAbsent_resolveRequests _ _ hfails names rfl
    | collectionMismatch => cases herror
  prints := by
    intro hresolved hmatch
    obtain ⟨summary, hsummary⟩ := exists_summarize h.derived hresolved hmatch
    exact ⟨summary, h.run_eq_printed_iff.mpr hsummary⟩
  printed := by
    intro summary hprinted
    have hsummary := h.run_eq_printed_iff.mp hprinted
    rw [summarize_of_derive h.derived] at hsummary
    obtain ⟨extraAccounts, hextra, hsummary⟩ := bind_eq_ok_iff.mp hsummary
    obtain ⟨permissions, hpermissions, hsummary⟩ := bind_eq_ok_iff.mp hsummary
    cases hsummary
    refine ⟨rfl, rfl, ?_, ?_⟩
    · intro event hevent
      rw [hevent] at hextra
      obtain ⟨accounts, haccounts, rfl⟩ := map_eq_ok_iff.mp hextra
      exact ⟨accounts, rfl, mapError_eq_ok_iff.mp haccounts⟩
    · intro principal hprincipal
      rw [hprincipal] at hpermissions
      obtain ⟨p, hp, rfl⟩ := map_eq_ok_iff.mp hpermissions
      have hp := mapError_eq_ok_iff.mp hp
      rcases permissionsOf_cases h.derived principal with
        ⟨_, _, _, _, _, hrefused⟩ | ⟨hchecked, answered, hanswered, hlaw⟩
      · cases hrefused.symm.trans hp
      · cases hanswered.symm.trans hp
        exact ⟨p, p.members, rfl, Summary.pluginAuthority?_of_permissions rfl, hlaw,
          hlaw.membersLaw hchecked⟩

/-! ## A sample run -/

deriving instance DecidableEq for Outcome, Options

/-- An asset of a stranger, who has frozen it. -/
def sampleAsset : Asset where
  address := .zero
  base := .placeholder Asset.stranger (.collection (.ofPrefix [2]))
  extension :=
    { header := some ⟨126⟩
      plugins := PluginSlots.empty.insert .owner 124 (.freezeDelegate true)
      adapters := .empty }

/-- Its collection, whose update authority may transfer it all the same. -/
def sampleCollection : Collection where
  address := .ofPrefix [2]
  base := .placeholder .zero
  extension :=
    { header := some ⟨109⟩
      plugins := PluginSlots.empty.insert .updateAuthority 108 .permanentTransferDelegate
      adapters := .empty }

/-- The bytes of the asset. -/
def sampleAssetBytes : Bytes :=
  ({ plugins := [.known .owner (.freezeDelegate true)] } : Draft).encode sampleAsset.base.encode

/-- The bytes of the collection. -/
def sampleCollectionBytes : Bytes :=
  ({ plugins := [.known .updateAuthority .permanentTransferDelegate] } : Draft).encode
    sampleCollection.base.encode

/-- The two files. -/
def sampleSource : File.Source := fun path =>
  if path = "asset" then .ok (Utf8.encode (Hex.encode sampleAssetBytes))
  else if path = "collection" then .ok (Utf8.encode (Hex.encode sampleCollectionBytes))
  else .error .missing

/-- The update authority of the collection asks what it may do. -/
def sampleArguments : List String :=
  ["--asset=asset", "--collection=collection", "--encoding=hex", "--event=transfer",
    "--principal=11111111111111111111111111111111"]

/-- The options that these arguments give. -/
def sampleOptions : Options :=
  { asset := "asset"
    collection := some "collection"
    encoding := .hex
    event := some .transfer
    principal := some .zero }

theorem decode_sampleAssetBytes : Asset.decode {} .zero sampleAssetBytes = .ok sampleAsset :=
  Account.decode_eq_ok_iff.mpr ⟨rfl, 115, by decide +kernel, Extension.readAt_eq_ok_iff.mpr
    (.inr ⟨⟨126⟩, ⟨[⟨.freezeDelegate, .owner, 124⟩], []⟩,
      { behind := by decide +kernel
        reads_header := by decide +kernel
        inside := by decide +kernel
        reads_registry := by decide +kernel
        plugins := by decide +kernel
        adapters := rfl
        header_eq := rfl }⟩)⟩

theorem decode_sampleCollectionBytes :
    Collection.decode {} (.ofPrefix [2]) sampleCollectionBytes = .ok sampleCollection :=
  Account.decode_eq_ok_iff.mpr ⟨rfl, 99, by decide +kernel, Extension.readAt_eq_ok_iff.mpr
    (.inr ⟨⟨109⟩, ⟨[⟨.permanentTransferDelegate, .updateAuthority, 108⟩], []⟩,
      { behind := by decide +kernel
        reads_header := by decide +kernel
        inside := by decide +kernel
        reads_registry := by decide +kernel
        plugins := by decide +kernel
        adapters := rfl
        header_eq := rfl }⟩)⟩

/-- The asset with the delegate of its collection. -/
def sampleDerived : Asset :=
  { sampleAsset with
    extension :=
      { sampleAsset.extension with
        plugins := sampleAsset.plugins.merge sampleCollection.plugins } }

theorem prepared_sample :
    Prepared [] sampleSource sampleArguments sampleOptions sampleAsset (some sampleCollection)
      sampleDerived where
  parsed := by decide +kernel
  loaded := by
    have hasset : loadAsset {} sampleSource sampleOptions = .ok sampleAsset :=
      bind_eq_ok_iff.mpr ⟨_, readAccount_of_hex rfl, mapError_eq_ok_iff.mpr decode_sampleAssetBytes⟩
    have hcollection : loadCollection {} sampleSource sampleOptions sampleAsset =
        .ok (some sampleCollection) :=
      bind_eq_ok_iff.mpr ⟨_, readAccount_of_hex rfl, bind_eq_ok_iff.mpr
        ⟨_, mapError_eq_ok_iff.mpr decode_sampleCollectionBytes, rfl⟩⟩
    exact ⟨{}, rfl, hasset, hcollection⟩
  derived := rfl

/-- The summary says that the principal holds the delegate of the collection, and so may transfer an
asset that is frozen and that others own. -/
theorem run_answerLaw_sample :
    ∃ summary p members,
      Prepared [] sampleSource sampleArguments sampleOptions sampleAsset (some sampleCollection)
        sampleDerived ∧
      run ProgramAddress.find [] sampleSource sampleArguments = .printed summary ∧
      summary.permissions = some p ∧ summary.pluginAuthority? = some (.object members) ∧
      members.length = 2 ∧ ("permanentTransferDelegate", .bool true) ∈ members ∧
      p.canTransfer = true := by
  have hlaw := run_answerLaw ProgramAddress.find [] sampleSource sampleArguments sampleOptions
    sampleAsset sampleDerived (some sampleCollection) prepared_sample
  have hmatch : ¬ sampleAsset.Mismatched (some sampleCollection) := by
    rintro ⟨_, _, ⟨⟩, ⟨⟩, hne⟩
    exact hne rfl
  obtain ⟨summary, hprinted⟩ := hlaw.prints
    (by rintro event ⟨⟩; exact ⟨[], rfl⟩) fun _ => hmatch
  obtain ⟨_, _, _, hprincipal⟩ := hlaw.printed summary hprinted
  obtain ⟨p, members, hp, hmembers, _, hentries⟩ := hprincipal .zero rfl
  have hmem : ("permanentTransferDelegate", .bool true) ∈ members :=
    (hentries.mem_iff _ _).mpr ⟨.permanentTransferDelegate, true, rfl, rfl, rfl, rfl⟩
  exact ⟨summary, p, members, prepared_sample, hprinted, hp, hmembers, hentries.length, hmem,
    hentries.permanentTransfer hmem⟩

end DigitalAsset.CommandLine
