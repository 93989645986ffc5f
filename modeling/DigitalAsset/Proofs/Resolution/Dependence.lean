import DigitalAsset.Proofs.Resolution.Refusals

/-!
# What a resolution depends on

A resolution looks at the payloads of the adapters that listen to the event and at the inputs that
these payloads refer to, and at nothing else.  `AdapterTable.resolveLifecycle_congr` says so for
every answer, refusals included: two runs that agree on these answer the same.

Accounts are found only if every input that is referred to is supplied
(`AdapterTable.supplied_of_resolveLifecycle`).  So an answer with accounts stays when more inputs are
supplied and when adapters that do not listen come, go or change, which is
`AdapterTable.resolveLifecycle_of_sameListeners`.  A refusal need not stay, since an input may be what
was missing.
-/

namespace DigitalAsset

/-! ## Two runs -/

/-- The inputs are the same as far as some well-known addresses are concerned. -/
def Inputs.AgreeOn (addresses : List WellKnown) (inputs others : Inputs) : Prop :=
  ∀ w ∈ addresses, inputs.get? w = others.get? w

/-- Whatever some inputs supply is supplied here as well, and perhaps more. -/
def Inputs.Extends (more inputs : Inputs) : Prop :=
  ∀ w key, inputs.get? w = some key → more.get? w = some key

/-- In both tables the same payloads listen to the event, kind by kind and in the same order.  Nothing
is said about the adapters that do not listen, about other kinds, and about what surrounds a payload. -/
structure AdapterTable.SameListeners (event : Event) (table other : AdapterTable) : Prop where
  oracles : listening event table.oracles = listening event other.oracles
  lifecycleHooks : listening event table.lifecycleHooks = listening event other.lifecycleHooks
  linkedLifecycleHooks :
    listening event table.linkedLifecycleHooks = listening event other.linkedLifecycleHooks

namespace Inputs

variable {inputs others : Inputs}

theorem AgreeOn.mono {some all : List WellKnown} (h : AgreeOn all inputs others)
    (hsome : ∀ w ∈ some, w ∈ all) : AgreeOn some inputs others :=
  fun w hw => h w (hsome w hw)

theorem AgreeOn.absent {addresses : List WellKnown} (h : AgreeOn addresses inputs others) :
    inputs.absent addresses = others.absent addresses := by
  apply List.filter_congr
  intro w hw
  rw [h w hw]

/-- More inputs agree on whatever is supplied already. -/
theorem Extends.agreeOn {more : Inputs} (h : more.Extends inputs) {addresses : List WellKnown}
    (hsupplied : ∀ w ∈ addresses, inputs.get? w ≠ none) : AgreeOn addresses inputs more := by
  intro w hw
  obtain ⟨key, hkey⟩ := Option.ne_none_iff_exists'.mp (hsupplied w hw)
  rw [hkey, h w key hkey]

end Inputs

/-! ## Listening -/

/-- An entry that does not listen makes no difference wherever it stands. -/
theorem listening_insert {event : Event} {before after : List (AttachedAdapter α)}
    {entry : AttachedAdapter α} (h : entry.listensTo event = false) :
    listening event (before ++ entry :: after) = listening event (before ++ after) := by
  simp [listening, List.filter_append, h]

/-- What is around a payload makes no difference as long as it listens in both lists or in none. -/
theorem listening_congr {event : Event} {entries others : List (AttachedAdapter α)}
    (h : List.Forall₂ (fun a b => a.payload = b.payload ∧ a.listensTo event = b.listensTo event)
      entries others) :
    listening event entries = listening event others := by
  induction h with
  | nil => rfl
  | @cons a b rest rest' hfirst _ ih =>
    obtain ⟨hpayload, hlistens⟩ := hfirst
    simp only [listening, List.filter_cons, hlistens] at ih ⊢
    split
    · rw [List.map_cons, List.map_cons, hpayload, ih]
    · exact ih

/-- The same listeners ask for the same. -/
theorem AdapterTable.SameListeners.requests_eq {event : Event} {table other : AdapterTable}
    (h : table.SameListeners event other) : table.requests event = other.requests event := by
  rw [requests, requests, h.oracles, h.lifecycleHooks, h.linkedLifecycleHooks]

/-! ## One description -/

section

variable {find : AddressSearch} {inputs others : Inputs}

namespace Seed

theorem bytes?_congr {seed : Seed} (h : Inputs.AgreeOn seed.references inputs others) :
    seed.bytes? inputs = seed.bytes? others := by
  cases seed with
  | wellKnown w => rw [bytes?, bytes?, h w List.mem_cons_self]
  | address key => rfl
  | bytes fixed => rfl

theorem missing_congr {seed : Seed} (h : Inputs.AgreeOn seed.references inputs others) :
    seed.missing inputs = seed.missing others := by
  rw [missing_eq, missing_eq, h.absent]

end Seed

/-- The key of a source depends on the inputs that the source refers to. -/
theorem AccountSource.resolve_congr {source : AccountSource} {program : Address}
    (h : Inputs.AgreeOn source.references inputs others) :
    source.resolve find inputs program = source.resolve find others program := by
  cases source with
  | address key => rfl
  | preconfiguredProgram => rfl
  | preconfigured w => rw [resolve, resolve, h w List.mem_cons_self]
  | customPda seeds custom =>
    have hseed : ∀ seed ∈ seeds, Inputs.AgreeOn seed.references inputs others := by
      intro seed hmem
      exact h.mono fun w hw => List.mem_flatMap.mpr ⟨seed, hmem, hw⟩
    have hmissing : seeds.flatMap (Seed.missing inputs) = seeds.flatMap (Seed.missing others) :=
      List.flatMap_congr fun seed hmem => Seed.missing_congr (hseed seed hmem)
    have hbytes : seeds.filterMap (Seed.bytes? inputs) = seeds.filterMap (Seed.bytes? others) :=
      List.filterMap_congr fun seed hmem => Seed.bytes?_congr (hseed seed hmem)
    rw [resolve, resolve, hmissing, hbytes]

/-! ## All descriptions -/

namespace Request

theorem resolve_congr {request : Request}
    (h : Inputs.AgreeOn (Asked.references request.asked?.toList) inputs others) :
    request.resolve find inputs = request.resolve find others := by
  cases request with
  | readOnly key => rfl
  | extra description program =>
    have hsource : Inputs.AgreeOn description.source.references inputs others :=
      h.mono fun w hw => by simpa [asked?, Asked.references] using hw
    rw [resolve, resolve, ExtraAccount.resolve, ExtraAccount.resolve,
      AccountSource.resolve_congr hsource]

/-- Requests depend on the inputs that any of them refers to. -/
theorem resolveRequests_congr {requests : List Request}
    (h : Inputs.AgreeOn (Asked.references (requests.filterMap asked?)) inputs others) :
    resolveRequests find inputs requests = resolveRequests find others requests := by
  have hresolve : requests.mapM (resolve find inputs) = requests.mapM (resolve find others) := by
    apply Traversal.mapM_congr
    intro request hmem
    apply resolve_congr
    refine h.mono fun w hw => ?_
    obtain ⟨asked, hasked, hw⟩ := List.mem_flatMap.mp hw
    exact List.mem_flatMap.mpr
      ⟨asked, List.mem_filterMap.mpr ⟨request, hmem, Option.mem_toList.mp hasked⟩, hw⟩
  rw [resolveRequests, resolveRequests, hresolve]

/-- A request that is answered refers to supplied inputs only. -/
theorem supplied_of_answer {request : Request} {account : AccountMeta}
    (h : request.Answer find inputs account) {asked : Asked} (hasked : request.asked? = some asked) :
    ∀ w ∈ asked.description.source.references, inputs.get? w ≠ none := by
  cases request with
  | readOnly key => cases hasked
  | extra description program =>
    cases hasked
    have hkey := (answer_extra_iff.mp h).describes.key
    have hlacks : description.source.lacks inputs = [] := AccountSource.lacks_of_hasKey hkey
    intro w hw hnone
    -- An input that is referred to and not supplied is one that the source lacks.
    have hlacking : w ∈ description.source.lacks inputs := Inputs.mem_absent.mpr ⟨hw, hnone⟩
    rw [hlacks] at hlacking
    cases hlacking

end Request

namespace AdapterTable

variable {event : Event} {table other : AdapterTable}

/-- **What a resolution depends on.**  Two resolutions with the same listening payloads and the same
inputs at the places that these refer to have the same answer, with accounts or without. -/
theorem resolveLifecycle_congr (hlisteners : table.SameListeners event other)
    (hinputs : Inputs.AgreeOn (Asked.references (table.asked event)) inputs others) :
    resolveLifecycle find event table inputs = resolveLifecycle find event other others := by
  rw [resolveLifecycle, resolveLifecycle, ← hlisteners.requests_eq]
  rw [← filterMap_asked?] at hinputs
  exact Request.resolveRequests_congr hinputs

/-- A resolution with accounts had all the inputs that the listening adapters refer to. -/
theorem supplied_of_resolveLifecycle {accounts : List AccountMeta}
    (h : resolveLifecycle find event table inputs = .ok accounts) :
    ∀ w ∈ Asked.references (table.asked event), inputs.get? w ≠ none := by
  intro w hw
  obtain ⟨asked, hasked, hw⟩ := List.mem_flatMap.mp hw
  rw [← filterMap_asked?] at hasked
  obtain ⟨request, hrequest, hsome⟩ := List.mem_filterMap.mp hasked
  obtain ⟨account, _, hanswer⟩ :=
    Traversal.exists_related (resolveRequests_eq_ok_iff.mp h).flip hrequest
  exact Request.supplied_of_answer hanswer hsome w hw

/-- **Answers stay.**  Accounts that were found are found again, the same and in the same order, when
more inputs are supplied and when nothing changes about the adapters that listen to the event but what
surrounds their payloads. -/
theorem resolveLifecycle_of_sameListeners (find : AddressSearch) (event : Event)
    (table other : AdapterTable) (inputs more : Inputs) (accounts : List AccountMeta)
    (hlisteners : table.SameListeners event other) (hmore : more.Extends inputs)
    (h : resolveLifecycle find event table inputs = .ok accounts) :
    resolveLifecycle find event other more = .ok accounts := by
  have hagree : Inputs.AgreeOn (Asked.references (table.asked event)) inputs more :=
    hmore.agreeOn (supplied_of_resolveLifecycle h)
  rw [← resolveLifecycle_congr hlisteners hagree]
  exact h

end AdapterTable

end

/-! ## An answer that stays -/

/-- A hook that needs an account of the recipient. -/
def Hook.ofRecipient : Hook where
  hookedProgram := .zero
  extraAccounts := some [⟨.preconfigured .recipient, ⟨false, true⟩⟩]
  dataAuthority := none
  schema := .binary

/-- A hook that needs an account of the collection, and one for a seed that is too long. -/
def Hook.ofLongSeed : Hook where
  hookedProgram := .zero
  extraAccounts :=
    some [⟨.preconfigured .collection, ⟨false, true⟩⟩,
      ⟨.customPda [.bytes (List.replicate 33 0)] none, ⟨false, true⟩⟩]
  dataAuthority := none
  schema := .json

/-- A table with one hook, which may reject transfers. -/
def AdapterTable.rejecting : AdapterTable :=
  { AdapterTable.empty with
    lifecycleHooks :=
      [{ authority := .owner
         offset := 110
         checks := some (Checks.ofList [(.transfer, ⟨4⟩)])
         dataOffset := none
         dataLength := none
         data := none
         payload := .ofRecipient }] }

/-- A table with the same hook, which here has another authority and observes burns and transfers, and
before it a hook that listens to burns only. -/
def AdapterTable.observing : AdapterTable :=
  { AdapterTable.empty with
    lifecycleHooks :=
      [{ authority := .none
         offset := 220
         checks := some (Checks.ofList [(.burn, ⟨7⟩)])
         dataOffset := some 300
         dataLength := some 1
         data := some (.binary [7])
         payload := .ofLongSeed },
        { authority := .updateAuthority
          offset := 330
          checks := some (Checks.ofList [(.burn, ⟨1⟩), (.transfer, ⟨0⟩)])
          dataOffset := none
          dataLength := some 0
          data := none
          payload := .ofRecipient }]
    appDatas :=
      [{ authority := .owner
         offset := 440
         checks := some (Checks.ofList [(.transfer, ⟨7⟩)])
         dataOffset := none
         dataLength := none
         data := none
         payload := ⟨.owner, .binary⟩ }] }

/-- The hook that does not listen would be refused for its seed, and lacks the collection; neither
matters to a transfer. -/
theorem AdapterTable.resolveLifecycle_observing :
    rejecting.SameListeners .transfer observing ∧
      Inputs.Extends { owner := some .zero, recipient := some .zero } { recipient := some .zero } ∧
      ∃ accounts,
        resolveLifecycle ProgramAddress.find .transfer rejecting { recipient := some .zero } =
          .ok accounts ∧
        accounts.length = 2 ∧
        resolveLifecycle ProgramAddress.find .transfer observing
          { owner := some .zero, recipient := some .zero } = .ok accounts := by
  have hhooks : listening .transfer rejecting.lifecycleHooks =
      listening .transfer observing.lifecycleHooks := by
    rw [observing, ← List.nil_append (_ :: _), listening_insert (by decide)]
    exact listening_congr (.cons ⟨rfl, by decide⟩ .nil)
  have hsame : rejecting.SameListeners .transfer observing := ⟨rfl, hhooks, rfl⟩
  have hmore :
      Inputs.Extends { owner := some .zero, recipient := some .zero } { recipient := some .zero } := by
    intro w key hkey
    cases w with
    | asset | collection | owner => cases hkey
    | recipient => exact hkey
  have hread : (resolveLifecycle ProgramAddress.find .transfer rejecting
      { recipient := some .zero }).map List.length = .ok 2 := by
    decide +kernel
  obtain ⟨accounts, haccounts, hlength⟩ := Traversal.map_eq_ok_iff.mp hread
  have hstays := resolveLifecycle_of_sameListeners ProgramAddress.find .transfer rejecting observing
    _ _ accounts hsame hmore haccounts
  exact ⟨hsame, hmore, accounts, haccounts, hlength, hstays⟩

end DigitalAsset
