import DigitalAsset.Proofs.Resolution.Descriptions
import DigitalAsset.Proofs.Traversal

/-!
# The accounts of a lifecycle event

A resolution goes through all requests and collects what is lacking, so it is not clear from the
start that no request gets lost on the way.  `AdapterTable.Answered` lists the accounts adapter by
adapter, each extra account being what its description gives when it is resolved alone.
`AdapterTable.resolveLifecycle_eq_ok_iff` proves that a resolution succeeds exactly with these
accounts, each at its place.
-/

namespace DigitalAsset

open Traversal

variable {find : AddressSearch} {inputs : Inputs}

/-! ## The accounts adapter by adapter -/

/-- The account that a description gives when it is resolved alone, which has the key and the flags
of the description. -/
structure ExtraAccount.Answer (find : AddressSearch) (inputs : Inputs) (program : Address)
    (description : ExtraAccount) (account : AccountMeta) : Prop where
  resolves : resolveExtraAccount find description program inputs = .ok account
  describes : description.Describes find inputs program account

/-- The account of an oracle: its base address, which is only read, or what its description gives
for the base address. -/
def Oracle.Answer (find : AddressSearch) (inputs : Inputs) (o : Oracle) (account : AccountMeta) :
    Prop :=
  match o.baseAddressConfig with
  | none => account = ⟨o.baseAddress, ⟨false, false⟩⟩
  | some description => description.Answer find inputs o.baseAddress account

/-- The accounts of a hook: its program, which is only read, and then its extra accounts in their
order. -/
def Hook.Answer (find : AddressSearch) (inputs : Inputs) (h : Hook) (accounts : List AccountMeta) :
    Prop :=
  ∃ extras, accounts = ⟨h.hookedProgram, ⟨false, false⟩⟩ :: extras ∧
    List.Forall₂ (ExtraAccount.Answer find inputs h.hookedProgram) (h.extraAccounts.getD []) extras

/-- The accounts of all adapters that listen to an event, in the order of the table: first those of
the oracles, then those of the hooks, then those of the linked hooks. -/
def AdapterTable.Answered (find : AddressSearch) (event : Event) (table : AdapterTable)
    (inputs : Inputs) (accounts : List AccountMeta) : Prop :=
  ∃ oracles hooks linkedHooks, accounts = oracles ++ (hooks.flatten ++ linkedHooks.flatten) ∧
    List.Forall₂ (Oracle.Answer find inputs) (listening event table.oracles) oracles ∧
    List.Forall₂ (Hook.Answer find inputs) (listening event table.lifecycleHooks) hooks ∧
    List.Forall₂ (Hook.Answer find inputs) (listening event table.linkedLifecycleHooks) linkedHooks

/-! ## Collecting answers -/

/-- A resolution that lacks an input says which. -/
def Resolution.Definite (resolution : Resolution α) : Prop := resolution ≠ .lacking []

theorem collectAnswers_map_found (answers : List α) :
    collectAnswers (answers.map .found) = .ok answers := by
  have hmissing : (answers.map Resolution.found).flatMap Resolution.missing = [] := by
    simp [List.flatMap_map, Resolution.missing]
  have hanswers : (answers.map Resolution.found).filterMap Resolution.answer? = answers := by
    simp [List.filterMap_map, Resolution.answer?, Function.comp_def]
  rw [collectAnswers, hmissing, hanswers]
  rfl

theorem exists_map_found {resolutions : List (Resolution α)}
    (hdefinite : ∀ r ∈ resolutions, r.Definite)
    (hmissing : resolutions.flatMap Resolution.missing = []) :
    ∃ answers : List α, resolutions = answers.map .found := by
  induction resolutions with
  | nil => exact ⟨[], rfl⟩
  | cons first rest ih =>
    rw [List.flatMap_cons, List.append_eq_nil_iff] at hmissing
    obtain ⟨answers, rfl⟩ := ih (fun r hr => hdefinite r (List.mem_cons_of_mem first hr)) hmissing.2
    cases first with
    | found answer => exact ⟨answer :: answers, rfl⟩
    | lacking missing =>
      have hnone : missing = [] := hmissing.1
      exact absurd (congrArg Resolution.lacking hnone) (hdefinite _ List.mem_cons_self)

/-- Answers are collected exactly if every resolution has found its own. -/
theorem collectAnswers_eq_ok_iff {resolutions : List (Resolution α)} {answers : List α}
    (hdefinite : ∀ r ∈ resolutions, r.Definite) :
    collectAnswers resolutions = .ok answers ↔ resolutions = answers.map .found := by
  constructor
  · intro h
    by_cases hmissing : resolutions.flatMap Resolution.missing = []
    · obtain ⟨found, rfl⟩ := exists_map_found hdefinite hmissing
      rw [collectAnswers_map_found] at h
      cases h
      rfl
    · simp [collectAnswers, hmissing] at h
  · rintro rfl
    exact collectAnswers_map_found answers

/-! ## Requests -/

namespace Request

/-- A request that is not answered names what it lacks. -/
theorem definite_of_resolve {request : Request} {resolution : Resolution AccountMeta}
    (h : request.resolve find inputs = .ok resolution) : resolution.Definite := by
  cases request with
  | readOnly key =>
    cases h
    rintro ⟨⟩
  | extra description program =>
    rw [resolve] at h
    rcases ExtraAccount.resolve_cases find inputs program description with
      ⟨account, _, hresolve⟩ | ⟨hlacks, hresolve⟩ | ⟨_, _, _, _, hresolve⟩
    · cases hresolve.symm.trans h
      rintro ⟨⟩
    · cases hresolve.symm.trans h
      intro hnone
      exact hlacks (Resolution.lacking.inj hnone)
    · cases hresolve.symm.trans h

/-- The account that answers a request. -/
def Answer (find : AddressSearch) (inputs : Inputs) (request : Request) (account : AccountMeta) :
    Prop :=
  request.resolve find inputs = .ok (.found account)

theorem answer_readOnly_iff {key : Address} {account : AccountMeta} :
    (readOnly key).Answer find inputs account ↔ account = ⟨key, ⟨false, false⟩⟩ := by
  simp only [Answer, resolve, AccountMeta.readOnly, Except.ok.injEq, Resolution.found.injEq]
  exact eq_comm

theorem answer_extra_iff {description : ExtraAccount} {program : Address} {account : AccountMeta} :
    (extra description program).Answer find inputs account ↔
      description.Answer find inputs program account := by
  rw [Answer, resolve, ExtraAccount.resolve_eq_found_iff]
  constructor
  · intro h
    exact ⟨ExtraAccount.resolveExtraAccount_eq_ok_iff.mpr h, h⟩
  · intro h
    exact h.describes

end Request

/-- Requests are resolved exactly if each has an answer, and then to these answers in order. -/
theorem resolveRequests_eq_ok_iff {requests : List Request} {accounts : List AccountMeta} :
    resolveRequests find inputs requests = .ok accounts ↔
      List.Forall₂ (Request.Answer find inputs) requests accounts := by
  have hanswers : List.Forall₂ (Request.Answer find inputs) requests accounts ↔
      requests.mapM (Request.resolve find inputs) = .ok (accounts.map .found) := by
    rw [mapM_eq_ok_iff, List.forall₂_map_right_iff]
    rfl
  rw [hanswers, resolveRequests]
  cases hresolved : requests.mapM (Request.resolve find inputs) with
  | error e => simp
  | ok resolutions =>
    have hdefinite : ∀ r ∈ resolutions, r.Definite := by
      intro r hr
      obtain ⟨request, _, hrequest⟩ := exists_related (mapM_eq_ok_iff.mp hresolved) hr
      exact Request.definite_of_resolve hrequest
    simp only [collectAnswers_eq_ok_iff hdefinite, Except.ok.injEq]

/-! ## Adapters -/

theorem Oracle.answer_request_iff {o : Oracle} {account : AccountMeta} :
    o.request.Answer find inputs account ↔ o.Answer find inputs account := by
  rw [request, Answer]
  cases o.baseAddressConfig with
  | none => exact Request.answer_readOnly_iff
  | some description => exact Request.answer_extra_iff

theorem Hook.answer_requests_iff {h : Hook} {accounts : List AccountMeta} :
    List.Forall₂ (Request.Answer find inputs) h.requests accounts ↔
      h.Answer find inputs accounts := by
  rw [requests, Answer, List.forall₂_cons_left_iff]
  simp only [Request.answer_readOnly_iff, List.forall₂_map_left_iff, Request.answer_extra_iff]
  constructor
  · rintro ⟨account, extras, rfl, hextras, rfl⟩
    exact ⟨extras, rfl, hextras⟩
  · rintro ⟨extras, rfl, hextras⟩
    exact ⟨_, extras, rfl, hextras, rfl⟩

/-- **The accounts of an event.**  Resolution succeeds exactly with the accounts of the adapters that
listen to the event, adapter by adapter, none left out and none out of order. -/
theorem AdapterTable.resolveLifecycle_eq_ok_iff (find : AddressSearch) (event : Event)
    (table : AdapterTable) (inputs : Inputs) (accounts : List AccountMeta) :
    resolveLifecycle find event table inputs = .ok accounts ↔
      table.Answered find event inputs accounts := by
  have hhook : (fun h : Hook => List.Forall₂ (Request.Answer find inputs) h.requests) =
      Hook.Answer find inputs := by
    funext h accounts
    exact propext Hook.answer_requests_iff
  rw [resolveLifecycle, resolveRequests_eq_ok_iff, requests, List.flatMap_append,
    forall₂_append_left_iff]
  simp only [forall₂_append_left_iff, forall₂_flatMap_left_iff, List.forall₂_map_left_iff,
    Oracle.answer_request_iff, hhook]
  constructor
  · rintro ⟨oracles, _, rfl, horacles, _, _, rfl, ⟨hooks, rfl, hhooks⟩, linked, rfl, hlinked⟩
    exact ⟨oracles, hooks, linked, rfl, horacles, hhooks, hlinked⟩
  · rintro ⟨oracles, hooks, linked, rfl, horacles, hhooks, hlinked⟩
    exact ⟨oracles, _, rfl, horacles, _, _, rfl, ⟨hooks, rfl, hhooks⟩, linked, rfl, hlinked⟩

end DigitalAsset
