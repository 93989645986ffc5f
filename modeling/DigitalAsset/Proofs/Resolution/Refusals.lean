import DigitalAsset.Proofs.Resolution.Accounts
import Mathlib.Data.List.Induction

/-!
# When a resolution is refused

There are two refusals.  Seeds without a program address end a resolution at once, whatever inputs
are missing before or after them; missing inputs are collected over all descriptions and named
together.  `AdapterTable.RefusalLaw` says which refusal there is and what it names, on the list of
the descriptions that the listening adapters carry, and `AdapterTable.resolveLifecycle_refusalLaw`
proves it for every search that finds the preconfigured accounts.  With any search at all, no input
that is supplied is called missing (`failsOnly_namesAbsent_resolveRequests`).
-/

namespace DigitalAsset

open Traversal

/-- What is relied on in a search for program addresses: it always finds an address for the seeds of
a preconfigured account, and never one for too many seeds or too long a seed. -/
structure AddressSearch.Lawful (find : AddressSearch) : Prop where
  preconfigured : ∀ key program : Address, find [preconfiguredSeed, key.bytes] program ≠ none
  bounded : ∀ (seeds : List Bytes) (program : Address),
    15 < seeds.length ∨ (∃ seed ∈ seeds, 32 < seed.length) → find seeds program = none

/-! ## The descriptions of an event -/

/-- A description with the program that asks for the account. -/
structure Asked where
  description : ExtraAccount
  program : Address
  deriving DecidableEq

namespace Asked

/-- The seeds are those of a custom account, all inputs that they refer to are supplied, and there is
no program address for them. -/
def Invalid (find : AddressSearch) (inputs : Inputs) (asked : Asked) : Prop :=
  ∃ seeds custom bytes, asked.description.source = .customPda seeds custom ∧
    List.Forall₂ (Seed.StandsFor inputs) seeds bytes ∧ find bytes (custom.getD asked.program) = none

/-- The first of the invalid descriptions has `count` seeds, which are searched under `under`: the
program that the description names, or else the one that asks. -/
def FirstInvalid (find : AddressSearch) (inputs : Inputs) (list : List Asked) (under : Address)
    (count : Nat) : Prop :=
  ∃ before asked after seeds custom, list = before ++ asked :: after ∧
    (∀ earlier ∈ before, ¬ earlier.Invalid find inputs) ∧ asked.Invalid find inputs ∧
    asked.description.source = .customPda seeds custom ∧ under = custom.getD asked.program ∧
    count = seeds.length

/-- All references of some descriptions to well-known addresses, in order and with repetitions. -/
def references (list : List Asked) : List WellKnown :=
  list.flatMap fun asked => asked.description.source.references

/-- The list names every well-known address that is referred to and not supplied, once, and in the
order of the first references. -/
structure NamesAbsent (inputs : Inputs) (list : List Asked) (missing : List WellKnown) : Prop where
  nodup : missing.Nodup
  mem_iff : ∀ w, w ∈ missing ↔ w ∈ references list ∧ inputs.get? w = none
  inOrder : missing.Pairwise fun v w => (references list).idxOf v < (references list).idxOf w

end Asked

/-- The description of an oracle, if it has one. -/
def Oracle.asked (o : Oracle) : List Asked := o.baseAddressConfig.toList.map (⟨·, o.baseAddress⟩)

/-- The descriptions of a hook. -/
def Hook.asked (h : Hook) : List Asked := (h.extraAccounts.getD []).map (⟨·, h.hookedProgram⟩)

namespace AdapterTable

/-- The descriptions of all adapters that listen to an event, each with the program that asks. -/
def asked (table : AdapterTable) (event : Event) : List Asked :=
  (listening event table.oracles).flatMap Oracle.asked ++
    ((listening event table.lifecycleHooks).flatMap Hook.asked ++
      (listening event table.linkedLifecycleHooks).flatMap Hook.asked)

/-- When a resolution has to be refused, and with which error. -/
structure RefusalLaw (find : AddressSearch) (event : Event) (table : AdapterTable) (inputs : Inputs)
    (answer : Except Error (List AccountMeta)) : Prop where
  /-- The first invalid description ends it all, whatever inputs are missing. -/
  invalid : (∃ asked ∈ table.asked event, asked.Invalid find inputs) →
    ∃ under count, Asked.FirstInvalid find inputs (table.asked event) under count ∧
      answer = .error (.invalidSeeds under (.noBump count))
  /-- Seeds beyond the limits are invalid. -/
  oversized : ∀ asked ∈ table.asked event, ∀ seeds custom bytes,
    asked.description.source = .customPda seeds custom →
    List.Forall₂ (Seed.StandsFor inputs) seeds bytes →
    15 < seeds.length ∨ (∃ seed ∈ bytes, 32 < seed.length) → asked.Invalid find inputs
  /-- Without an invalid description all missing inputs are named. -/
  missing : (∀ asked ∈ table.asked event, ¬ asked.Invalid find inputs) →
    (∃ w ∈ Asked.references (table.asked event), inputs.get? w = none) →
    ∃ missing, Asked.NamesAbsent inputs (table.asked event) missing ∧
      answer = .error (.missingRequiredInput (missing.map WellKnown.name))
  /-- There is no other refusal. -/
  succeeds : (∀ asked ∈ table.asked event, ¬ asked.Invalid find inputs) →
    (∀ w ∈ Asked.references (table.asked event), inputs.get? w ≠ none) →
    ∃ accounts, answer = .ok accounts

end AdapterTable

/-! ## Naming each input once -/

theorem eraseDups_concat [BEq α] [LawfulBEq α] (items : List α) (a : α) :
    (items ++ [a]).eraseDups = items.eraseDups ++ if items.contains a then [] else [a] := by
  rw [List.eraseDups_append, List.cons_removeAll]
  cases items.contains a <;> simp [List.eraseDups_cons]

/-- What is left of some items, each once, stands in the order of the first occurrences. -/
theorem pairwise_idxOf_eraseDups [BEq α] [LawfulBEq α] (p : α → Bool) (items : List α) :
    (items.filter p).eraseDups.Pairwise fun a b => items.idxOf a < items.idxOf b := by
  induction items using List.reverseRecOn with
  | nil => exact .nil
  | append_singleton rest last ih =>
    have hmem {a : α} (ha : a ∈ (rest.filter p).eraseDups) : a ∈ rest :=
      (List.mem_filter.mp (List.mem_eraseDups.mp ha)).1
    -- What was there before keeps its place.
    have hbefore : (rest.filter p).eraseDups.Pairwise fun a b =>
        (rest ++ [last]).idxOf a < (rest ++ [last]).idxOf b := by
      refine ih.imp_of_mem ?_
      intro a b ha hb hlt
      rwa [List.idxOf_append_of_mem (hmem ha), List.idxOf_append_of_mem (hmem hb)]
    rw [List.filter_append]
    by_cases hp : p last = true
    · rw [List.filter_cons_of_pos hp, List.filter_nil, eraseDups_concat]
      split
      · rwa [List.append_nil]
      · rename_i hnew
        refine List.pairwise_append.mpr ⟨hbefore, List.pairwise_singleton _ _, ?_⟩
        intro a ha b hb
        obtain rfl := List.mem_singleton.mp hb
        have hlast : b ∉ rest := by simpa [hp] using hnew
        rw [List.idxOf_append_of_mem (hmem ha), List.idxOf_append_of_notMem hlast]
        exact Nat.lt_add_right _ (List.idxOf_lt_length_of_mem (hmem ha))
    · rwa [List.filter_cons_of_neg hp, List.filter_nil, List.append_nil]

theorem nodup_eraseDups [BEq α] [LawfulBEq α] (items : List α) : items.eraseDups.Nodup := by
  have hordered := pairwise_idxOf_eraseDups (fun _ => true) items
  rw [List.filter_true] at hordered
  -- What stands in strict order is not repeated.
  exact hordered.imp fun hlt hsame => Nat.ne_of_lt hlt (congrArg items.idxOf hsame)

theorem Asked.namesAbsent_eraseDups (inputs : Inputs) (list : List Asked) :
    NamesAbsent inputs list (inputs.absent (references list)).eraseDups where
  inOrder := pairwise_idxOf_eraseDups _ (references list)
  nodup := nodup_eraseDups _
  mem_iff := by
    intro w
    rw [List.mem_eraseDups, Inputs.mem_absent]

/-! ## Requests -/

variable {find : AddressSearch} {inputs : Inputs}

/-- The description in a request, if it has one. -/
def Request.asked? : Request → Option Asked
  | readOnly _ => none
  | extra description program => some ⟨description, program⟩

theorem AdapterTable.filterMap_asked? (table : AdapterTable) (event : Event) :
    (table.requests event).filterMap Request.asked? = table.asked event := by
  have horacle (o : Oracle) : Request.asked? o.request = o.asked.head? := by
    rw [Oracle.request, Oracle.asked]
    cases o.baseAddressConfig <;> rfl
  have hhook (h : Hook) : h.requests.filterMap Request.asked? = h.asked := by
    rw [Hook.requests, Hook.asked, List.filterMap_cons_none rfl, List.filterMap_map,
      ← List.filterMap_eq_map]
    rfl
  rw [requests, asked, List.filterMap_append, List.flatMap_append, List.filterMap_append]
  congr 1
  · rw [List.filterMap_map, List.filterMap_eq_flatMap_toList]
    congr 1
    funext o
    rw [Function.comp_apply, horacle, Oracle.asked]
    cases o.baseAddressConfig <;> rfl
  · simp only [List.filterMap_flatMap, hhook]

namespace Asked

/-- An invalid description fails with the error for its seeds. -/
theorem resolve_of_invalid {asked : Asked} (h : asked.Invalid find inputs) {seeds : List Seed}
    {custom : Option Address} (hsource : asked.description.source = .customPda seeds custom) :
    asked.description.resolve find inputs asked.program =
      .error (.invalidSeeds (custom.getD asked.program) (.noBump seeds.length)) := by
  obtain ⟨seeds', custom', bytes, hsource', hbytes, hfind⟩ := h
  obtain ⟨rfl, rfl⟩ := AccountSource.customPda.inj (hsource'.symm.trans hsource)
  rw [ExtraAccount.resolve, hsource, AccountSource.resolve_of_searches (.customPda hbytes),
    derivedAddress, hfind, hbytes.length_eq]
  rfl

/-- Every other description is resolved, or lacks what it refers to and is not supplied. -/
theorem resolve_of_not_invalid (hfind : AddressSearch.Lawful find) {asked : Asked}
    (h : ¬ asked.Invalid find inputs) :
    ∃ resolution, asked.description.resolve find inputs asked.program = .ok resolution ∧
      resolution.missing = asked.description.source.lacks inputs := by
  rcases ExtraAccount.resolve_cases find inputs asked.program asked.description with
    ⟨account, hdescribes, hresolve⟩ | ⟨_, hresolve⟩ | ⟨seeds, under, hsearch, hnone, _⟩
  · exact ⟨_, hresolve, (AccountSource.lacks_of_hasKey hdescribes.key).symm⟩
  · exact ⟨_, hresolve, rfl⟩
  · -- The search of a preconfigured account succeeds, so the seeds are those of a custom one.
    exfalso
    generalize hsource : asked.description.source = source at hsearch
    cases hsearch with
    | preconfiguredProgram => exact hfind.preconfigured _ _ hnone
    | preconfigured hkey => exact hfind.preconfigured _ _ hnone
    | customPda hbytes => exact h ⟨_, _, _, hsource, hbytes, hnone⟩

end Asked

namespace Request

/-- A request without an invalid description is resolved. -/
theorem exists_resolution (hfind : AddressSearch.Lawful find) {request : Request}
    (h : ∀ asked ∈ request.asked?, ¬ asked.Invalid find inputs) :
    ∃ resolution, request.resolve find inputs = .ok resolution ∧
      resolution.missing = inputs.absent (Asked.references request.asked?.toList) := by
  cases request with
  | readOnly key => exact ⟨_, rfl, rfl⟩
  | extra description program =>
    obtain ⟨resolution, hresolve, hmissing⟩ :=
      Asked.resolve_of_not_invalid hfind (h ⟨description, program⟩ rfl)
    refine ⟨resolution, hresolve, ?_⟩
    rw [hmissing, AccountSource.lacks, asked?, Option.toList_some, Asked.references,
      List.flatMap_singleton]

/-- Requests without an invalid description are all resolved, and together they lack what they refer
to and is not supplied. -/
theorem exists_resolutions (hfind : AddressSearch.Lawful find) {requests : List Request}
    (h : ∀ asked ∈ requests.filterMap asked?, ¬ asked.Invalid find inputs) :
    ∃ resolutions, requests.mapM (resolve find inputs) = .ok resolutions ∧
      resolutions.flatMap Resolution.missing =
        inputs.absent (Asked.references (requests.filterMap asked?)) := by
  induction requests with
  | nil => exact ⟨[], rfl, rfl⟩
  | cons request rest ih =>
    have hfirst : ∀ asked ∈ request.asked?, ¬ asked.Invalid find inputs := by
      intro asked hasked
      exact h asked (List.mem_filterMap.mpr ⟨request, List.mem_cons_self, hasked⟩)
    obtain ⟨resolution, hresolve, hmissing⟩ := exists_resolution hfind hfirst
    obtain ⟨resolutions, hresolutions, hothers⟩ := ih fun asked hasked => by
      obtain ⟨other, hother, hsome⟩ := List.mem_filterMap.mp hasked
      exact h asked (List.mem_filterMap.mpr ⟨other, List.mem_cons_of_mem _ hother, hsome⟩)
    refine ⟨resolution :: resolutions, ?_, ?_⟩
    · exact mapM_eq_ok_iff.mpr (.cons hresolve (mapM_eq_ok_iff.mp hresolutions))
    · rw [List.flatMap_cons, hmissing, hothers, Inputs.absent, Inputs.absent, ← List.filter_append,
        Inputs.absent, Asked.references, Asked.references, ← List.flatMap_append]
      cases hasked : request.asked? <;> simp [hasked, Asked.references]

/-- The first invalid description of some requests is what their resolution fails with. -/
theorem resolveRequests_of_firstInvalid (hfind : AddressSearch.Lawful find)
    {requests : List Request} {under : Address} {count : Nat}
    (h : Asked.FirstInvalid find inputs (requests.filterMap asked?) under count) :
    resolveRequests find inputs requests = .error (.invalidSeeds under (.noBump count)) := by
  obtain ⟨before, asked, after, seeds, custom, hlist, hbefore, hinvalid, hsource, rfl, rfl⟩ := h
  -- The request of the invalid description stands behind the earlier ones and behind requests that
  -- have no description at all.
  obtain ⟨front, back, rfl, rfl, hback⟩ := List.filterMap_eq_append_iff.mp hlist
  obtain ⟨silent, request, rest, rfl, hsilent, hrequest, _⟩ := List.filterMap_eq_cons_iff.mp hback
  have hfails : request.resolve find inputs =
      .error (.invalidSeeds (custom.getD asked.program) (.noBump seeds.length)) := by
    cases request with
    | readOnly key => cases hrequest
    | extra description program =>
      cases hrequest
      exact Asked.resolve_of_invalid hinvalid hsource
  have hearlier : ∀ earlier ∈ front ++ silent, ∃ resolution,
      earlier.resolve find inputs = .ok resolution := by
    intro earlier hmem
    have hvalid : ∀ asked ∈ earlier.asked?, ¬ asked.Invalid find inputs := by
      intro other hother
      rcases List.mem_append.mp hmem with hfront | hquiet
      · exact hbefore other (List.mem_filterMap.mpr ⟨earlier, hfront, hother⟩)
      · rw [hsilent earlier hquiet] at hother
        cases hother
    obtain ⟨resolution, hresolve, _⟩ := exists_resolution hfind hvalid
    exact ⟨resolution, hresolve⟩
  rw [resolveRequests, ← List.append_assoc, mapM_of_first_error hearlier hfails]

end Request

/-! ## Missing inputs -/

/-- If the error is one for missing inputs, then none of these is supplied. -/
def Error.NamesAbsent (inputs : Inputs) (e : Error) : Prop :=
  ∀ names, e = .missingRequiredInput names →
    ∀ name ∈ names, ∃ w : WellKnown, name = w.name ∧ inputs.get? w = none

/-- What a request lacks is not supplied. -/
theorem Request.get?_of_mem_missing {request : Request} {resolution : Resolution AccountMeta}
    (h : request.resolve find inputs = .ok resolution) {w : WellKnown}
    (hw : w ∈ resolution.missing) : inputs.get? w = none := by
  cases request with
  | readOnly key =>
    cases h
    cases hw
  | extra description program =>
    rw [resolve] at h
    rcases ExtraAccount.resolve_cases find inputs program description with
      ⟨account, _, hresolve⟩ | ⟨_, hresolve⟩ | ⟨_, _, _, _, hresolve⟩
    · cases hresolve.symm.trans h
      cases hw
    · cases hresolve.symm.trans h
      exact (Inputs.mem_absent.mp hw).2
    · cases hresolve.symm.trans h

/-- A request by itself only fails for seeds without a program address. -/
theorem Request.failsOnly_invalidSeeds (request : Request) :
    FailsOnly (fun e => ∃ program count, e = .invalidSeeds program (.noBump count))
      (request.resolve find inputs) := by
  cases request with
  | readOnly key => exact .ok _
  | extra description program =>
    rw [resolve]
    rcases ExtraAccount.resolve_cases find inputs program description with
      ⟨account, _, hresolve⟩ | ⟨_, hresolve⟩ | ⟨seeds, under, _, _, hresolve⟩
    · rw [hresolve]
      exact .ok _
    · rw [hresolve]
      exact .ok _
    · rw [hresolve]
      exact .error ⟨under, seeds.length, rfl⟩

/-- A resolution names only inputs that are not supplied, whatever its search is. -/
theorem failsOnly_namesAbsent_resolveRequests (requests : List Request) :
    FailsOnly (Error.NamesAbsent inputs) (resolveRequests find inputs requests) := by
  rw [resolveRequests]
  split
  · rename_i e hfails
    obtain ⟨program, count, rfl⟩ := FailsOnly.mapM Request.failsOnly_invalidSeeds requests e hfails
    refine .error ?_
    rintro names ⟨⟩
  · rename_i resolutions hresolved
    rw [collectAnswers]
    split
    · exact .ok _
    · refine .error ?_
      rintro names ⟨⟩ name hname
      obtain ⟨w, hw, rfl⟩ := List.mem_map.mp hname
      obtain ⟨resolution, hmem, hlacks⟩ := List.mem_flatMap.mp (List.mem_eraseDups.mp hw)
      obtain ⟨request, _, hresolve⟩ := exists_related (mapM_eq_ok_iff.mp hresolved) hmem
      exact ⟨w, rfl, request.get?_of_mem_missing hresolve hlacks⟩

/-! ## The law -/

namespace Asked

/-- If a description is invalid then one of them is the first. -/
theorem exists_firstInvalid {list : List Asked} (h : ∃ asked ∈ list, asked.Invalid find inputs) :
    ∃ under count, FirstInvalid find inputs list under count := by
  obtain ⟨before, asked, after, hlist, hbefore, hinvalid⟩ := exists_first h
  obtain ⟨seeds, custom, _, hsource, _, _⟩ := id hinvalid
  exact ⟨_, _, before, asked, after, seeds, custom, hlist, hbefore, hinvalid, hsource, rfl, rfl⟩

end Asked

namespace AdapterTable

/-- **The refusals of a resolution.**  With a search that finds the preconfigured accounts, a
resolution is refused exactly as the law says. -/
theorem resolveLifecycle_refusalLaw (find : AddressSearch) (hfind : AddressSearch.Lawful find)
    (event : Event) (table : AdapterTable) (inputs : Inputs) :
    table.RefusalLaw find event inputs (resolveLifecycle find event table inputs) where
  invalid := by
    intro h
    obtain ⟨under, count, hfirst⟩ := Asked.exists_firstInvalid h
    refine ⟨under, count, hfirst, ?_⟩
    rw [← filterMap_asked?] at hfirst
    exact Request.resolveRequests_of_firstInvalid hfind hfirst
  oversized := by
    intro asked _ seeds custom bytes hsource hbytes hsize
    refine ⟨seeds, custom, bytes, hsource, hbytes, hfind.bounded _ _ ?_⟩
    rwa [← hbytes.length_eq]
  missing := by
    rintro hvalid ⟨w, hw, hnone⟩
    rw [← filterMap_asked?] at hvalid
    obtain ⟨resolutions, hresolved, hmissing⟩ := Request.exists_resolutions hfind hvalid
    refine ⟨_, Asked.namesAbsent_eraseDups inputs _, ?_⟩
    rw [filterMap_asked?] at hmissing
    have hsome : resolutions.flatMap Resolution.missing ≠ [] := by
      rw [hmissing]
      exact List.ne_nil_of_mem (Inputs.mem_absent.mpr ⟨hw, hnone⟩)
    rw [resolveLifecycle, resolveRequests, hresolved]
    simp only [collectAnswers]
    rw [if_neg (by simpa using hsome), hmissing, missingError]
  succeeds := by
    intro hvalid hsupplied
    rw [← filterMap_asked?] at hvalid
    obtain ⟨resolutions, hresolved, hmissing⟩ := Request.exists_resolutions hfind hvalid
    rw [filterMap_asked?] at hmissing
    have hnone : resolutions.flatMap Resolution.missing = [] := by
      rw [hmissing, Inputs.absent, List.filter_eq_nil_iff]
      intro w hw
      simpa using hsupplied w hw
    refine ⟨resolutions.filterMap Resolution.answer?, ?_⟩
    rw [resolveLifecycle, resolveRequests, hresolved]
    simp only [collectAnswers, hnone]
    rfl

end AdapterTable

/-! ## A refused resolution -/

/-- The search in use, except that it takes the zero address where the seeds are within the limits
and all bumps fail. -/
def ProgramAddress.findOrZero : AddressSearch := fun seeds program =>
  if maxSeeds < seeds.length ∨ seeds.any fun s => maxSeedLength < s.length then none
  else some ((ProgramAddress.find seeds program).getD .zero)

theorem ProgramAddress.lawful_findOrZero : AddressSearch.Lawful findOrZero where
  preconfigured := by
    intro key program
    have hprefix : preconfiguredSeed.length = 8 := by decide
    simp [findOrZero, maxSeeds, maxSeedLength, hprefix, key.length_eq]
  bounded := by
    intro seeds program h
    refine if_pos (h.imp id ?_)
    rintro ⟨seed, hseed, hlong⟩
    exact List.any_eq_true.mpr ⟨seed, hseed, decide_eq_true hlong⟩

/-- A hook that listens to transfers and needs an account of the recipient, and then one of a seed
that is too long. -/
def AdapterTable.oversized : AdapterTable :=
  { AdapterTable.empty with
    lifecycleHooks :=
      [{ authority := .owner
         offset := 0
         checks := some (Checks.ofList [(.transfer, ⟨4⟩)])
         dataOffset := none
         dataLength := none
         data := none
         payload :=
           { hookedProgram := .zero
             extraAccounts :=
               some [⟨.preconfigured .recipient, ⟨false, true⟩⟩,
                 ⟨.customPda [.bytes (List.replicate 33 0)] none, ⟨false, true⟩⟩]
             dataAuthority := none
             schema := .binary } }] }

/-- The recipient is missing, but the error is the one for the seed. -/
theorem AdapterTable.refused_oversized :
    AddressSearch.Lawful ProgramAddress.findOrZero ∧
      (∃ w ∈ Asked.references (oversized.asked .transfer), Inputs.get? {} w = none) ∧
      ∃ under count,
        Asked.FirstInvalid ProgramAddress.findOrZero {} (oversized.asked .transfer) under count ∧
          resolveLifecycle ProgramAddress.findOrZero .transfer oversized {} =
            .error (.invalidSeeds under (.noBump count)) := by
  have hlaw := resolveLifecycle_refusalLaw ProgramAddress.findOrZero
    ProgramAddress.lawful_findOrZero .transfer oversized {}
  refine ⟨ProgramAddress.lawful_findOrZero, ⟨.recipient, by decide, rfl⟩, hlaw.invalid ?_⟩
  have hseed : Seed.StandsFor {} (.bytes (List.replicate 33 0)) (List.replicate 33 0) := .bytes _
  refine ⟨⟨⟨.customPda [.bytes (List.replicate 33 0)] none, ⟨false, true⟩⟩, .zero⟩, by decide, ?_⟩
  exact hlaw.oversized _ (by decide) _ _ _ rfl (.cons hseed .nil)
    (.inr ⟨_, List.mem_singleton_self _, by decide⟩)

end DigitalAsset
