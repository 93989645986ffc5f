import DigitalAsset.Resolution
import Mathlib.Data.List.Forall2

/-!
# What a description asks for

The key of an extra account is stated here without the resolver: which bytes a seed stands for
(`Seed.StandsFor`), which search for a program address a description leads to
(`AccountSource.Searches`), which inputs it refers to (`AccountSource.references`), and which key it
has in the end (`AccountSource.HasKey`).

`AccountSource.resolve_cases` says everything that resolving one description can do.
-/

namespace DigitalAsset

/-! ## Seeds -/

namespace Seed

/-- The bytes that a seed stands for with the given inputs. -/
inductive StandsFor (inputs : Inputs) : Seed → Bytes → Prop
  | wellKnown {w : WellKnown} {key : Address} :
      inputs.get? w = some key → StandsFor inputs (.wellKnown w) key.bytes
  | address (key : Address) : StandsFor inputs (.address key) key.bytes
  | bytes (fixed : Bytes) : StandsFor inputs (.bytes fixed) fixed

/-- The well-known addresses that a seed refers to. -/
def references : Seed → List WellKnown
  | wellKnown w => [w]
  | address _ => []
  | bytes _ => []

theorem bytes?_eq_some_iff {inputs : Inputs} {seed : Seed} {bytes : Bytes} :
    seed.bytes? inputs = some bytes ↔ seed.StandsFor inputs bytes := by
  constructor
  · intro h
    cases seed with
    | wellKnown w =>
      obtain ⟨key, hkey, rfl⟩ := Option.map_eq_some_iff.mp h
      exact .wellKnown hkey
    | address key =>
      cases h
      exact .address key
    | bytes fixed =>
      cases h
      exact .bytes _
  · rintro (hkey | _ | _)
    · rw [bytes?, hkey, Option.map_some]
    · rfl
    · rfl

end Seed

/-- The well-known addresses of a list that are not supplied. -/
def Inputs.absent (inputs : Inputs) (addresses : List WellKnown) : List WellKnown :=
  addresses.filter fun w => inputs.get? w = none

theorem Inputs.mem_absent {inputs : Inputs} {addresses : List WellKnown} {w : WellKnown} :
    w ∈ inputs.absent addresses ↔ w ∈ addresses ∧ inputs.get? w = none := by
  simp [absent]

namespace Seed

theorem missing_eq (inputs : Inputs) (seed : Seed) :
    seed.missing inputs = inputs.absent seed.references := by
  cases seed with
  | wellKnown w =>
    rw [missing, references, Inputs.absent]
    cases h : inputs.get? w <;> simp [h]
  | address key => rfl
  | bytes fixed => rfl

/-- A seed stands for bytes unless it refers to an address that is not supplied. -/
theorem exists_standsFor {inputs : Inputs} {seed : Seed} (h : seed.missing inputs = []) :
    ∃ bytes, seed.StandsFor inputs bytes := by
  cases seed with
  | wellKnown w =>
    cases hkey : inputs.get? w with
    | none => simp [missing, hkey] at h
    | some key => exact ⟨_, .wellKnown hkey⟩
  | address key => exact ⟨_, .address key⟩
  | bytes fixed => exact ⟨_, .bytes fixed⟩

theorem missing_of_standsFor {inputs : Inputs} {seed : Seed} {bytes : Bytes}
    (h : seed.StandsFor inputs bytes) : seed.missing inputs = [] := by
  cases h with
  | wellKnown hkey => simp [missing, hkey]
  | address key => rfl
  | bytes fixed => rfl

/-- Seeds that all stand for bytes are resolved to these. -/
theorem resolved_of_standsFor {inputs : Inputs} {seeds : List Seed} {bytes : List Bytes}
    (h : List.Forall₂ (StandsFor inputs) seeds bytes) :
    seeds.flatMap (missing inputs) = [] ∧ seeds.filterMap (bytes? inputs) = bytes := by
  induction h with
  | nil => exact ⟨rfl, rfl⟩
  | cons hseed _ ih =>
    rw [List.flatMap_cons, missing_of_standsFor hseed, ih.1,
      List.filterMap_cons_some (bytes?_eq_some_iff.mpr hseed), ih.2]
    exact ⟨rfl, rfl⟩

/-- If no input is lacking then every seed stands for bytes. -/
theorem exists_standsFor_all {inputs : Inputs} {seeds : List Seed}
    (h : seeds.flatMap (missing inputs) = []) :
    ∃ bytes, List.Forall₂ (StandsFor inputs) seeds bytes := by
  induction seeds with
  | nil => exact ⟨[], .nil⟩
  | cons seed rest ih =>
    rw [List.flatMap_cons, List.append_eq_nil_iff] at h
    obtain ⟨bytes, hbytes⟩ := exists_standsFor h.1
    obtain ⟨others, hothers⟩ := ih h.2
    exact ⟨bytes :: others, .cons hbytes hothers⟩

end Seed

/-! ## Sources -/

namespace AccountSource

variable {find : AddressSearch} {inputs : Inputs} {program : Address}

/-- The search for a program address that a source leads to when `program` asks for the account: the
seeds, and the program under which they are searched. -/
inductive Searches (inputs : Inputs) (program : Address) :
    AccountSource → List Bytes → Address → Prop
  | preconfiguredProgram :
      Searches inputs program .preconfiguredProgram [preconfiguredSeed, program.bytes] program
  | preconfigured {w : WellKnown} {key : Address} :
      inputs.get? w = some key →
      Searches inputs program (.preconfigured w) [preconfiguredSeed, key.bytes] program
  | customPda {seeds : List Seed} {bytes : List Bytes} {custom : Option Address} :
      List.Forall₂ (Seed.StandsFor inputs) seeds bytes →
      Searches inputs program (.customPda seeds custom) bytes (custom.getD program)

/-- The key of a source: its literal address, or the address that its search finds. -/
inductive HasKey (find : AddressSearch) (inputs : Inputs) (program : Address) :
    AccountSource → Address → Prop
  | literal (key : Address) : HasKey find inputs program (.address key) key
  | found {source : AccountSource} {seeds : List Bytes} {under key : Address} :
      source.Searches inputs program seeds under → find seeds under = some key →
      HasKey find inputs program source key

/-- The well-known addresses that a source refers to, in the order in which it does. -/
def references : AccountSource → List WellKnown
  | address _ => []
  | preconfiguredProgram => []
  | preconfigured w => [w]
  | customPda seeds _ => seeds.flatMap Seed.references

/-- The addresses of its own that a source refers to and that are not supplied. -/
def lacks (inputs : Inputs) (source : AccountSource) : List WellKnown :=
  inputs.absent source.references

theorem flatMap_missing (seeds : List Seed) (custom : Option Address) :
    seeds.flatMap (Seed.missing inputs) = (customPda seeds custom).lacks inputs := by
  simp only [lacks, references, Inputs.absent, List.filter_flatMap]
  congr 1
  funext seed
  rw [Seed.missing_eq, Inputs.absent]

/-- A source that has a key, or leads to a search, lacks nothing. -/
theorem lacks_of_searches {source : AccountSource} {seeds : List Bytes} {under : Address}
    (h : source.Searches inputs program seeds under) : source.lacks inputs = [] := by
  cases h with
  | preconfiguredProgram => rfl
  | preconfigured hkey => simp [lacks, references, Inputs.absent, hkey]
  | customPda hseeds => rw [← flatMap_missing, (Seed.resolved_of_standsFor hseeds).1]

theorem lacks_of_hasKey {source : AccountSource} {key : Address}
    (h : source.HasKey find inputs program key) : source.lacks inputs = [] := by
  cases h with
  | literal key => rfl
  | found hsearch _ => exact lacks_of_searches hsearch

/-- A source that leads to a search is resolved by it. -/
theorem resolve_of_searches {source : AccountSource} {seeds : List Bytes} {under : Address}
    (h : source.Searches inputs program seeds under) :
    source.resolve find inputs program = (derivedAddress find seeds under).map .found := by
  cases h with
  | preconfiguredProgram => rfl
  | preconfigured hkey => rw [resolve, hkey]
  | customPda hseeds =>
    obtain ⟨hnone, hbytes⟩ := Seed.resolved_of_standsFor hseeds
    rw [resolve, hnone, hbytes]
    rfl

/-- A source is a literal address, or lacks an input, or leads to a search. -/
theorem lacks_or_searches (find : AddressSearch) (inputs : Inputs) (program : Address)
    (source : AccountSource) :
    (∃ key, source = .address key) ∨
    (source.lacks inputs ≠ [] ∧
      source.resolve find inputs program = .ok (.lacking (source.lacks inputs))) ∨
    ∃ seeds under, source.Searches inputs program seeds under := by
  cases source with
  | address key => exact .inl ⟨key, rfl⟩
  | preconfiguredProgram => exact .inr (.inr ⟨_, _, .preconfiguredProgram⟩)
  | preconfigured w =>
    cases hkey : inputs.get? w with
    | none =>
      have hlacks : (preconfigured w).lacks inputs = [w] := by
        simp [lacks, references, Inputs.absent, hkey]
      exact .inr (.inl ⟨by simp [hlacks], by rw [hlacks, resolve, hkey]⟩)
    | some key => exact .inr (.inr ⟨_, _, .preconfigured hkey⟩)
  | customPda seeds custom =>
    have hmissing : seeds.flatMap (Seed.missing inputs) = (customPda seeds custom).lacks inputs :=
      flatMap_missing seeds custom
    by_cases hlacks : (customPda seeds custom).lacks inputs = []
    · obtain ⟨bytes, hbytes⟩ := Seed.exists_standsFor_all (hmissing.trans hlacks)
      exact .inr (.inr ⟨_, _, .customPda hbytes⟩)
    · refine .inr (.inl ⟨hlacks, ?_⟩)
      rw [resolve, hmissing]
      simp [hlacks]

/-- Resolving a source finds its key, or answers the inputs that it lacks, or fails because its
search finds nothing. -/
theorem resolve_cases (find : AddressSearch) (inputs : Inputs) (program : Address)
    (source : AccountSource) :
    (∃ key, source.HasKey find inputs program key ∧
      source.resolve find inputs program = .ok (.found key)) ∨
    (source.lacks inputs ≠ [] ∧
      source.resolve find inputs program = .ok (.lacking (source.lacks inputs))) ∨
    ∃ seeds under, source.Searches inputs program seeds under ∧ find seeds under = none ∧
      source.resolve find inputs program = .error (.invalidSeeds under (.noBump seeds.length)) := by
  rcases lacks_or_searches find inputs program source with
    ⟨key, rfl⟩ | hlacks | ⟨seeds, under, hsearch⟩
  · exact .inl ⟨key, .literal key, rfl⟩
  · exact .inr (.inl hlacks)
  · have hresolve : source.resolve find inputs program =
        (derivedAddress find seeds under).map .found := resolve_of_searches hsearch
    rw [derivedAddress] at hresolve
    cases hfind : find seeds under with
    | none =>
      rw [hfind] at hresolve
      exact .inr (.inr ⟨seeds, under, hsearch, hfind, hresolve⟩)
    | some key =>
      rw [hfind] at hresolve
      exact .inl ⟨key, .found hsearch hfind, hresolve⟩

/-- A source resolves to a key exactly if the key is its own. -/
theorem resolve_eq_found_iff {source : AccountSource} {key : Address} :
    source.resolve find inputs program = .ok (.found key) ↔
      source.HasKey find inputs program key := by
  constructor
  · intro h
    rcases resolve_cases find inputs program source with
      ⟨key', hkey, hresolve⟩ | ⟨_, hresolve⟩ | ⟨seeds, under, _, _, hresolve⟩
    · obtain rfl : key' = key := by simpa using hresolve.symm.trans h
      exact hkey
    · simp [hresolve] at h
    · simp [hresolve] at h
  · rintro (_ | ⟨hsearch, hfind⟩)
    · rfl
    · rw [resolve_of_searches hsearch, derivedAddress, hfind]
      rfl

end AccountSource

/-! ## Descriptions -/

namespace ExtraAccount

variable {find : AddressSearch} {inputs : Inputs} {program : Address}

/-- The account has the key and the flags of the description. -/
structure Describes (find : AddressSearch) (inputs : Inputs) (program : Address)
    (description : ExtraAccount) (account : AccountMeta) : Prop where
  key : description.source.HasKey find inputs program account.key
  flags : account.flags = description.flags

/-- Resolving a description answers the account that it describes, or the inputs that it lacks, or
fails because its search finds nothing. -/
theorem resolve_cases (find : AddressSearch) (inputs : Inputs) (program : Address)
    (description : ExtraAccount) :
    (∃ account, description.Describes find inputs program account ∧
      description.resolve find inputs program = .ok (.found account)) ∨
    (description.source.lacks inputs ≠ [] ∧
      description.resolve find inputs program =
        .ok (.lacking (description.source.lacks inputs))) ∨
    ∃ seeds under, description.source.Searches inputs program seeds under ∧
      find seeds under = none ∧
      description.resolve find inputs program =
        .error (.invalidSeeds under (.noBump seeds.length)) := by
  rcases AccountSource.resolve_cases find inputs program description.source with
    ⟨key, hkey, hresolve⟩ | ⟨hlacks, hresolve⟩ | ⟨seeds, under, hsearch, hfind, hresolve⟩
  · exact .inl ⟨⟨key, description.flags⟩, ⟨hkey, rfl⟩, by rw [resolve, hresolve]; rfl⟩
  · exact .inr (.inl ⟨hlacks, by rw [resolve, hresolve]; rfl⟩)
  · exact .inr (.inr ⟨seeds, under, hsearch, hfind, by rw [resolve, hresolve]; rfl⟩)

theorem resolve_eq_found_iff {description : ExtraAccount} {account : AccountMeta} :
    description.resolve find inputs program = .ok (.found account) ↔
      description.Describes find inputs program account := by
  constructor
  · intro h
    rcases resolve_cases find inputs program description with
      ⟨found, hdescribes, hresolve⟩ | ⟨_, hresolve⟩ | ⟨_, _, _, _, hresolve⟩
    · obtain rfl : found = account := by simpa using hresolve.symm.trans h
      exact hdescribes
    · simp [hresolve] at h
    · simp [hresolve] at h
  · rintro ⟨hkey, hflags⟩
    rw [resolve, AccountSource.resolve_eq_found_iff.mpr hkey, ← hflags]
    rfl

/-- Resolving a single description answers exactly the account that it describes. -/
theorem resolveExtraAccount_eq_ok_iff {description : ExtraAccount} {account : AccountMeta} :
    resolveExtraAccount find description program inputs = .ok account ↔
      description.Describes find inputs program account := by
  rw [← resolve_eq_found_iff, resolveExtraAccount]
  cases description.resolve find inputs program with
  | error e => simp
  | ok resolution => cases resolution <;> simp

end ExtraAccount

end DigitalAsset
