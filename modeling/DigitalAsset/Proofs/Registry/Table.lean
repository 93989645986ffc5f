import DigitalAsset.Proofs.Registry.Materialization
import Mathlib.Data.List.Induction

/-!
# The table that records fill

Each record adds one adapter to the table, behind the earlier ones of its kind.
`AdapterTable.ofKind_of_ofRecords` says so of all kinds at once: the adapters of a kind are what the
records of that kind attach, in the same order.  `AdapterTable.ofRecords_partitionOf` reads it off for
each of the six lists.

Offsets and lengths are added as numbers and not as words of 64 bits.  A range whose end would wrap
around ends behind the buffer like any other that is too long.
-/

namespace DigitalAsset

/-! ## Data -/

namespace AdapterData

/-- What becomes of bytes under a schema. -/
inductive Kept (settings : Settings) (schema : Schema) (bytes : Bytes) :
    Option AdapterData → Prop where
  /-- JSON that has not been written yet is no data. -/
  | unwritten : schema = .json → bytes = [] → Kept settings schema bytes none
  /-- JSON is kept as the value that the bytes spell. -/
  | parsed {value : Json} : schema = .json → bytes ≠ [] → Json.ofBytes bytes = .ok value →
      Kept settings schema bytes (some (.json value))
  /-- Bytes that need not be JSON stay as they are. -/
  | raw : schema ≠ .json → Kept settings schema bytes (some (.binary bytes))
  /-- So do bytes that should be JSON and are not, where they may. -/
  | unreadable {reason : Reason} : schema = .json → bytes ≠ [] →
      Json.ofBytes bytes = .error reason → settings.jsonFallbackToBinary = true →
      Kept settings schema bytes (some (.binary bytes))

theorem read_eq_ok_iff {settings : Settings} {schema : Schema} {offset : Nat} {bytes : Bytes}
    {attached : Option AdapterData} :
    read settings schema offset bytes = .ok attached ↔ Kept settings schema bytes attached := by
  constructor
  · intro h
    cases schema with
    | binary | msgPack =>
      cases h
      exact .raw (by decide)
    | json =>
      cases bytes with
      | nil =>
        cases h
        exact .unwritten rfl rfl
      | cons b rest =>
        have hnonempty : b :: rest ≠ [] := List.cons_ne_nil b rest
        cases hjson : Json.ofBytes (b :: rest) with
        | ok value =>
          obtain rfl : some (json value) = attached := by simpa [read, hjson] using h
          exact .parsed rfl hnonempty hjson
        | error reason =>
          cases hfallback : settings.jsonFallbackToBinary with
          | false => simp [read, hjson, hfallback] at h
          | true =>
            rw [read_of_unreadable hnonempty hjson hfallback] at h
            cases h
            exact .unreadable rfl hnonempty hjson hfallback
  · rintro (⟨rfl, rfl⟩ | ⟨rfl, hnonempty, hjson⟩ | hschema | ⟨rfl, hnonempty, hjson, hfallback⟩)
    · rfl
    · simp [read, hnonempty, hjson]
    · cases schema with
      | json => exact absurd rfl hschema
      | binary | msgPack => rfl
    · exact read_of_unreadable hnonempty hjson hfallback

/-- The data is read under a schema from `length` bytes of the buffer at `offset`, all of which are
there. -/
structure ReadFrom (settings : Settings) (data : Bytes) (schema : Schema) (offset length : UInt64)
    (attached : Option AdapterData) : Prop where
  inside : offset.toNat + length.toNat ≤ data.length
  reads : read settings schema offset.toNat ((data.drop offset.toNat).take length.toNat) =
    .ok attached
  kept : Kept settings schema ((data.drop offset.toNat).take length.toNat) attached

end AdapterData

namespace AdapterRecord

/-! ## What a record attaches -/

/-- The records of a kind. -/
def ofKind (kind : AdapterKind) (records : List AdapterRecord) : List AdapterRecord :=
  records.filter fun r => r.kind = kind

/-- The entry says of an adapter what the record says of it.  The adapter is the one that is read at
the record's offset, and the data is what stands where the record says, under the adapter's schema;
an oracle declares none and has its bytes kept. -/
structure Attaches (settings : Settings) (data : Bytes) (make : α → Adapter) (r : AdapterRecord)
    (entry : AttachedAdapter α) : Prop where
  authority_eq : entry.authority = r.authority
  offset_eq : entry.offset = r.offset
  checks_eq : entry.checks = r.checks
  dataOffset_eq : entry.dataOffset = r.dataOffset
  dataLength_eq : entry.dataLength = r.dataLength
  inside : r.offset.toNat < data.length
  reads : Adapter.reader.value data r.offset.toNat = .ok (make entry.payload)
  kind_eq : (make entry.payload).kind = r.kind
  without : r.dataOffset = none ∨ r.dataLength = none → entry.data = none
  readFrom : ∀ offset length, r.dataOffset = some offset → r.dataLength = some length →
    AdapterData.ReadFrom settings data ((make entry.payload).schema?.getD .binary) offset length
      entry.data

variable {settings : Settings} {data : Bytes} {r : AdapterRecord}

theorem attaches_of_attached {make : α → Adapter} {entry : AttachedAdapter α}
    (h : r.attached settings data = .ok (entry.withPayload (make entry.payload))) :
    r.Attaches settings data make entry := by
  obtain ⟨adapter, attached, hpayload, hdata, hentry⟩ := attached_eq_ok_iff.mp h
  simp only [AttachedAdapter.withPayload, AttachedAdapter.mk.injEq] at hentry
  obtain ⟨hauthority, hoffset, hchecks, hdataOffset, hdataLength, rfl, rfl⟩ := hentry
  obtain ⟨hinside, hreads, hkind⟩ := readPayload_eq_ok_iff.mp hpayload
  refine ⟨hauthority, hoffset, hchecks, hdataOffset, hdataLength, hinside, hreads, hkind, ?_, ?_⟩
  -- Of the two ways to attach data, what the record gives leaves one.
  · intro hnone
    rcases attachedData_eq_ok_iff.mp hdata with ⟨_, hdata⟩ | ⟨_, _, hsome, hsome', _⟩
    · exact hdata
    · simp [hsome, hsome'] at hnone
  · intro offset length hsome hsome'
    rcases attachedData_eq_ok_iff.mp hdata with ⟨hnone, _⟩ | ⟨_, _, hfound, hfound', hrange, hread⟩
    · simp [hsome, hsome'] at hnone
    · obtain rfl := Option.some.inj (hsome.symm.trans hfound)
      obtain rfl := Option.some.inj (hsome'.symm.trans hfound')
      exact ⟨hrange, hread, AdapterData.read_eq_ok_iff.mp hread⟩

end AdapterRecord

namespace AdapterTable

open AdapterRecord

variable {settings : Settings} {data : Bytes} {records : List AdapterRecord} {table : AdapterTable}
  {spelling : Json.Spelling}

/-! ## Record by record -/

/-- The adapters of a kind are what the records of that kind attach. -/
theorem ofKind_of_ofRecords (h : ofRecords settings data records spelling = .ok table)
    (kind : AdapterKind) :
    List.Forall₂ (fun r entry => r.attached settings data spelling = .ok entry)
      (AdapterRecord.ofKind kind records) (table.ofKind kind) := by
  -- From the end, since a pushed adapter stands behind those that are there.
  induction records using List.reverseRecOn generalizing table with
  | nil =>
    cases h
    cases kind <;> exact .nil
  | append_singleton rest r ih =>
    obtain ⟨reached, hrest, hpush⟩ := Traversal.foldlM_concat_eq_ok_iff.mp h
    obtain ⟨entry, hentry, rfl⟩ := Traversal.map_eq_ok_iff.mp hpush
    have hkind : entry.payload.kind = r.kind := by
      obtain ⟨adapter, _, hpayload, _, rfl⟩ := attached_eq_ok_iff.mp hentry
      exact (readPayload_eq_ok_iff.mp hpayload).2.2
    rw [AdapterRecord.ofKind, List.filter_append, ofKind_push, hkind]
    refine List.rel_append (ih hrest) ?_
    by_cases hsame : r.kind = kind
    · simp [hsame, hentry]
    · simp [hsame]

/-- Every record has its adapter in the table. -/
theorem mem_ofKind_of_ofRecords (h : ofRecords settings data records spelling = .ok table)
    {r : AdapterRecord} (hr : r ∈ records) {entry : AttachedAdapter Adapter}
    (hentry : r.attached settings data spelling = .ok entry) : entry ∈ table.ofKind r.kind := by
  have hmem : r ∈ AdapterRecord.ofKind r.kind records := by simp [AdapterRecord.ofKind, hr]
  obtain ⟨found, hfound, hsame⟩ := Traversal.exists_related (ofKind_of_ofRecords h r.kind).flip hmem
  obtain rfl : found = entry := Except.ok.inj (hsame.symm.trans hentry)
  exact hfound

/-- Each record adds one adapter. -/
theorem size_of_ofRecords (h : ofRecords settings data records = .ok table) :
    table.size = records.length := by
  induction records using List.reverseRecOn generalizing table with
  | nil =>
    cases h
    rfl
  | append_singleton rest r ih =>
    obtain ⟨reached, hrest, hpush⟩ := Traversal.foldlM_concat_eq_ok_iff.mp h
    obtain ⟨entry, _, rfl⟩ := Traversal.map_eq_ok_iff.mp hpush
    rw [size_push, ih hrest, List.length_append, List.length_singleton]

theorem attaches_of_wrap {make : α → Adapter} {entries : List (AttachedAdapter α)}
    (h : List.Forall₂ (fun r entry => r.attached settings data = .ok entry) records
      (wrap make entries)) :
    List.Forall₂ (Attaches settings data make) records entries := by
  rw [wrap, List.forall₂_map_right_iff] at h
  exact h.imp fun _ _ hentry => attaches_of_attached hentry

/-! ## All kinds -/

/-- What a table has to do with the records that fill it: there are as many adapters as records, and
each list goes through the records of its kind. -/
structure PartitionOf (settings : Settings) (data : Bytes) (records : List AdapterRecord)
    (table : AdapterTable) : Prop where
  size_eq : table.size = records.length
  lifecycleHooks : List.Forall₂ (Attaches settings data .lifecycleHook)
    (AdapterRecord.ofKind .lifecycleHook records) table.lifecycleHooks
  oracles : List.Forall₂ (Attaches settings data .oracle)
    (AdapterRecord.ofKind .oracle records) table.oracles
  appDatas : List.Forall₂ (Attaches settings data .appData)
    (AdapterRecord.ofKind .appData records) table.appDatas
  linkedLifecycleHooks : List.Forall₂ (Attaches settings data .linkedLifecycleHook)
    (AdapterRecord.ofKind .linkedLifecycleHook records) table.linkedLifecycleHooks
  linkedAppDatas : List.Forall₂ (Attaches settings data .linkedAppData)
    (AdapterRecord.ofKind .linkedAppData records) table.linkedAppDatas
  dataSections : List.Forall₂ (Attaches settings data .dataSection)
    (AdapterRecord.ofKind .dataSection records) table.dataSections

/-- No record is lost, none changes its place among those of its kind, and the data of each is read
from inside the buffer. -/
theorem ofRecords_partitionOf (h : ofRecords settings data records = .ok table) :
    PartitionOf settings data records table where
  size_eq := size_of_ofRecords h
  lifecycleHooks := attaches_of_wrap (ofKind_of_ofRecords h .lifecycleHook)
  oracles := attaches_of_wrap (ofKind_of_ofRecords h .oracle)
  appDatas := attaches_of_wrap (ofKind_of_ofRecords h .appData)
  linkedLifecycleHooks := attaches_of_wrap (ofKind_of_ofRecords h .linkedLifecycleHook)
  linkedAppDatas := attaches_of_wrap (ofKind_of_ofRecords h .linkedAppData)
  dataSections := attaches_of_wrap (ofKind_of_ofRecords h .dataSection)

/-! ## Data of two kinds of adapters -/

/-- App data with JSON, linked app data with raw bytes, and two bytes for both. -/
def dataPayloads : Bytes := [2, 1, 1, 4, 2, 0, 91, 93]

/-- Linked app data with the two bytes, and app data with them and with none. -/
def dataRecords : List AdapterRecord :=
  [⟨.linkedAppData, .owner, none, 3, some 6, some 2⟩, ⟨.appData, .none, none, 0, some 6, some 2⟩,
    ⟨.appData, .updateAuthority, none, 0, some 8, some 0⟩]

/-- The same bytes are a JSON list to one adapter and raw to another, and no bytes are no data. -/
theorem ofRecords_dataRecords :
    ∃ table, ofRecords {} dataPayloads dataRecords = .ok table ∧
      PartitionOf {} dataPayloads dataRecords table ∧
      table.appDatas.map (·.data) = [some (.json (.array [])), none] ∧
      table.linkedAppDatas.map (·.data) = [some (.binary [91, 93])] := by
  obtain ⟨table, h, happ, hlinked⟩ :
      ∃ table, ofRecords {} dataPayloads dataRecords = .ok table ∧
        table.appDatas.map (·.data) = [some (.json (.array [])), none] ∧
        table.linkedAppDatas.map (·.data) = [some (.binary [91, 93])] :=
    ⟨_, rfl, rfl, rfl⟩
  exact ⟨table, h, ofRecords_partitionOf h, happ, hlinked⟩

end AdapterTable

end DigitalAsset
