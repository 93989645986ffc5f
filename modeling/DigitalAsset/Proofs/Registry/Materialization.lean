import DigitalAsset.Account.Basic
import DigitalAsset.Proofs.Traversal

/-!
# What is found through a registry

A reading of an account that succeeds went through several steps, each of which could have ended it.
The lemmas here say once for each step when it succeeds and with what: payloads (`readPayload`),
slots (`PluginSlots.attach`), adapters with their data (`AdapterRecord.attached`), extensions
(`Extension.readAt`) and whole accounts (`Account.decode`).
-/

namespace DigitalAsset

/-! ## Payloads -/

theorem Reader.indexOf_eq_ok_iff {what : String} {offset : UInt64} {data : Bytes} {index : Nat} :
    indexOf what offset data = .ok index ↔ index = offset.toNat ∧ offset.toNat < data.length := by
  rw [indexOf]
  split
  · rename_i hinside
    simp [hinside, eq_comm]
  · rename_i houtside
    simp [houtside]

/-- A payload is found if the offset lies inside the buffer and a payload of the record's kind can be
read there. -/
theorem readPayload_eq_ok_iff [DecidableEq κ] {reader : Reader α} {kindOf : α → κ}
    {name : κ → String} {kind : κ} {offset : UInt64} {data : Bytes} {payload : α} :
    readPayload reader kindOf name kind offset data = .ok payload ↔
      offset.toNat < data.length ∧ reader.value data offset.toNat = .ok payload ∧
        kindOf payload = kind := by
  rw [readPayload]
  by_cases hinside : offset.toNat < data.length
  · rw [Reader.indexOf_eq_ok_iff.mpr ⟨rfl, hinside⟩]
    dsimp only
    cases hread : reader.value data offset.toNat with
    | error e => simp
    | ok found =>
      by_cases hkind : kindOf found = kind
      · simp only [hkind, if_true, Except.ok.injEq, hinside, true_and]
        constructor
        · rintro rfl
          exact ⟨rfl, hkind⟩
        · exact fun h => h.1
      · simp only [hkind, if_false, reduceCtorEq, Except.ok.injEq, hinside, true_and, false_iff]
        rintro ⟨rfl, hsame⟩
        exact hkind hsame
  · have houtside : ∃ e, Reader.indexOf (name kind) offset data = .error e :=
      ⟨_, if_neg hinside⟩
    obtain ⟨e, he⟩ := houtside
    simp [he, hinside]

/-! ## Plugins -/

/-- A plugin is attached if its payload is found and, where duplicates are refused, its slot is
empty. -/
theorem PluginSlots.attach_eq_ok_iff {policy : DuplicatePolicy} {data : Bytes}
    {slots next : PluginSlots} {r : PluginRecord} :
    attach policy data slots r = .ok next ↔
      ∃ plugin, r.payload data = .ok plugin ∧
        (policy = .reject → slots.get? r.kind = none) ∧
        next = slots.insert r.authority r.offset plugin := by
  rw [attach, offset?]
  cases r.payload data with
  | error e => simp
  | ok plugin => cases policy <;> cases slots.get? r.kind <;> simp [eq_comm]

/-- What is attached where duplicates are refused is attached everywhere. -/
theorem PluginSlots.attach_of_reject {policy : DuplicatePolicy} {data : Bytes}
    {slots next : PluginSlots} {r : PluginRecord} (h : attach .reject data slots r = .ok next) :
    attach policy data slots r = .ok next := by
  obtain ⟨plugin, hplugin, hfree, rfl⟩ := attach_eq_ok_iff.mp h
  exact attach_eq_ok_iff.mpr ⟨plugin, hplugin, fun _ => hfree rfl, rfl⟩

/-- It is refused for its payload, or for the plugin that it finds in its slot. -/
theorem PluginSlots.attach_eq_error_iff {policy : DuplicatePolicy} {data : Bytes}
    {slots : PluginSlots} {r : PluginRecord} {e : Error} :
    attach policy data slots r = .error e ↔
      r.payload data = .error e ∨
        policy = .reject ∧ (∃ plugin, r.payload data = .ok plugin) ∧
          ∃ first, slots.offset? r.kind = some first ∧ e = .duplicatePlugin r.kind first r.offset := by
  rw [attach]
  cases r.payload data with
  | error e => simp
  | ok plugin => cases policy <;> cases slots.offset? r.kind <;> simp [eq_comm]

/-! ## Adapters with their data -/

variable {spelling : Json.Spelling}

namespace AdapterData

/-- Data is refused only if it should be JSON, is neither empty nor JSON, and may not stay raw
bytes. -/
theorem read_eq_error_iff {settings : Settings} {schema : Schema} {offset : Nat} {bytes : Bytes}
    {e : Error} :
    read settings schema offset bytes spelling = .error e ↔
      schema = .json ∧ bytes ≠ [] ∧ settings.jsonFallbackToBinary = false ∧
        ∃ reason, Json.ofBytes bytes spelling = .error reason ∧ e = .decode what offset reason := by
  cases schema with
  | binary => simp [read]
  | msgPack => simp [read]
  | json =>
    cases bytes with
    | nil => simp [read]
    | cons b rest =>
      cases hjson : Json.ofBytes (b :: rest) spelling with
      | ok value => simp [read, hjson]
      | error reason =>
        cases hfallback : settings.jsonFallbackToBinary <;> simp [read, hjson, hfallback, eq_comm]

/-- Where it may, data that should be JSON and is not stays raw bytes. -/
theorem read_of_unreadable {settings : Settings} {offset : Nat} {bytes : Bytes} {reason : Reason}
    (hnonempty : bytes ≠ []) (hjson : Json.ofBytes bytes spelling = .error reason)
    (hfallback : settings.jsonFallbackToBinary = true) :
    read settings .json offset bytes spelling = .ok (some (.binary bytes)) := by
  cases bytes with
  | nil => exact absurd rfl hnonempty
  | cons b rest => simp [read, hjson, hfallback]

end AdapterData

/-- An adapter that declares no schema has no JSON. -/
theorem Adapter.schema?_of_getD_eq_json {adapter : Adapter}
    (h : adapter.schema?.getD .binary = .json) : adapter.schema? = some .json := by
  cases hdeclared : adapter.schema? with
  | none => simp [hdeclared] at h
  | some schema => simpa [hdeclared] using h

namespace AdapterRecord

/-- The data of a record is read from the bytes that it describes, if they lie in the buffer. -/
theorem attachedData_of_range {settings : Settings} {data : Bytes} {r : AdapterRecord}
    {adapter : Adapter} {offset length : UInt64} (hoffset : r.dataOffset = some offset)
    (hlength : r.dataLength = some length)
    (hinside : offset.toNat + length.toNat ≤ data.length) :
    r.attachedData settings data adapter spelling =
      AdapterData.read settings (adapter.schema?.getD .binary) offset.toNat
        ((data.drop offset.toNat).take length.toNat) spelling := by
  simp [attachedData, hoffset, hlength, Reader.slice, hinside]

/-- Data is attached if the record does not give both an offset and a length, or if they describe
bytes of the buffer that can be used. -/
theorem attachedData_eq_ok_iff {settings : Settings} {data : Bytes} {r : AdapterRecord}
    {adapter : Adapter} {attached : Option AdapterData} :
    r.attachedData settings data adapter spelling = .ok attached ↔
      ((r.dataOffset = none ∨ r.dataLength = none) ∧ attached = none) ∨
      ∃ offset length, r.dataOffset = some offset ∧ r.dataLength = some length ∧
        offset.toNat + length.toNat ≤ data.length ∧
        AdapterData.read settings (adapter.schema?.getD .binary) offset.toNat
          ((data.drop offset.toNat).take length.toNat) spelling = .ok attached := by
  rw [attachedData]
  cases r.dataOffset with
  | none => simp [eq_comm]
  | some offset =>
    cases r.dataLength with
    | none => simp [eq_comm]
    | some length =>
      by_cases hinside : offset.toNat + length.toNat ≤ data.length
      · simp [Reader.slice, hinside]
      · simp [Reader.slice, hinside]

/-- Data is refused if both an offset and a length are given, and the bytes that they describe reach
beyond the buffer or cannot be used. -/
theorem attachedData_eq_error_iff {settings : Settings} {data : Bytes} {r : AdapterRecord}
    {adapter : Adapter} {e : Error} :
    r.attachedData settings data adapter spelling = .error e ↔
      ∃ offset length, r.dataOffset = some offset ∧ r.dataLength = some length ∧
        (data.length < offset.toNat + length.toNat ∧
            e = .decode r.kind.typeName offset.toNat (.overrun length.toNat data.length) ∨
          offset.toNat + length.toNat ≤ data.length ∧
            AdapterData.read settings (adapter.schema?.getD .binary) offset.toNat
              ((data.drop offset.toNat).take length.toNat) spelling = .error e) := by
  rw [attachedData]
  cases r.dataOffset with
  | none => simp
  | some offset =>
    cases r.dataLength with
    | none => simp
    | some length =>
      by_cases hinside : offset.toNat + length.toNat ≤ data.length
      · simp [Reader.slice, hinside, Nat.not_lt.mpr hinside]
      · simp [Reader.slice, hinside, Nat.not_le.mp hinside, eq_comm]

theorem attached_eq_ok_iff {settings : Settings} {data : Bytes} {r : AdapterRecord}
    {entry : AttachedAdapter Adapter} :
    r.attached settings data spelling = .ok entry ↔
      ∃ adapter attached, r.payload data = .ok adapter ∧
        r.attachedData settings data adapter spelling = .ok attached ∧
        entry =
          { authority := r.authority
            offset := r.offset
            checks := r.checks
            dataOffset := r.dataOffset
            dataLength := r.dataLength
            data := attached
            payload := adapter } := by
  rw [attached]
  cases r.payload data with
  | error e => simp
  | ok adapter => cases hdata : r.attachedData settings data adapter spelling <;> simp [hdata, eq_comm]

theorem attached_eq_error_iff {settings : Settings} {data : Bytes} {r : AdapterRecord} {e : Error} :
    r.attached settings data spelling = .error e ↔
      r.payload data = .error e ∨
        ∃ adapter, r.payload data = .ok adapter ∧
          r.attachedData settings data adapter spelling = .error e := by
  rw [attached]
  cases r.payload data with
  | error e => simp
  | ok adapter => cases hdata : r.attachedData settings data adapter spelling <;> simp [hdata]

end AdapterRecord

/-- Records of which each finds the same adapter elsewhere, or under other settings, find the same
table there. -/
theorem AdapterTable.ofRecords_of_attached {settings settings' : Settings} {data data' : Bytes}
    (h : ∀ {r : AdapterRecord} {entry : AttachedAdapter Adapter},
      r.attached settings data spelling = .ok entry → r.attached settings' data' spelling = .ok entry)
    {records : List AdapterRecord} {table : AdapterTable}
    (htable : ofRecords settings data records spelling = .ok table) :
    ofRecords settings' data' records spelling = .ok table := by
  refine Traversal.foldlM_of_step ?_ htable
  intro table r next hstep
  obtain ⟨entry, hentry, rfl⟩ := Traversal.map_eq_ok_iff.mp hstep
  exact Traversal.map_eq_ok_iff.mpr ⟨entry, h hentry, rfl⟩

/-! ## Extensions and accounts -/

/-- An extension with a header was found behind a base record that ends at `baseEnd`. -/
structure Extension.Found (settings : Settings) (data : Bytes) (baseEnd : Nat)
    (header : PluginHeader) (registry : Registry) (extension : Extension)
    (spelling : Json.Spelling := Json.parse) : Prop where
  behind : baseEnd < data.length
  reads_header : PluginHeader.reader.value data baseEnd = .ok header
  inside : header.registryOffset.toNat < data.length
  reads_registry : (Registry.reader settings).value data header.registryOffset.toNat = .ok registry
  plugins : PluginSlots.ofRecords settings data registry.plugins = .ok extension.plugins
  adapters :
    AdapterTable.ofRecords settings data registry.adapters spelling = .ok extension.adapters
  header_eq : extension.header = some header

/-- An extension is empty where the buffer ends, and has a header otherwise. -/
theorem Extension.readAt_eq_ok_iff {settings : Settings} {data : Bytes} {baseEnd : Nat}
    {extension : Extension} :
    readAt settings data baseEnd spelling = .ok extension ↔
      (data.length ≤ baseEnd ∧ extension = empty) ∨
      ∃ header registry, Found settings data baseEnd header registry extension spelling := by
  by_cases hend : data.length ≤ baseEnd
  · rw [readAt, if_pos hend]
    constructor
    · rintro ⟨⟩
      exact .inl ⟨hend, rfl⟩
    · rintro (⟨_, rfl⟩ | ⟨_, _, hfound⟩)
      · rfl
      · exact absurd hfound.behind (Nat.not_lt.mpr hend)
  · rw [readAt, if_neg hend]
    simp only [hend, false_and, false_or, Traversal.bind_eq_ok_iff]
    constructor
    · rintro ⟨header, hheader, start, hstart, registry, hregistry, plugins, hplugins, adapters,
        hadapters, hdone⟩
      obtain ⟨rfl, hinside⟩ := Reader.indexOf_eq_ok_iff.mp hstart
      cases hdone
      exact ⟨header, registry, Nat.not_le.mp hend, hheader, hinside, hregistry, hplugins, hadapters,
        rfl⟩
    · rintro ⟨header, registry, hfound⟩
      refine ⟨header, hfound.reads_header, _, Reader.indexOf_eq_ok_iff.mpr ⟨rfl, hfound.inside⟩,
        registry, hfound.reads_registry, _, hfound.plugins, _, hfound.adapters, ?_⟩
      rw [← hfound.header_eq]
      rfl

theorem Account.decode_eq_ok_iff {reader : Reader Base} {settings : Settings} {address : Address}
    {data : Bytes} {account : Account Base} :
    decode reader settings address data spelling = .ok account ↔
      account.address = address ∧
      ∃ baseEnd, reader data 0 = ⟨.ok account.base, baseEnd⟩ ∧
        Extension.readAt settings data baseEnd spelling = .ok account.extension := by
  simp only [decode, Traversal.bind_eq_ok_iff]
  constructor
  · rintro ⟨base, hbase, extension, hextension, hdone⟩
    cases hdone
    exact ⟨rfl, (reader data 0).next, by rw [← hbase], hextension⟩
  · rintro ⟨rfl, baseEnd, hbase, hextension⟩
    rw [hbase]
    exact ⟨_, rfl, _, hextension, rfl⟩

end DigitalAsset
