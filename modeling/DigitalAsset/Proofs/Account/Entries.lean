import DigitalAsset.Proofs.Account.View

/-!
# Entries are read back

Each entry of a draft is written as an entry of the grammar of registries (`written`), and its record
leads to what the draft says about it, because the payload stands where the record says
(`readPayload_of_standsAt`).  So the records of a draft fill the slots with the last plugin of each
kind (`PluginSlots.foldlM_attach`) and the table with its adapters (`AdapterTable.ofRecords_map`).
-/

namespace DigitalAsset

/-! ## Stored offsets -/

theorem toNat_ofNat_of_le {data : Bytes} {n : Nat} (hsize : data.length < 2 ^ 64)
    (h : n ≤ data.length) : (UInt64.ofNat n).toNat = n :=
  UInt64.toNat_ofNat_of_lt' (Nat.lt_of_le_of_lt h hsize)

/-- A stored offset inside the buffer is the index it was made from. -/
theorem indexOf_ofNat {data : Bytes} {n : Nat} (what : String) (hsize : data.length < 2 ^ 64)
    (h : n < data.length) : Reader.indexOf what (.ofNat n) data = .ok n := by
  rw [Reader.indexOf, toNat_ofNat_of_le hsize (by omega), if_pos h]

/-- The payload that a record points to is found where it stands. -/
theorem readPayload_of_standsAt [DecidableEq κ] {reader : Reader α} {kindOf : α → κ}
    {name : κ → String} {bytes data : Bytes} {payload : α} {offset : Nat}
    (hreads : Reads reader bytes payload) (hpos : 0 < bytes.length)
    (hstands : StandsAt bytes data offset) (hsize : data.length < 2 ^ 64) :
    readPayload reader kindOf name (kindOf payload) (.ofNat offset) data = .ok payload := by
  have hend := hstands.add_length_le
  have hvalue : reader.value data offset = .ok payload := by
    rw [Reader.value, hreads.of_standsAt hstands]
  simp only [readPayload, indexOf_ofNat _ hsize (by omega : offset < data.length), hvalue, if_pos]

/-! ## Plugins -/

namespace PluginDraft

/-- The registry entry that a draft writes for a plugin; an unknown tag is one byte wide. -/
def written (offset : Nat) : PluginDraft → WrittenPlugin
  | known authority plugin => ⟨.known plugin.kind, authority, .ofNat offset⟩
  | unknown tag authority => ⟨.unknown tag [], authority, .ofNat offset⟩

theorem record_eq (offset : Nat) (p : PluginDraft) : p.record offset = (p.written offset).encode := by
  cases p <;> rfl

theorem valid_written {settings : Settings} (hwidth : settings.unknownTagWidth ≤ 1) {p : PluginDraft}
    (h : p.Fits) (offset : Nat) : (p.written offset).Valid settings := by
  cases p with
  | known authority plugin => exact trivial
  | unknown tag authority => exact ⟨h, by rw [List.length_nil]; omega⟩

end PluginDraft

namespace PluginSlots

/-- One more plugin goes into the slot of its kind. -/
theorem attach_lastWins {data : Bytes} (slots : PluginSlots) {authority : Authority}
    {plugin : Plugin} {offset : Nat} (hfits : plugin.Fits)
    (hstands : StandsAt plugin.encode data offset) (hsize : data.length < 2 ^ 64) :
    attach .lastWins data slots ⟨plugin.kind, authority, .ofNat offset⟩ =
      .ok (slots.insert authority (.ofNat offset) plugin) := by
  have hpayload : PluginRecord.payload data ⟨plugin.kind, authority, .ofNat offset⟩ = .ok plugin :=
    readPayload_of_standsAt (Plugin.reads_encode hfits) plugin.length_encode_pos hstands hsize
  rw [attach, hpayload]

/-- The records of a draft's plugins leave the last plugin of each kind in its slot. -/
theorem foldlM_attach {data : Bytes} {items : List (Nat × PluginDraft)}
    (hfits : ∀ x ∈ items, x.2.Fits) (hstands : ∀ x ∈ items, StandsAt x.2.payload data x.1)
    (hsize : data.length < 2 ^ 64) (slots : PluginSlots) :
    ((items.map fun x => x.2.written x.1).filterMap WrittenPlugin.record?).foldlM
        (attach .lastWins data) slots =
      .ok ⟨fun kind =>
        (items.reverse.findSome? fun x => x.2.attached? kind x.1).or (slots.get? kind)⟩ := by
  induction items generalizing slots with
  | nil => rfl
  | cons x rest ih =>
    have ih := ih (fun y hy => hfits y (List.mem_cons_of_mem x hy))
      (fun y hy => hstands y (List.mem_cons_of_mem x hy))
    have hx := hfits x List.mem_cons_self
    have hat := hstands x List.mem_cons_self
    obtain ⟨offset, p⟩ := x
    rw [List.map_cons]
    cases p with
    | unknown tag authority =>
      -- The record is dropped, and the slots stay as they are.
      rw [List.filterMap_cons_none rfl, ih]
      simp [PluginDraft.attached?]
    | known authority plugin =>
      have hrecord : ((PluginDraft.known authority plugin).written offset).record? =
          some ⟨plugin.kind, authority, .ofNat offset⟩ := rfl
      rw [List.filterMap_cons_some hrecord, List.foldlM_cons, attach_lastWins slots hx hat hsize]
      show List.foldlM _ _ _ = _
      rw [ih]
      -- A later plugin of the kind covers this one, which covers what was in the slot before.
      congr
      funext kind
      rw [List.reverse_cons, List.findSome?_append, Option.or_assoc]
      congr 1
      by_cases hkind : plugin.kind = kind <;> simp [PluginDraft.attached?, insert, hkind]

end PluginSlots

/-! ## Adapters -/

namespace AdapterData

/-- With the fallback on, reading data never fails. -/
theorem read_eq {settings : Settings} (hjson : settings.jsonFallbackToBinary = true)
    (schema : Schema) (offset : Nat) (bytes : Bytes) :
    read settings schema offset bytes = .ok (ofBytes schema bytes) := by
  cases schema with
  | binary => rfl
  | msgPack => rfl
  | json =>
    rw [read, ofBytes]
    cases bytes with
    | nil => rfl
    | cons b rest =>
      simp only [List.isEmpty_cons, hjson, if_pos, reduceCtorEq, if_false, Bool.false_eq_true]
      cases Json.ofBytes (b :: rest) <;> rfl

end AdapterData

namespace AdapterDraft

/-- The registry record of an adapter whose payload stands at `offset`. -/
def entry (offset : Nat) (a : AdapterDraft) : AdapterRecord :=
  { kind := a.adapter.kind
    authority := a.authority
    checks := a.checks.map Checks.lastFlags
    offset := .ofNat offset
    dataOffset := a.dataOffset? offset
    dataLength := a.dataLength? }

/-- The registry entry that a draft writes for an adapter. -/
def written (offset : Nat) (a : AdapterDraft) : WrittenAdapter :=
  { tag := .known a.adapter.kind
    authority := a.authority
    checks := a.checks
    offset := .ofNat offset
    dataOffset := a.dataOffset? offset
    dataLength := a.dataLength? }

theorem record_eq (offset : Nat) (a : AdapterDraft) : a.record offset = (a.written offset).encode :=
  rfl

theorem valid_written {a : AdapterDraft} (h : a.Fits) (settings : Settings) (offset : Nat) :
    (a.written offset).Valid settings :=
  ⟨trivial, h.checks⟩

/-- The data of an adapter is found right after its payload. -/
theorem attachedData_entry {settings : Settings} (hjson : settings.jsonFallbackToBinary = true)
    {data : Bytes} {a : AdapterDraft} {offset : Nat} (hstands : StandsAt a.payload data offset)
    (hsize : data.length < 2 ^ 64) :
    (a.entry offset).attachedData settings data a.adapter = .ok (a.attached offset).data := by
  obtain ⟨authority, checks, adapter, blob⟩ := a
  cases blob with
  | none => rfl
  | some bytes =>
    have hdata : StandsAt bytes data (offset + adapter.encode.length) := hstands.right
    have hend := hdata.add_length_le
    simp only [entry, attached, dataOffset?, dataLength?, AdapterRecord.attachedData,
      Option.map_some, Option.bind_some,
      toNat_ofNat_of_le hsize (by omega : offset + adapter.encode.length ≤ data.length),
      toNat_ofNat_of_le hsize (by omega : bytes.length ≤ data.length), hdata.slice,
      AdapterData.read_eq hjson]

/-- The record of an adapter attaches to it what the draft says. -/
theorem attached_entry {settings : Settings} (hjson : settings.jsonFallbackToBinary = true)
    {data : Bytes} {a : AdapterDraft} {offset : Nat} (hfits : a.Fits)
    (hstands : StandsAt a.payload data offset) (hsize : data.length < 2 ^ 64) :
    (a.entry offset).attached settings data = .ok (a.attached offset) := by
  have hpayload : (a.entry offset).payload data = .ok a.adapter :=
    readPayload_of_standsAt (Adapter.reads_encode hfits.adapter) a.adapter.length_encode_pos
      hstands.left hsize
  rw [AdapterRecord.attached, hpayload]
  simp only [attachedData_entry hjson hstands hsize]
  rfl

end AdapterDraft

namespace UnknownAdapterDraft

/-- The registry entry that a draft writes for an adapter of an unknown kind. -/
def written (offset : Nat) (u : UnknownAdapterDraft) : WrittenAdapter :=
  { tag := .unknown u.tag []
    authority := u.authority
    checks := none
    offset := .ofNat offset
    dataOffset := none
    dataLength := none }

theorem record_eq (offset : Nat) (u : UnknownAdapterDraft) :
    u.record offset = (u.written offset).encode := by
  simp [record, written, WrittenAdapter.encode, WrittenTag.encode, Wire.option]

theorem valid_written {settings : Settings} (hwidth : settings.unknownTagWidth ≤ 1)
    {u : UnknownAdapterDraft} (h : 6 ≤ u.tag.toNat) (offset : Nat) :
    (u.written offset).Valid settings :=
  ⟨⟨h, by rw [List.length_nil]; omega⟩, by simp [written]⟩

end UnknownAdapterDraft

/-- Records that attach what they should fill the table kind by kind. -/
theorem AdapterTable.ofRecords_map {settings : Settings} {data : Bytes} {items : List ι}
    {record : ι → AdapterRecord} {entry : ι → AttachedAdapter Adapter}
    (h : ∀ x ∈ items, (record x).attached settings data = .ok (entry x)) :
    ofRecords settings data (items.map record) = .ok (ofEntries (items.map entry)) := by
  have hfold (table : AdapterTable) :
      (items.map record).foldlM
          (fun table r => (r.attached settings data).map table.push) table =
        .ok ((items.map entry).foldl push table) := by
    induction items generalizing table with
    | nil => rfl
    | cons x rest ih =>
      rw [List.map_cons, List.foldlM_cons, h x List.mem_cons_self]
      exact ih (fun y hy => h y (List.mem_cons_of_mem x hy)) _
  rw [ofRecords, hfold, foldl_push]

end DigitalAsset
