import DigitalAsset.Proofs.Codec.Locality
import DigitalAsset.Proofs.Registry.Materialization

/-!
# Parts of a buffer

What the records of a registry lead to in the first part of a buffer, they lead to in the whole of it
as well: payloads, adapters with their data, and the slots and the table that the records fill.  All
readers of payloads are local, and offsets that lie inside the part lie inside the whole.
-/

namespace DigitalAsset

section

variable {part whole : Bytes}

/-! ## Payloads -/

theorem readPayload_of_part [DecidableEq κ] {reader : Reader α} (h : Local reader)
    {kindOf : α → κ} {name : κ → String} {kind : κ} {offset : UInt64} {payload : α}
    (hpart : part <+: whole)
    (hread : readPayload reader kindOf name kind offset part = .ok payload) :
    readPayload reader kindOf name kind offset whole = .ok payload := by
  obtain ⟨hinside, hvalue, hkind⟩ := readPayload_eq_ok_iff.mp hread
  refine readPayload_eq_ok_iff.mpr ⟨Nat.lt_of_lt_of_le hinside hpart.length_le, ?_, hkind⟩
  exact h.value_of_part hpart (Nat.le_of_lt hinside) hvalue

/-- The same bytes stand in the whole. -/
theorem take_drop_of_part (hpart : part <+: whole) {offset length : Nat}
    (h : offset + length ≤ part.length) :
    (whole.drop offset).take length = (part.drop offset).take length := by
  obtain ⟨more, rfl⟩ := hpart
  rw [List.drop_append_of_le_length (by omega),
    List.take_append_of_le_length (by rw [List.length_drop]; omega)]

theorem AdapterRecord.attached_of_part {settings : Settings} {r : AdapterRecord}
    {entry : AttachedAdapter Adapter} (hpart : part <+: whole)
    (h : r.attached settings part = .ok entry) : r.attached settings whole = .ok entry := by
  obtain ⟨adapter, attached, hpayload, hdata, rfl⟩ := attached_eq_ok_iff.mp h
  refine attached_eq_ok_iff.mpr ⟨adapter, attached, ?_, ?_, rfl⟩
  · exact readPayload_of_part Adapter.local_reader hpart hpayload
  · rw [attachedData_eq_ok_iff] at hdata ⊢
    refine hdata.imp_right ?_
    rintro ⟨offset, length, hoffset, hlength, hinside, hread⟩
    refine ⟨offset, length, hoffset, hlength, Nat.le_trans hinside hpart.length_le, ?_⟩
    rwa [take_drop_of_part hpart hinside]

/-! ## Records -/

theorem PluginSlots.ofRecords_of_part {settings : Settings} {records : List PluginRecord}
    {slots : PluginSlots} (hpart : part <+: whole)
    (h : ofRecords settings part records = .ok slots) :
    ofRecords settings whole records = .ok slots := by
  refine Traversal.foldlM_of_step ?_ h
  intro slots r result hattach
  obtain ⟨plugin, hplugin, hfree, rfl⟩ := attach_eq_ok_iff.mp hattach
  have hsame : r.payload whole = .ok plugin :=
    readPayload_of_part Plugin.local_reader hpart hplugin
  exact attach_eq_ok_iff.mpr ⟨plugin, hsame, hfree, rfl⟩

theorem AdapterTable.ofRecords_of_part {settings : Settings} {records : List AdapterRecord}
    {table : AdapterTable} (hpart : part <+: whole)
    (h : ofRecords settings part records = .ok table) :
    ofRecords settings whole records = .ok table :=
  ofRecords_of_attached (AdapterRecord.attached_of_part hpart) h

end

end DigitalAsset
