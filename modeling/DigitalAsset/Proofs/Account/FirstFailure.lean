import DigitalAsset.Proofs.Account.Failures
import DigitalAsset.Proofs.Account.Strictness

/-!
# The record at which reading stops

A registry lists many records, and a failure should lead to the one that is wrong.  `FirstFailureLaw`
says that it does.  Plugins and adapters are refused exactly if some record is, all before it having
been read, and the error names that record: the name of its kind and its offset if the payload cannot
be used, the offset of its data if the range reaches beyond the buffer or, under settings that insist
on JSON, holds none, and the offsets of two records if they are plugins of one kind.

What goes wrong deep inside a payload is told in the reason.  This needs that the readers of payloads
fail with decoding errors only, since `Error.ofPayload` would hand on any other error unchanged.
-/

namespace DigitalAsset

/-! ## Payloads -/

/-- Why the payload that a record points to cannot be used.  The error has the name of the record's
kind and the offset in the record, wherever the payload breaks off. -/
inductive PayloadRefused (reader : Reader α) (kindOf : α → κ) (name : κ → String) (kind : κ)
    (offset : UInt64) (data : Bytes) : Error → Prop where
  /-- The offset lies outside the buffer. -/
  | outside : data.length ≤ offset.toNat →
      PayloadRefused reader kindOf name kind offset data
        (.decode (name kind) offset.toNat (.outside data.length))
  /-- Something in the payload cannot be read. -/
  | unreadable {what : String} {pos : Nat} {reason : Reason} : offset.toNat < data.length →
      reader.value data offset.toNat = .error (.decode what pos reason) →
      PayloadRefused reader kindOf name kind offset data
        (.decode (name kind) offset.toNat (.inPayload what pos reason))
  /-- The payload is of another kind. -/
  | otherKind {payload : α} : offset.toNat < data.length →
      reader.value data offset.toNat = .ok payload → kindOf payload ≠ kind →
      PayloadRefused reader kindOf name kind offset data
        (.decode (name kind) offset.toNat (.kindMismatch (name (kindOf payload)) (name kind)))

theorem readPayload_eq_error_iff [DecidableEq κ] {reader : Reader α}
    (hreader : reader.FailsOnly Error.IsDecode) {kindOf : α → κ} {name : κ → String} {kind : κ}
    {offset : UInt64} {data : Bytes} {e : Error} :
    readPayload reader kindOf name kind offset data = .error e ↔
      PayloadRefused reader kindOf name kind offset data e := by
  rw [readPayload]
  constructor
  · intro h
    split at h
    · rename_i hindex
      cases h
      rw [Reader.indexOf] at hindex
      split at hindex
      · cases hindex
      · rename_i houtside
        cases hindex
        exact .outside (Nat.not_lt.mp houtside)
    · rename_i index hindex
      obtain ⟨rfl, hinside⟩ := Reader.indexOf_eq_ok_iff.mp hindex
      split at h
      · rename_i inner hread
        cases h
        cases hreader _ _ _ hread with
        | decode what pos reason => exact .unreadable hinside hread
      · rename_i payload hread
        split at h
        · cases h
        · rename_i hkind
          cases h
          exact .otherKind hinside hread hkind
  · rintro (houtside | ⟨hinside, hread⟩ | ⟨hinside, hread, hkind⟩)
    · rw [Reader.indexOf, if_neg (Nat.not_lt.mpr houtside)]
    · rw [Reader.indexOf_eq_ok_iff.mpr ⟨rfl, hinside⟩]
      dsimp only
      rw [hread]
      rfl
    · rw [Reader.indexOf_eq_ok_iff.mpr ⟨rfl, hinside⟩]
      dsimp only
      rw [hread]
      exact if_neg hkind

/-! ## Records -/

/-- Why a plugin record is refused after the plugins of the records before it have been read. -/
inductive PluginRecord.Refused (policy : DuplicatePolicy) (data : Bytes)
    (before : List PluginRecord) (r : PluginRecord) : Error → Prop where
  /-- Its payload cannot be used. -/
  | payload {e : Error} :
      PayloadRefused Plugin.reader Plugin.kind PluginKind.keyName r.kind r.offset data e →
      Refused policy data before r e
  /-- Its payload can be used, but a plugin of its kind was there before, and the settings refuse a
  second one. -/
  | duplicate {plugin : Plugin} {first : PluginRecord} : policy = .reject →
      r.payload data = .ok plugin → first ∈ before → first.kind = r.kind →
      Refused policy data before r (.duplicatePlugin r.kind first.offset r.offset)

/-- Why an adapter record is refused. -/
inductive AdapterRecord.Refused (settings : Settings) (data : Bytes) (r : AdapterRecord) :
    Error → Prop where
  /-- Its payload cannot be used. -/
  | payload {e : Error} :
      PayloadRefused Adapter.reader Adapter.kind AdapterKind.typeName r.kind r.offset data e →
      Refused settings data r e
  /-- The range of its data reaches beyond the buffer. -/
  | overrun {adapter : Adapter} {offset length : UInt64} : r.payload data = .ok adapter →
      r.dataOffset = some offset → r.dataLength = some length →
      data.length < offset.toNat + length.toNat →
      Refused settings data r
        (.decode r.kind.typeName offset.toNat (.overrun length.toNat data.length))
  /-- Its data should be JSON and is not, and the settings do not put up with it. -/
  | unreadable {adapter : Adapter} {offset : UInt64} {blob : Bytes} {reason : Reason} :
      settings.jsonFallbackToBinary = false → r.UnreadableJson data adapter offset blob reason →
      Refused settings data r (.decode "adapter data" offset.toNat reason)

/-- Where the reading of a registry's records stops, and with which error. -/
structure FirstFailureLaw (settings : Settings) (data : Bytes) : Prop where
  /-- Plugins are refused for one record, which the error names; the records before it fill slots. -/
  plugins : ∀ records e, PluginSlots.ofRecords settings data records = .error e ↔
    ∃ before r after slots, records = before ++ r :: after ∧
      PluginSlots.ofRecords settings data before = .ok slots ∧
      r.Refused settings.duplicatePlugins data before e
  /-- Adapters are refused for one record, which the error names; the records before it fill a
  table. -/
  adapters : ∀ records e, AdapterTable.ofRecords settings data records = .error e ↔
    ∃ before r after table, records = before ++ r :: after ∧
      AdapterTable.ofRecords settings data before = .ok table ∧ r.Refused settings data e
  /-- Wherever a payload is read and wherever it breaks off, it is for a decoding error. -/
  plugin_isDecode : ∀ pos e, Plugin.reader.value data pos = .error e → e.IsDecode
  adapter_isDecode : ∀ pos e, Adapter.reader.value data pos = .error e → e.IsDecode

section

variable {settings : Settings} {data : Bytes}

namespace PluginSlots

/-- Behind records that fill slots, a record finds its slot taken if one of them is of its kind. -/
theorem attach_eq_error_iff_refused {before : List PluginRecord} {slots : PluginSlots}
    (hbefore : ofRecords settings data before = .ok slots) {r : PluginRecord} {e : Error} :
    attach settings.duplicatePlugins data slots r = .error e ↔
      r.Refused settings.duplicatePlugins data before e := by
  rw [attach_eq_error_iff]
  constructor
  · rintro (hpayload | ⟨hreject, ⟨plugin, hplugin⟩, offset, htaken, rfl⟩)
    · exact .payload ((readPayload_eq_error_iff Plugin.composed_reader.failsOnly).mp hpayload)
    · obtain ⟨first, hmem, hkind, rfl⟩ := exists_record_of_offset? hbefore htaken
      exact .duplicate hreject hplugin hmem hkind
  · rintro (hpayload | ⟨hreject, hplugin, hmem, hkind⟩)
    · exact .inl ((readPayload_eq_error_iff Plugin.composed_reader.failsOnly).mpr hpayload)
    · -- The settings have refused two of a kind before, so the earlier record has the slot.
      have hkinds := (exists_ofRecords_iff.mp ⟨slots, hbefore⟩).2 hreject
      exact .inr ⟨hreject, ⟨_, hplugin⟩, _, hkind ▸ offset?_of_mem hbefore hkinds hmem, rfl⟩

theorem ofRecords_eq_error_iff {records : List PluginRecord} {e : Error} :
    ofRecords settings data records = .error e ↔
      ∃ before r after slots, records = before ++ r :: after ∧
        ofRecords settings data before = .ok slots ∧
        r.Refused settings.duplicatePlugins data before e := by
  rw [ofRecords, Traversal.foldlM_eq_error_iff]
  constructor
  · rintro ⟨before, r, after, slots, hrecords, hbefore, hattach⟩
    exact ⟨before, r, after, slots, hrecords, hbefore,
      (attach_eq_error_iff_refused hbefore).mp hattach⟩
  · rintro ⟨before, r, after, slots, hrecords, hbefore, hrefused⟩
    exact ⟨before, r, after, slots, hrecords, hbefore,
      (attach_eq_error_iff_refused hbefore).mpr hrefused⟩

end PluginSlots

/-- An adapter record is refused for its payload or for its data, whatever stands before it. -/
theorem AdapterRecord.attached_eq_error_iff_refused {r : AdapterRecord} {e : Error} :
    r.attached settings data = .error e ↔ r.Refused settings data e := by
  rw [attached_eq_error_iff]
  constructor
  · rintro (hpayload | ⟨adapter, hadapter, hdata⟩)
    · exact .payload ((readPayload_eq_error_iff Adapter.composed_reader.failsOnly).mp hpayload)
    · obtain ⟨offset, length, hoffset, hlength, ⟨houtside, rfl⟩ | ⟨hinside, hread⟩⟩ :=
        attachedData_eq_error_iff.mp hdata
      · exact .overrun hadapter hoffset hlength houtside
      · obtain ⟨hjson, hnonempty, hfallback, reason, hreason, rfl⟩ :=
          AdapterData.read_eq_error_iff.mp hread
        exact .unreadable hfallback
          { payload := hadapter
            schema := Adapter.schema?_of_getD_eq_json hjson
            dataOffset := hoffset
            dataLength := ⟨length, hlength, hinside, rfl⟩
            nonempty := hnonempty
            unreadable := hreason }
  · rintro (hpayload | ⟨hadapter, hoffset, hlength, houtside⟩ | ⟨hfallback, hjson⟩)
    · exact .inl ((readPayload_eq_error_iff Adapter.composed_reader.failsOnly).mpr hpayload)
    · exact .inr ⟨_, hadapter, attachedData_eq_error_iff.mpr
        ⟨_, _, hoffset, hlength, .inl ⟨houtside, rfl⟩⟩⟩
    · obtain ⟨length, hlength, hinside, rfl⟩ := hjson.dataLength
      refine .inr ⟨_, hjson.payload, attachedData_eq_error_iff.mpr
        ⟨_, length, hjson.dataOffset, hlength, .inr ⟨hinside, ?_⟩⟩⟩
      rw [hjson.schema]
      exact AdapterData.read_eq_error_iff.mpr
        ⟨rfl, hjson.nonempty, hfallback, _, hjson.unreadable, rfl⟩

theorem AdapterTable.ofRecords_eq_error_iff {records : List AdapterRecord} {e : Error} :
    ofRecords settings data records = .error e ↔
      ∃ before r after table, records = before ++ r :: after ∧
        ofRecords settings data before = .ok table ∧ r.Refused settings data e := by
  simp only [ofRecords, Traversal.foldlM_eq_error_iff, Traversal.map_eq_error_iff,
    AdapterRecord.attached_eq_error_iff_refused]

end

/-- **The first failure.**  Under all settings and in every buffer, records that cannot be read are
refused for the first of them that is wrong. -/
theorem firstFailureLaw (settings : Settings) (data : Bytes) : FirstFailureLaw settings data where
  plugins := fun _ _ => PluginSlots.ofRecords_eq_error_iff
  adapters := fun _ _ => AdapterTable.ofRecords_eq_error_iff
  plugin_isDecode := Plugin.composed_reader.failsOnly data
  adapter_isDecode := Adapter.composed_reader.failsOnly data

/-- The second record points behind the buffer, and the third is not looked at. -/
example : PluginSlots.ofRecords {} [2]
    [⟨.burnDelegate, .owner, 0⟩, ⟨.freezeDelegate, .owner, 64⟩, ⟨.edition, .owner, 0⟩] =
      .error (.decode "freezeDelegate" 64 (.outside 1)) := rfl

end DigitalAsset
