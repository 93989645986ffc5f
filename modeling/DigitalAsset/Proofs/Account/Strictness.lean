import DigitalAsset.Account.Draft
import DigitalAsset.Proofs.Registry.Slots
import DigitalAsset.Proofs.Registry.Table

/-!
# Strict and lenient settings

Two settings decide what becomes of irregular accounts: whether two plugins of one kind are refused,
and whether data that should be JSON and is not is refused.  `Account.decode_strictnessLaw` proves
that strict settings only refuse.  An account that they read is read the same under all settings with
the same tag width.  If they refuse what lenient settings read, then there are two records of the
plugin kind that the error names, or the data of some adapter is not the JSON that it should be, and
under lenient settings its bytes are kept.

The law holds however texts spell JSON values, and so of `Json.parse`.
-/

namespace DigitalAsset

/-! ## The law -/

namespace Settings

/-- The settings with the same tag width that refuse whatever is irregular. -/
def strict (settings : Settings) : Settings :=
  { settings with duplicatePlugins := .reject, jsonFallbackToBinary := false }

/-- The settings with the same tag width that put up with whatever is irregular. -/
def lenient (settings : Settings) : Settings :=
  { settings with duplicatePlugins := .lastWins, jsonFallbackToBinary := true }

end Settings

/-- The record leads to an adapter with JSON as its schema, and to a blob of data at `offset` that is
not empty and spells no JSON value in UTF-8. -/
structure AdapterRecord.UnreadableJson (data : Bytes) (r : AdapterRecord) (adapter : Adapter)
    (offset : UInt64) (blob : Bytes) (reason : Reason) (spelling : Json.Spelling := Json.parse) :
    Prop where
  payload : r.payload data = .ok adapter
  schema : adapter.schema? = some .json
  dataOffset : r.dataOffset = some offset
  dataLength : ∃ length, r.dataLength = some length ∧ offset.toNat + length.toNat ≤ data.length ∧
    blob = (data.drop offset.toNat).take length.toNat
  nonempty : blob ≠ []
  unreadable : Json.ofBytes blob spelling = .error reason

/-- Why strict settings refuse the records of a registry of which lenient settings make `table`. -/
inductive Registry.Refused (spelling : Json.Spelling) (settings : Settings) (data : Bytes)
    (registry : Registry) (table : AdapterTable) : Error → Prop where
  /-- Two of the plugins are of one kind. -/
  | duplicate {first second : PluginRecord} :
      [first, second].Sublist registry.plugins → first.kind = second.kind →
      Refused spelling settings data registry table
        (.duplicatePlugin second.kind first.offset second.offset)
  /-- The data of an adapter should be JSON and is not; lenient settings keep its bytes. -/
  | unreadable {r : AdapterRecord} {entry : AttachedAdapter Adapter} {offset : UInt64}
      {blob : Bytes} {reason : Reason} :
      r ∈ registry.adapters → r.UnreadableJson data entry.payload offset blob reason spelling →
      r.attached settings.lenient data spelling = .ok entry → entry ∈ table.ofKind r.kind →
      entry.data = some (.binary blob) →
      Refused spelling settings data registry table (.decode "adapter data" offset.toNat reason)

/-- What strictness may do to the reading of an account in `data`. -/
structure Account.StrictnessLaw (spelling : Json.Spelling)
    (decode : Settings → Except Error (Account Base)) (settings : Settings) (data : Bytes) :
    Prop where
  /-- What strict settings read, all settings read. -/
  same : ∀ account, decode settings.strict = .ok account → decode settings = .ok account
  /-- What strict settings refuse and lenient settings read is irregular. -/
  refused : ∀ account e, decode settings.lenient = .ok account →
    decode settings.strict = .error e →
    ∃ header registry, account.extension.header = some header ∧
      (Registry.reader settings).value data header.registryOffset.toNat = .ok registry ∧
      registry.Refused spelling settings data account.adapters e

section

variable {spelling : Json.Spelling} {settings : Settings} {data : Bytes}

/-! ## Plugins -/

namespace PluginSlots

theorem ofRecords_of_strict {records : List PluginRecord} {slots : PluginSlots}
    (h : ofRecords settings.strict data records = .ok slots) :
    ofRecords settings data records = .ok slots :=
  Traversal.foldlM_of_step attach_of_reject h

/-- If the payload can be used then only a slot that is taken stands in its way. -/
theorem attach_reject_eq_error {slots : PluginSlots} {r : PluginRecord} {plugin : Plugin} {e : Error}
    (hplugin : r.payload data = .ok plugin) (h : attach .reject data slots r = .error e) :
    ∃ first, slots.offset? r.kind = some first ∧ e = .duplicatePlugin r.kind first r.offset := by
  rcases attach_eq_error_iff.mp h with hfails | ⟨_, _, hduplicate⟩
  · cases hplugin.symm.trans hfails
  · exact hduplicate

/-- Plugins that only strict settings refuse are two of one kind. -/
theorem exists_duplicate {records : List PluginRecord} {slots : PluginSlots} {e : Error}
    (hlenient : ofRecords settings.lenient data records = .ok slots)
    (hstrict : ofRecords settings.strict data records = .error e) :
    ∃ first second : PluginRecord, [first, second].Sublist records ∧ first.kind = second.kind ∧
      e = .duplicatePlugin second.kind first.offset second.offset := by
  obtain ⟨before, second, after, reached, rfl, hbefore, hfails⟩ :=
    Traversal.exists_failure_of_foldlM hstrict
  -- Lenient settings get past the record, so its payload can be used.
  obtain ⟨_, _, hstep⟩ := Traversal.exists_step_of_foldlM hlenient
    (List.mem_append_right before List.mem_cons_self)
  obtain ⟨plugin, hplugin, _, _⟩ := attach_eq_ok_iff.mp hstep
  obtain ⟨offset, htaken, rfl⟩ := attach_reject_eq_error hplugin hfails
  obtain ⟨first, hmem, hkind, rfl⟩ := exists_record_of_offset? hbefore htaken
  refine ⟨first, second, ?_, hkind, rfl⟩
  exact (List.singleton_sublist.mpr hmem).append (List.singleton_sublist.mpr List.mem_cons_self)

end PluginSlots

/-! ## Adapters -/

theorem AdapterData.read_of_strict {schema : Schema} {offset : Nat} {bytes : Bytes}
    {value : Option AdapterData} (h : read settings.strict schema offset bytes spelling = .ok value) :
    read settings schema offset bytes spelling = .ok value := by
  cases schema with
  | binary => exact h
  | msgPack => exact h
  | json =>
    cases bytes with
    | nil => exact h
    | cons b rest =>
      cases hjson : Json.ofBytes (b :: rest) spelling with
      | ok value => simpa [read, hjson] using h
      -- Strict settings read no such bytes.
      | error reason => simp [read, hjson, Settings.strict] at h

namespace AdapterRecord

theorem attached_of_strict {r : AdapterRecord} {entry : AttachedAdapter Adapter}
    (h : r.attached settings.strict data spelling = .ok entry) :
    r.attached settings data spelling = .ok entry := by
  obtain ⟨adapter, attached, hpayload, hdata, rfl⟩ := attached_eq_ok_iff.mp h
  refine attached_eq_ok_iff.mpr ⟨adapter, attached, hpayload, ?_, rfl⟩
  rw [attachedData_eq_ok_iff] at hdata ⊢
  refine hdata.imp_right ?_
  rintro ⟨offset, length, hoffset, hlength, hinside, hread⟩
  exact ⟨offset, length, hoffset, hlength, hinside, AdapterData.read_of_strict hread⟩

/-- Data that only strict settings refuse should be JSON and is not, and lenient settings keep its
bytes. -/
theorem attachedData_refused {r : AdapterRecord} {adapter : Adapter} {attached : Option AdapterData}
    {e : Error} (hpayload : r.payload data = .ok adapter)
    (hlenient : r.attachedData settings.lenient data adapter spelling = .ok attached)
    (hstrict : r.attachedData settings.strict data adapter spelling = .error e) :
    ∃ offset blob reason, r.UnreadableJson data adapter offset blob reason spelling ∧
      attached = some (.binary blob) ∧ e = .decode "adapter data" offset.toNat reason := by
  rcases attachedData_eq_ok_iff.mp hlenient with
    ⟨hnone, _⟩ | ⟨offset, length, hoffset, hlength, hinside, hread⟩
  · -- Without data there is nothing to refuse.
    rw [attachedData_eq_ok_iff.mpr (.inl ⟨hnone, rfl⟩)] at hstrict
    cases hstrict
  · rw [attachedData_of_range hoffset hlength hinside] at hstrict
    obtain ⟨hjson, hnonempty, _, reason, hreason, rfl⟩ := AdapterData.read_eq_error_iff.mp hstrict
    rw [hjson, AdapterData.read_of_unreadable hnonempty hreason rfl] at hread
    exact ⟨offset, _, reason,
      { payload := hpayload
        schema := Adapter.schema?_of_getD_eq_json hjson
        dataOffset := hoffset
        dataLength := ⟨length, hlength, hinside, rfl⟩
        nonempty := hnonempty
        unreadable := hreason },
      (Except.ok.inj hread).symm, rfl⟩

theorem attached_refused {r : AdapterRecord} {entry : AttachedAdapter Adapter} {e : Error}
    (hlenient : r.attached settings.lenient data spelling = .ok entry)
    (hstrict : r.attached settings.strict data spelling = .error e) :
    ∃ offset blob reason, r.UnreadableJson data entry.payload offset blob reason spelling ∧
      entry.data = some (.binary blob) ∧ e = .decode "adapter data" offset.toNat reason := by
  obtain ⟨adapter, attached, hpayload, hdata, rfl⟩ := attached_eq_ok_iff.mp hlenient
  rcases attached_eq_error_iff.mp hstrict with hfails | ⟨same, hsame, hfails⟩
  · cases hpayload.symm.trans hfails
  · obtain rfl : adapter = same := Except.ok.inj (hpayload.symm.trans hsame)
    exact attachedData_refused hpayload hdata hfails

end AdapterRecord

namespace AdapterTable

theorem ofRecords_of_strict {records : List AdapterRecord} {table : AdapterTable}
    (h : ofRecords settings.strict data records spelling = .ok table) :
    ofRecords settings data records spelling = .ok table :=
  ofRecords_of_attached AdapterRecord.attached_of_strict h

/-- Adapters that only strict settings refuse include one with data that should be JSON and is not,
and its bytes are in the table. -/
theorem exists_unreadable {records : List AdapterRecord} {table : AdapterTable} {e : Error}
    (hlenient : ofRecords settings.lenient data records spelling = .ok table)
    (hstrict : ofRecords settings.strict data records spelling = .error e) :
    ∃ r ∈ records, ∃ entry offset blob reason,
      r.UnreadableJson data entry.payload offset blob reason spelling ∧
      r.attached settings.lenient data spelling = .ok entry ∧ entry ∈ table.ofKind r.kind ∧
      entry.data = some (.binary blob) ∧ e = .decode "adapter data" offset.toNat reason := by
  obtain ⟨before, r, after, reached, rfl, _, hfails⟩ := Traversal.exists_failure_of_foldlM hstrict
  have hmem : r ∈ before ++ r :: after := List.mem_append_right before List.mem_cons_self
  obtain ⟨_, _, hstep⟩ := Traversal.exists_step_of_foldlM hlenient hmem
  obtain ⟨entry, hentry, _⟩ := Traversal.map_eq_ok_iff.mp hstep
  obtain ⟨offset, blob, reason, hjson, hdata, he⟩ :=
    AdapterRecord.attached_refused hentry (Traversal.map_eq_error_iff.mp hfails)
  exact ⟨r, hmem, entry, offset, blob, reason, hjson, hentry,
    mem_ofKind_of_ofRecords hlenient hmem hentry, hdata, he⟩

end AdapterTable

/-! ## Extensions -/

/-- Of the settings the registry knows only the tag width. -/
theorem Registry.reader_strict : reader settings.strict = reader settings := rfl

theorem Registry.reader_lenient : reader settings.lenient = reader settings := rfl

namespace Extension

theorem readAt_of_strict {baseEnd : Nat} {extension : Extension}
    (h : readAt settings.strict data baseEnd spelling = .ok extension) :
    readAt settings data baseEnd spelling = .ok extension := by
  rw [readAt_eq_ok_iff] at h ⊢
  refine h.imp_right ?_
  rintro ⟨header, registry, hfound⟩
  exact ⟨header, registry,
    { behind := hfound.behind
      reads_header := hfound.reads_header
      inside := hfound.inside
      reads_registry := hfound.reads_registry
      plugins := PluginSlots.ofRecords_of_strict hfound.plugins
      adapters := AdapterTable.ofRecords_of_strict hfound.adapters
      header_eq := hfound.header_eq }⟩

/-- Once the registry is found, strict settings fail with its plugins or with its adapters. -/
theorem Found.readAt_strict_eq_error {baseEnd : Nat} {header : PluginHeader} {registry : Registry}
    {extension : Extension} {e : Error}
    (hfound : Found settings.lenient data baseEnd header registry extension spelling)
    (h : readAt settings.strict data baseEnd spelling = .error e) :
    PluginSlots.ofRecords settings.strict data registry.plugins = .error e ∨
      AdapterTable.ofRecords settings.strict data registry.adapters spelling = .error e := by
  have hregistry := hfound.reads_registry
  rw [Registry.reader_lenient, ← Registry.reader_strict] at hregistry
  rw [readAt, if_neg (Nat.not_le.mpr hfound.behind)] at h
  simp only [hfound.reads_header, Reader.indexOf_eq_ok_iff.mpr ⟨rfl, hfound.inside⟩, hregistry,
    Traversal.bind_eq_error_iff, Except.ok.injEq, reduceCtorEq, false_or, exists_eq_left'] at h
  rcases h with hplugins | ⟨_, _, hadapters | ⟨_, _, hdone⟩⟩
  · exact .inl hplugins
  · exact .inr hadapters
  · cases hdone

theorem exists_refused {baseEnd : Nat} {extension : Extension} {e : Error}
    (hlenient : readAt settings.lenient data baseEnd spelling = .ok extension)
    (hstrict : readAt settings.strict data baseEnd spelling = .error e) :
    ∃ header registry, extension.header = some header ∧
      (Registry.reader settings).value data header.registryOffset.toNat = .ok registry ∧
      registry.Refused spelling settings data extension.adapters e := by
  rcases readAt_eq_ok_iff.mp hlenient with ⟨hend, _⟩ | ⟨header, registry, hfound⟩
  · -- Where the buffer ends with the base record no settings fail.
    rw [readAt_eq_ok_iff.mpr (.inl ⟨hend, rfl⟩)] at hstrict
    cases hstrict
  · refine ⟨header, registry, hfound.header_eq, hfound.reads_registry, ?_⟩
    rcases hfound.readAt_strict_eq_error hstrict with hplugins | hadapters
    · obtain ⟨first, second, hrecords, hkind, rfl⟩ :=
        PluginSlots.exists_duplicate hfound.plugins hplugins
      exact .duplicate hrecords hkind
    · obtain ⟨r, hr, entry, offset, blob, reason, hjson, hattached, hentry, hdata, rfl⟩ :=
        AdapterTable.exists_unreadable hfound.adapters hadapters
      exact .unreadable hr hjson hattached hentry hdata

end Extension

/-! ## Accounts -/

/-- The law holds whatever reads the base record. -/
theorem Account.strictnessLaw (reader : Reader Base) (spelling : Json.Spelling)
    (settings : Settings) (address : Address) (data : Bytes) :
    StrictnessLaw spelling (fun s => decode reader s address data spelling) settings data where
  same := by
    intro account hstrict
    obtain ⟨haddress, baseEnd, hbase, hextension⟩ := decode_eq_ok_iff.mp hstrict
    exact decode_eq_ok_iff.mpr
      ⟨haddress, baseEnd, hbase, Extension.readAt_of_strict hextension⟩
  refused := by
    intro account e hlenient hstrict
    obtain ⟨_, baseEnd, hbase, hextension⟩ := decode_eq_ok_iff.mp hlenient
    -- The base record is read without settings, so strict settings fail behind it.
    simp only [decode, hbase, Traversal.bind_eq_error_iff, Except.ok.injEq, reduceCtorEq, false_or,
      exists_eq_left'] at hstrict
    rcases hstrict with hfails | ⟨_, _, hdone⟩
    · exact Extension.exists_refused hextension hfails
    · cases hdone

end

/-- **Strictness.**  Strict settings never change what is read of an asset or a collection, they only
refuse some: those with two plugins of one kind, and those with data that should be JSON and is
not, whatever texts are taken for JSON. -/
theorem Account.decode_strictnessLaw (spelling : Json.Spelling) (settings : Settings)
    (address : Address) (data : Bytes) :
    StrictnessLaw spelling (fun s => Asset.decode s address data spelling) settings data ∧
      StrictnessLaw spelling (fun s => Collection.decode s address data spelling) settings data :=
  ⟨strictnessLaw AssetBase.reader spelling settings address data,
    strictnessLaw CollectionBase.reader spelling settings address data⟩

/-! ## Irregular accounts -/

/-- A draft with two plugins of one kind. -/
def Draft.twoFreezes : Draft where
  plugins := [.known .owner (.freezeDelegate true), .known .updateAuthority (.freezeDelegate false)]

/-- A draft with an adapter whose data is half a JSON object. -/
def Draft.halfJson : Draft where
  adapters := [⟨.owner, none, .appData ⟨.owner, .json⟩, some [0x7b]⟩]

/-- The bytes of an asset with a draft. -/
def Draft.assetBytes (d : Draft) : Bytes := d.encode (AssetBase.placeholder .zero .none).encode

/-- Either draft makes an asset that lenient settings read and strict settings refuse. -/
theorem Account.decode_strictnessLaw_irregular :
    (∃ (asset : Asset) (registry : Registry),
      Asset.decode {} .zero Draft.twoFreezes.assetBytes = .ok asset ∧
      Asset.decode (Settings.strict {}) .zero Draft.twoFreezes.assetBytes =
        .error (.duplicatePlugin .freezeDelegate 92 94) ∧
      registry.Refused Json.parse {} Draft.twoFreezes.assetBytes asset.adapters
        (.duplicatePlugin .freezeDelegate 92 94)) ∧
    ∃ (asset : Asset) (registry : Registry),
      Asset.decode {} .zero Draft.halfJson.assetBytes = .ok asset ∧
      Asset.decode (Settings.strict {}) .zero Draft.halfJson.assetBytes =
        .error (.decode "adapter data" 95 (.notJson ⟨.eofObject, 1, 1⟩)) ∧
      registry.Refused Json.parse {} Draft.halfJson.assetBytes asset.adapters
        (.decode "adapter data" 95 (.notJson ⟨.eofObject, 1, 1⟩)) := by
  have hrefused (d : Draft) (e : Error)
      (hlenient : (Asset.decode {} .zero d.assetBytes).map (fun _ => ()) = .ok ())
      (hstrict : (Asset.decode (Settings.strict {}) .zero d.assetBytes).map (fun _ => ()) =
        .error e) :
      ∃ (asset : Asset) (registry : Registry),
        Asset.decode {} .zero d.assetBytes = .ok asset ∧
        Asset.decode (Settings.strict {}) .zero d.assetBytes = .error e ∧
        registry.Refused Json.parse {} d.assetBytes asset.adapters e := by
    obtain ⟨asset, hasset, _⟩ := Traversal.map_eq_ok_iff.mp hlenient
    have herror := Traversal.map_eq_error_iff.mp hstrict
    obtain ⟨_, registry, _, _, hreason⟩ :=
      (Account.decode_strictnessLaw Json.parse {} .zero d.assetBytes).1.refused asset e hasset herror
    exact ⟨asset, registry, hasset, herror, hreason⟩
  constructor
  · exact hrefused Draft.twoFreezes _ (by decide +kernel) (by decide +kernel)
  · exact hrefused Draft.halfJson _ (by decide +kernel) (by decide +kernel)

end DigitalAsset
