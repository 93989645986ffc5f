import DigitalAsset.Proofs.Account.Entries

/-!
# Written accounts are read back

`Draft.decode_written_account` is the round trip of a whole account: what is written from a base
record and a draft is read as that base record with exactly what the draft describes
(`Draft.extension`).  The bytes of a draft are a header, the payloads and a registry
(`Draft.encode_eq`), so each part is found where the part before it ends.
-/

namespace DigitalAsset

/-! ## Headers and base records -/

theorem PluginHeader.reads_encode (h : PluginHeader) : Reads PluginHeader.reader h.encode h :=
  (Marker.reads_tag .pluginHeader).bind ((Reader.reads_u64 _ h.registryOffset).map)

theorem PluginHeader.length_encode (h : PluginHeader) : h.encode.length = width := by
  rw [encode, List.length_append, Wire.u64, Bytes.length_ofNatLE]
  rfl

theorem AssetBase.reads_encode {b : AssetBase} (h : b.Fits) : Reads AssetBase.reader b.encode b := by
  simp only [encode, List.append_assoc]
  apply (Marker.reads_tag .asset).bind
  apply (Reader.reads_address _ b.owner).bind
  apply b.updateAuthority.reads_encode.bind
  apply (Reader.reads_string _ h.1).bind
  apply (Reader.reads_string _ h.2).bind
  exact (Reader.reads_option fun n _ => Reader.reads_u64 _ n).map

theorem CollectionBase.reads_encode {b : CollectionBase} (h : b.Fits) :
    Reads CollectionBase.reader b.encode b := by
  simp only [encode, List.append_assoc]
  apply (Marker.reads_tag .collection).bind
  apply (Reader.reads_address _ b.updateAuthority).bind
  apply (Reader.reads_string _ h.1).bind
  apply (Reader.reads_string _ h.2).bind
  apply (Reader.reads_u32 _ b.numMinted).bind
  exact (Reader.reads_u32 _ b.currentSize).map

/-! ## The bytes of a draft -/

namespace Draft

/-- The registry entries of the plugins. -/
def writtenPlugins (d : Draft) (start : Nat) : List WrittenPlugin :=
  (d.placedPlugins start).map fun x => x.2.written x.1

/-- The registry entries of the adapters, the unknown ones last. -/
def writtenAdapters (d : Draft) (start : Nat) : List WrittenAdapter :=
  let first := start + d.pluginPayloads.length
  let next := first + (d.adapters.flatMap AdapterDraft.payload).length
  (placed AdapterDraft.payload first d.adapters).map (fun x => x.2.written x.1) ++
    (placed UnknownAdapterDraft.payload next d.unknownAdapters).map fun x => x.2.written x.1

/-- The bytes of the registry. -/
def registryBytes (d : Draft) (start : Nat) : Bytes :=
  Registry.encodePlugins (d.writtenPlugins start) ++
    if d.externalSection then Wire.list WrittenAdapter.encode (d.writtenAdapters start) else []

theorem length_writtenPlugins (d : Draft) (start : Nat) :
    (d.writtenPlugins start).length = d.plugins.length := by
  rw [writtenPlugins, List.length_map, placedPlugins, length_placed]

theorem length_writtenAdapters (d : Draft) (start : Nat) :
    (d.writtenAdapters start).length = d.adapters.length + d.unknownAdapters.length := by
  rw [writtenAdapters, List.length_append, List.length_map, List.length_map, length_placed,
    length_placed]

theorem placePlugins_eq (d : Draft) (start : Nat) :
    d.placePlugins start =
      ⟨d.pluginPayloads, (d.writtenPlugins start).flatMap WrittenPlugin.encode⟩ := by
  rw [placePlugins, Placement.mk.injEq, Placement.payloads_ofList, Placement.records_ofList]
  refine ⟨rfl, ?_⟩
  simp only [PluginDraft.record_eq, writtenPlugins, placedPlugins, List.flatMap_map]

theorem adapterSection_eq (d : Draft) (start : Nat) :
    d.adapterSection (start + d.pluginPayloads.length) =
      ⟨d.adapterPayloads,
        if d.externalSection then Wire.list WrittenAdapter.encode (d.writtenAdapters start)
        else []⟩ := by
  rw [adapterSection, adapterPayloads]
  by_cases hsection : d.externalSection = true
  · rw [if_pos hsection, if_pos hsection, if_pos hsection, Wire.list, length_writtenAdapters]
    simp only [placeAdapters, Placement.append, Placement.payloads_ofList,
      Placement.records_ofList, writtenAdapters, List.flatMap_append, List.flatMap_map,
      AdapterDraft.record_eq, UnknownAdapterDraft.record_eq]
  · simp only [hsection, if_false, Bool.false_eq_true]

/-- A draft that lists anything is written as a header, all payloads and the registry. -/
theorem encode_eq {d : Draft} (h : d.isEmpty = false) (base : Bytes) :
    let start := base.length + PluginHeader.width
    d.encode base =
      base ++ ((d.header start).encode ++
        (d.pluginPayloads ++ (d.adapterPayloads ++ d.registryBytes start))) := by
  intro start
  simp only [encode, h, Bool.false_eq_true, if_false, placePlugins_eq, adapterSection_eq,
    registryBytes, Registry.encodePlugins, Wire.list, length_writtenPlugins, header, registryStart,
    List.append_assoc, List.length_append, start]

/-! ## Reading the registry of a draft -/

theorem valid_writtenPlugins {settings : Settings} (hwidth : settings.unknownTagWidth ≤ 1)
    {d : Draft} (h : d.Fits) (start : Nat) :
    ∀ e ∈ d.writtenPlugins start, e.Valid settings := by
  intro e he
  obtain ⟨x, hx, rfl⟩ := List.mem_map.mp he
  exact PluginDraft.valid_written hwidth (h.plugins x.2 (mem_of_mem_placed hx)) x.1

theorem valid_writtenAdapters {settings : Settings} (hwidth : settings.unknownTagWidth ≤ 1)
    {d : Draft} (h : d.Fits) (start : Nat) :
    ∀ e ∈ d.writtenAdapters start, e.Valid settings := by
  intro e he
  rcases List.mem_append.mp he with hknown | hunknown
  · obtain ⟨x, hx, rfl⟩ := List.mem_map.mp hknown
    exact AdapterDraft.valid_written (h.adapters x.2 (mem_of_mem_placed hx)) settings x.1
  · obtain ⟨x, hx, rfl⟩ := List.mem_map.mp hunknown
    exact UnknownAdapterDraft.valid_written hwidth
      (h.unknownAdapters x.2 (mem_of_mem_placed hx)) x.1

/-- Of the adapter entries the known ones are left. -/
theorem filterMap_writtenAdapters {d : Draft} (hsection : d.externalSection = true) (start : Nat) :
    (d.writtenAdapters start).filterMap WrittenAdapter.record? =
      (d.placedAdapters start).map fun x => x.2.entry x.1 := by
  have hknown (x : Nat × AdapterDraft) :
      (x.2.written x.1).record? = some (x.2.entry x.1) := rfl
  have hunknown (x : Nat × UnknownAdapterDraft) : (x.2.written x.1).record? = none := rfl
  rw [writtenAdapters, placedAdapters, if_pos hsection, List.filterMap_append, List.filterMap_map,
    List.filterMap_map]
  simp [hknown, hunknown]

/-- The registry of a draft, which the buffer ends with, holds the records of its known entries. -/
theorem value_reader_registryBytes {settings : Settings} (hwidth : settings.unknownTagWidth ≤ 1)
    {d : Draft} (h : d.Fits) (start : Nat) (front : Bytes) :
    (Registry.reader settings).value (front ++ d.registryBytes start) front.length =
      .ok ⟨(d.writtenPlugins start).filterMap WrittenPlugin.record?,
        (d.placedAdapters start).map fun x => x.2.entry x.1⟩ := by
  have hplugins := valid_writtenPlugins hwidth h start
  have hp : (d.writtenPlugins start).length < 2 ^ 32 := by
    rw [length_writtenPlugins]
    exact h.pluginCount
  rw [registryBytes]
  by_cases hsection : d.externalSection = true
  · have ha : (d.writtenAdapters start).length < 2 ^ 32 := by
      rw [length_writtenAdapters]
      exact h.adapterCount
    have hread := (Registry.reads_lists hplugins (valid_writtenAdapters hwidth h start) hp ha).value
      front []
    rw [List.append_nil, filterMap_writtenAdapters hsection] at hread
    rw [if_pos hsection, hread]
  · have hread := Registry.reader_encodePlugins hplugins hp front
    simp only [hsection, Bool.false_eq_true, if_false, List.append_nil, placedAdapters,
      List.map_nil, Reader.value, hread]

/-! ## Reading what a draft describes -/

variable {settings : Settings} {d : Draft} {base data : Bytes} {start : Nat}

theorem ofRecords_writtenPlugins (hduplicate : settings.duplicatePlugins = .lastWins)
    (hfits : d.Fits) (hstands : StandsAt d.pluginPayloads data start)
    (hsize : data.length < 2 ^ 64) :
    PluginSlots.ofRecords settings data ((d.writtenPlugins start).filterMap WrittenPlugin.record?) =
      .ok (d.slots start) := by
  have hread := PluginSlots.foldlM_attach
    (fun x hx => hfits.plugins x.2 (mem_of_mem_placed hx)) (fun x hx => hstands.of_mem_placed hx)
    hsize .empty
  simp only [PluginSlots.get?_empty, Option.or_none] at hread
  rw [PluginSlots.ofRecords, hduplicate]
  exact hread

theorem standsAt_placedAdapters
    (hstands : StandsAt d.adapterPayloads data (start + d.pluginPayloads.length))
    {x : Nat × AdapterDraft} (hx : x ∈ d.placedAdapters start) :
    x.2 ∈ d.adapters ∧ StandsAt x.2.payload data x.1 := by
  rw [placedAdapters] at hx
  split at hx
  · rename_i hsection
    rw [adapterPayloads, if_pos hsection] at hstands
    exact ⟨mem_of_mem_placed hx, hstands.left.of_mem_placed hx⟩
  · cases hx

theorem ofRecords_placedAdapters (hjson : settings.jsonFallbackToBinary = true) (hfits : d.Fits)
    (hstands : StandsAt d.adapterPayloads data (start + d.pluginPayloads.length))
    (hsize : data.length < 2 ^ 64) :
    AdapterTable.ofRecords settings data
        ((d.placedAdapters start).map fun x => x.2.entry x.1) = .ok (d.table start) := by
  apply AdapterTable.ofRecords_map
  intro x hx
  obtain ⟨hmem, hat⟩ := standsAt_placedAdapters hstands hx
  exact AdapterDraft.attached_entry hjson (hfits.adapters x.2 hmem) hat hsize

/-- The header and the payloads of a draft stand one after the other behind the base record. -/
theorem standsAt_parts (h : d.isEmpty = false) (base : Bytes) :
    let start := base.length + PluginHeader.width
    StandsAt (d.header start).encode (d.encode base)
        base.length ∧
      StandsAt d.pluginPayloads (d.encode base) start ∧
      StandsAt d.adapterPayloads (d.encode base) (start + d.pluginPayloads.length) := by
  intro start
  have hafter : StandsAt
      ((d.header start).encode ++
        (d.pluginPayloads ++ (d.adapterPayloads ++ d.registryBytes start)))
      (d.encode base) base.length := by
    refine ⟨base, [], ?_, rfl⟩
    rw [encode_eq h, List.append_nil]
  have hpayloads := hafter.right
  rw [PluginHeader.length_encode] at hpayloads
  exact ⟨hafter.left, hpayloads.left, hpayloads.right.left⟩

/-- The registry of a draft is found where the header says. -/
theorem registry_encode (hwidth : settings.unknownTagWidth ≤ 1) (hfits : d.Fits)
    (h : d.isEmpty = false) (base : Bytes) :
    let start := base.length + PluginHeader.width
    d.registryStart start < (d.encode base).length ∧
      (Registry.reader settings).value (d.encode base) (d.registryStart start) =
        .ok ⟨(d.writtenPlugins start).filterMap WrittenPlugin.record?,
          (d.placedAdapters start).map fun x => x.2.entry x.1⟩ := by
  intro start
  let front := base ++ ((d.header start).encode ++
    (d.pluginPayloads ++ d.adapterPayloads))
  have hdata : d.encode base = front ++ d.registryBytes start := by
    simp only [encode_eq h, front, start, List.append_assoc]
  have hfront : front.length = d.registryStart start := by
    simp only [front, List.length_append, PluginHeader.length_encode, registryStart, start]
    omega
  rw [hdata, ← hfront]
  refine ⟨?_, value_reader_registryBytes hwidth hfits start front⟩
  -- The marker of the registry stands inside the buffer.
  rw [registryBytes, Registry.encodePlugins, Wire.u8]
  simp only [List.length_append, List.length_singleton]
  omega

/-- After the base record stands what the draft describes. -/
theorem readAt_encode (hwidth : settings.unknownTagWidth ≤ 1)
    (hduplicate : settings.duplicatePlugins = .lastWins)
    (hjson : settings.jsonFallbackToBinary = true) (hfits : d.Fits)
    (hsize : (d.encode base).length < 2 ^ 64) :
    Extension.readAt settings (d.encode base) base.length = .ok (d.extension base.length) := by
  cases hempty : d.isEmpty with
  | true =>
    -- Nothing is written, so the buffer ends with the base record.
    have hbase : d.encode base = base := if_pos hempty
    rw [hbase, Extension.readAt, if_pos (Nat.le_refl _), extension_of_isEmpty hempty]
    rfl
  | false =>
    obtain ⟨hheader, hplugins, hadapters⟩ := standsAt_parts hempty base
    obtain ⟨hinside, hregistry⟩ := registry_encode hwidth hfits hempty base
    have hbehind : ¬ (d.encode base).length ≤ base.length := by
      have hend := hheader.add_length_le
      rw [PluginHeader.length_encode, PluginHeader.width] at hend
      omega
    have hvalue : PluginHeader.reader.value (d.encode base) base.length =
        .ok (d.header (base.length + PluginHeader.width)) := by
      rw [Reader.value, (PluginHeader.reads_encode _).of_standsAt hheader]
    have hslots := ofRecords_writtenPlugins hduplicate hfits hplugins hsize
    have htable := ofRecords_placedAdapters hjson hfits hadapters hsize
    have hstart := indexOf_ofNat "plugin_registry" hsize hinside
    simp only [Extension.readAt, if_neg hbehind, hvalue, hstart, hregistry, hslots, htable, bind,
      Except.bind, extension, header, hempty]
    rfl

theorem standsAt_base (d : Draft) (base : Bytes) : StandsAt base (d.encode base) 0 := by
  cases hempty : d.isEmpty with
  | true => exact ⟨[], [], by rw [encode, if_pos hempty, List.append_nil, List.nil_append], rfl⟩
  | false => exact ⟨[], _, by rw [encode_eq hempty, List.nil_append], rfl⟩

/-! ## The round trip -/

/-- A draft after a base record has been read back: the answer is the account that the draft
describes, which has a header if and only if the draft lists anything, and each payload stands at the
offset that the account gives for it. -/
structure ReadBack (d : Draft) (address : Address) (base : Base) (bytes : Bytes)
    (answer : Except Error (Account Base)) : Prop where
  account : answer = .ok ⟨address, base, d.extension bytes.length⟩
  header : (d.extension bytes.length).header = none ↔
    d.plugins = [] ∧ d.adapters = [] ∧ d.unknownAdapters = []
  plugins : ∀ x ∈ d.placedPlugins (bytes.length + PluginHeader.width),
    StandsAt x.2.payload (d.encode bytes) x.1
  adapters : ∀ x ∈ d.placedAdapters (bytes.length + PluginHeader.width),
    StandsAt x.2.payload (d.encode bytes) x.1

theorem extension_header_eq_none_iff (d : Draft) (baseLength : Nat) :
    (d.extension baseLength).header = none ↔
      d.plugins = [] ∧ d.adapters = [] ∧ d.unknownAdapters = [] := by
  simp [extension, isEmpty, and_assoc]

/-- Every reader that reads a base record reads the account written from it. -/
theorem readBack_of_reads {reader : Reader Base} {b : Base} {bytes : Bytes}
    (hwidth : settings.unknownTagWidth ≤ 1) (hduplicate : settings.duplicatePlugins = .lastWins)
    (hjson : settings.jsonFallbackToBinary = true) (hfits : d.Fits) (address : Address)
    (hread : Reads reader bytes b) (hsize : (d.encode bytes).length < 2 ^ 64) :
    d.ReadBack address b bytes (Account.decode reader settings address (d.encode bytes)) where
  account := by
    have hbase : reader (d.encode bytes) 0 = ⟨.ok b, bytes.length⟩ := by
      rw [hread.of_standsAt (d.standsAt_base bytes), Nat.zero_add]
    have hextension := readAt_encode hwidth hduplicate hjson hfits hsize
    simp only [Account.decode, hbase, hextension, bind, Except.bind]
    rfl
  header := d.extension_header_eq_none_iff bytes.length
  plugins := by
    intro x hx
    cases hempty : d.isEmpty with
    | true =>
      have hnone : d.plugins = [] := by simp_all [isEmpty]
      rw [placedPlugins, hnone] at hx
      cases hx
    | false => exact (standsAt_parts hempty bytes).2.1.of_mem_placed hx
  adapters := by
    intro x hx
    cases hempty : d.isEmpty with
    | true =>
      have hnone : d.adapters = [] := by simp_all [isEmpty]
      rw [placedAdapters, hnone, placed, ite_self] at hx
      cases hx
    | false => exact (standsAt_placedAdapters (standsAt_parts hempty bytes).2.2 hx).2

/-- **The round trip of whole accounts.**  What is written from the base record of an asset or a
collection and a draft is read as that base record with all that the draft describes. -/
theorem decode_written_account (settings : Settings) (hwidth : settings.unknownTagWidth ≤ 1)
    (hduplicate : settings.duplicatePlugins = .lastWins)
    (hjson : settings.jsonFallbackToBinary = true) (d : Draft) (hfits : d.Fits)
    (address : Address) :
    (∀ base : AssetBase, base.Fits → (d.encode base.encode).length < 2 ^ 64 →
      d.ReadBack address base base.encode
        (Asset.decode settings address (d.encode base.encode))) ∧
    ∀ base : CollectionBase, base.Fits → (d.encode base.encode).length < 2 ^ 64 →
      d.ReadBack address base base.encode
        (Collection.decode settings address (d.encode base.encode)) := by
  constructor
  · intro base hbase hsize
    exact readBack_of_reads hwidth hduplicate hjson hfits address (AssetBase.reads_encode hbase)
      hsize
  · intro base hbase hsize
    exact readBack_of_reads hwidth hduplicate hjson hfits address
      (CollectionBase.reads_encode hbase) hsize

/-- A draft with two plugins of one kind, JSON data that is none, and unknown entries. -/
def sample : Draft where
  plugins :=
    [.known .owner (.freezeDelegate true), .unknown 77 (.address .zero),
      .known .updateAuthority (.attributes [⟨"color", "blue"⟩]), .known .none (.freezeDelegate false)]
  adapters :=
    [⟨.updateAuthority, some [(.create, 1), (.burn, 4), (.create, 2)], .appData ⟨.owner, .json⟩,
      some [123, 34]⟩]
  unknownAdapters := [⟨9, .owner⟩]

theorem decode_written_sample :
    sample.ReadBack .zero (AssetBase.placeholder .zero .none)
        (AssetBase.placeholder .zero .none).encode
        (Asset.decode {} .zero (sample.encode (AssetBase.placeholder .zero .none).encode)) ∧
      sample.ReadBack .zero (CollectionBase.placeholder .zero)
        (CollectionBase.placeholder .zero).encode
        (Collection.decode {} .zero (sample.encode (CollectionBase.placeholder .zero).encode)) := by
  have hattribute : (Attribute.mk "color" "blue").Fits := ⟨by decide, by decide⟩
  have hfits : sample.Fits :=
    { plugins := by simp [sample, PluginDraft.Fits, Plugin.Fits, hattribute]
      adapters := by
        intro a ha
        obtain rfl := List.mem_singleton.mp ha
        exact ⟨trivial, by simp⟩
      unknownAdapters := by simp [sample]
      pluginCount := by decide
      adapterCount := by decide }
  have hboth := decode_written_account {} (by decide) rfl rfl sample hfits .zero
  exact ⟨hboth.1 _ ⟨by decide, by decide⟩ (by decide +kernel),
    hboth.2 _ ⟨by decide, by decide⟩ (by decide +kernel)⟩

end Draft

end DigitalAsset
