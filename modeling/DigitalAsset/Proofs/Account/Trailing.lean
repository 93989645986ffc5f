import DigitalAsset.Account.Draft
import DigitalAsset.Proofs.Codec.Progress
import DigitalAsset.Proofs.Registry.Grammar
import DigitalAsset.Proofs.Registry.Parts

/-!
# Trailing bytes

Whatever follows a complete account is ignored.  An account is complete if its registry is: bytes
follow the list of plugins, so that the adapters are counted, and all the adapter entries that the
count declares can be read (`Registry.CompleteAt`).  `Account.decode_append` proves for such an
account that any bytes may follow it.

Without the first condition the bytes that follow would be taken for the count, and without the
second the entry that could not be read might become readable.
-/

namespace DigitalAsset

/-! ## Complete registries -/

/-- At `start` stands a registry whose list of plugins does not end with the buffer, and all the
adapter entries that the count after it declares can be read, whether or not their tags are known. -/
def Registry.CompleteAt (settings : Settings) (data : Bytes) (start : Nat) : Prop :=
  ∃ plugins listEnd count entriesStart,
    (do Marker.reader .pluginRegistry; pluginEntries settings) data start =
      ⟨.ok plugins, listEnd⟩ ∧
    listEnd < data.length ∧
    Reader.u32 "external_registry" data listEnd = ⟨.ok count, entriesStart⟩ ∧
    ∀ outcome ∈
        Entry.readMany (AdapterRecord.entryReader settings) data entriesStart count.toNat,
      ∃ entry, outcome.result = .ok entry

/-- Whether a complete registry stands at `start`. -/
def Registry.isCompleteAt (settings : Settings) (data : Bytes) (start : Nat) : Bool :=
  match (do Marker.reader .pluginRegistry; pluginEntries settings) data start with
  | ⟨.error _, _⟩ => false
  | ⟨.ok _, listEnd⟩ =>
    match Reader.u32 "external_registry" data listEnd with
    | ⟨.error _, _⟩ => false
    | ⟨.ok count, entriesStart⟩ =>
      decide (listEnd < data.length) &&
        (Entry.readMany (AdapterRecord.entryReader settings) data entriesStart count.toNat).all
          fun outcome => outcome.result.isOk

theorem Registry.isCompleteAt_iff {settings : Settings} {data : Bytes} {start : Nat} :
    isCompleteAt settings data start = true ↔ CompleteAt settings data start := by
  have hok (result : Except Error (Entry AdapterRecord)) :
      result.isOk = true ↔ ∃ entry, result = .ok entry := by
    cases result <;> simp [Except.isOk, Except.toBool]
  rw [isCompleteAt, CompleteAt]
  split
  · rename_i hlist
    simp [hlist]
  · rename_i hlist
    split
    · rename_i hcount
      simp [hlist, hcount]
    · rename_i hcount
      simp [hlist, hcount, hok]

instance (settings : Settings) (data : Bytes) (start : Nat) :
    Decidable (Registry.CompleteAt settings data start) :=
  decidable_of_iff _ Registry.isCompleteAt_iff

/-! ## Complete registries in a longer buffer -/

/-- Entries that can all be read, each from where the one before it ended, are read in a row. -/
theorem Entry.exists_repeated_of_readMany {reader : Reader (Entry α)} {data : Bytes}
    {pos count : Nat}
    (h : ∀ outcome ∈ readMany reader data pos count, ∃ entry, outcome.result = .ok entry) :
    ∃ entries next, Reader.repeated reader count data pos = ⟨.ok entries, next⟩ := by
  -- The position varies: the other entries start where the first one ends.
  induction count generalizing pos with
  | zero => exact ⟨[], pos, rfl⟩
  | succ count ih =>
    rw [readMany, List.forall_mem_cons] at h
    obtain ⟨⟨entry, hentry⟩, hrest⟩ := h
    obtain ⟨entries, next, hentries⟩ := ih hrest
    refine ⟨entry :: entries, next, ?_⟩
    rw [Reader.repeated, Reader.bind_of_ok (read_of_readAt hentry), Reader.bind_of_ok hentries]
    rfl

section

variable {part whole : Bytes} {settings : Settings}

/-- A complete registry of the part is read in the whole just as in the part. -/
theorem Registry.reader_of_completeAt (hpart : part <+: whole) {start : Nat} {registry : Registry}
    (hstart : start ≤ part.length) (hcomplete : CompleteAt settings part start)
    (hread : (reader settings).value part start = .ok registry) :
    (reader settings).value whole start = .ok registry := by
  obtain ⟨plugins, listEnd, count, entriesStart, hboth, hmore, hcount, hentries⟩ := hcomplete
  obtain ⟨_, behind, hmarker, hplugins⟩ := Reader.exists_of_bind_eq_ok hboth
  obtain ⟨entries, next, hrepeated⟩ := Entry.exists_repeated_of_readMany hentries
  have hadapters : Reader.list "external_registry" (AdapterRecord.entryReader settings) part
      listEnd = ⟨.ok entries, next⟩ := by
    rw [Reader.list, Reader.bind_of_ok hcount, hrepeated]
  -- Each of the three parts is read by a local reader.
  obtain ⟨hmarker', hbehind⟩ := (Marker.local_reader _).of_part hpart hstart hmarker
  obtain ⟨hplugins', hlistEnd⟩ := (local_pluginEntries settings).of_part hpart hbehind hplugins
  obtain ⟨hadapters', _⟩ :=
    (Reader.composed_list _ (AdapterRecord.composed_entryReader settings)).isLocal.of_part hpart
      hlistEnd hadapters
  have hleft {data : Bytes} (h : listEnd < data.length) : Reader.remaining data listEnd ≠ 0 := by
    rw [Reader.remaining]
    omega
  have hmore' : listEnd < whole.length := Nat.lt_of_lt_of_le hmore hpart.length_le
  -- So the part and the whole lead to the same registry.
  rw [Reader.value, reader, Reader.bind_of_ok hmarker, Reader.bind_of_ok hplugins,
    Reader.bind_of_ok (adapterEntries_of_list (hleft hmore) hadapters)] at hread
  rw [Reader.value, reader, Reader.bind_of_ok hmarker', Reader.bind_of_ok hplugins',
    Reader.bind_of_ok (adapterEntries_of_list (hleft hmore') hadapters')]
  exact hread

/-! ## Accounts -/

/-- What was found in the part, through a complete registry, is found in the whole. -/
theorem Extension.Found.of_part {baseEnd : Nat} {header : PluginHeader} {registry : Registry}
    {extension : Extension} (hpart : part <+: whole)
    (hcomplete : Registry.CompleteAt settings part header.registryOffset.toNat)
    (h : Found settings part baseEnd header registry extension) :
    Found settings whole baseEnd header registry extension where
  behind := Nat.lt_of_lt_of_le h.behind hpart.length_le
  reads_header :=
    PluginHeader.local_reader.value_of_part hpart (Nat.le_of_lt h.behind) h.reads_header
  inside := Nat.lt_of_lt_of_le h.inside hpart.length_le
  reads_registry :=
    Registry.reader_of_completeAt hpart (Nat.le_of_lt h.inside) hcomplete h.reads_registry
  plugins := PluginSlots.ofRecords_of_part hpart h.plugins
  adapters := AdapterTable.ofRecords_of_part hpart h.adapters
  header_eq := h.header_eq

/-- A complete account in the part is the account in the whole. -/
theorem Account.decode_of_part {reader : Reader Base} (hlocal : Local reader) {address : Address}
    {account : Account Base} {header : PluginHeader} (hpart : part <+: whole)
    (hread : decode reader settings address part = .ok account)
    (hheader : account.extension.header = some header)
    (hcomplete : Registry.CompleteAt settings part header.registryOffset.toNat) :
    decode reader settings address whole = .ok account := by
  obtain ⟨haddress, baseEnd, hbase, hextension⟩ := decode_eq_ok_iff.mp hread
  have hbase' := (hlocal.of_part hpart (Nat.zero_le _) hbase).1
  refine decode_eq_ok_iff.mpr ⟨haddress, baseEnd, hbase', ?_⟩
  rcases Extension.readAt_eq_ok_iff.mp hextension with ⟨_, hempty⟩ | ⟨found, registry, hfound⟩
  · rw [hempty] at hheader
    cases hheader
  · obtain rfl : found = header := Option.some.inj (hfound.header_eq.symm.trans hheader)
    exact Extension.readAt_eq_ok_iff.mpr (.inr ⟨found, registry, hfound.of_part hpart hcomplete⟩)

end

/-- **Trailing bytes.**  If a buffer holds an account, an asset or a collection, with a header that
points to a complete registry, then the same account is read when any bytes follow. -/
theorem Account.decode_append (settings : Settings) (address : Address) (data suffix : Bytes) :
    (∀ (asset : Asset) (header : PluginHeader),
      Asset.decode settings address data = .ok asset → asset.extension.header = some header →
      Registry.CompleteAt settings data header.registryOffset.toNat →
        Asset.decode settings address (data ++ suffix) = .ok asset) ∧
    ∀ (collection : Collection) (header : PluginHeader),
      Collection.decode settings address data = .ok collection →
      collection.extension.header = some header →
      Registry.CompleteAt settings data header.registryOffset.toNat →
        Collection.decode settings address (data ++ suffix) = .ok collection := by
  have hpart : data <+: data ++ suffix := List.prefix_append data suffix
  exact ⟨fun _ _ => decode_of_part AssetBase.local_reader hpart,
    fun _ _ => decode_of_part CollectionBase.local_reader hpart⟩

/-! ## A complete account -/

/-- A draft with a plugin, an adapter with data, and an adapter of an unknown kind. -/
def Draft.unknownAdapter : Draft where
  plugins := [.known .owner (.freezeDelegate true)]
  adapters := [⟨.updateAuthority, none, .appData ⟨.owner, .binary⟩, some [7]⟩]
  unknownAdapters := [⟨200, .owner⟩]

/-- The bytes of an asset with the draft. -/
def Draft.unknownAdapterAsset : Bytes :=
  unknownAdapter.encode (AssetBase.placeholder .zero .none).encode

/-- The bytes of a collection with the draft. -/
def Draft.unknownAdapterCollection : Bytes :=
  unknownAdapter.encode (CollectionBase.placeholder .zero).encode

/-- Behind the entry of the unknown kind, bytes that look like one more entry are ignored. -/
theorem Account.decode_append_unknownAdapter :
    (∃ (asset : Asset) (header : PluginHeader),
      Asset.decode {} .zero Draft.unknownAdapterAsset = .ok asset ∧
      asset.extension.header = some header ∧
      Registry.CompleteAt {} Draft.unknownAdapterAsset header.registryOffset.toNat ∧
      asset.adapters.size = 1 ∧
      Asset.decode {} .zero (Draft.unknownAdapterAsset ++ [200, 1]) = .ok asset) ∧
    ∃ (collection : Collection) (header : PluginHeader),
      Collection.decode {} .zero Draft.unknownAdapterCollection = .ok collection ∧
      collection.extension.header = some header ∧
      Registry.CompleteAt {} Draft.unknownAdapterCollection header.registryOffset.toNat ∧
      collection.adapters.size = 1 ∧
      Collection.decode {} .zero (Draft.unknownAdapterCollection ++ [200, 1]) = .ok collection := by
  constructor
  · have hread : (Asset.decode {} .zero Draft.unknownAdapterAsset).map
        (fun asset => (asset.extension.header, asset.adapters.size)) = .ok (some ⟨99⟩, 1) := by
      decide +kernel
    have hcomplete : Registry.CompleteAt {} Draft.unknownAdapterAsset 99 := by decide +kernel
    obtain ⟨asset, hasset, hboth⟩ := Traversal.map_eq_ok_iff.mp hread
    obtain ⟨hheader, hsize⟩ := Prod.mk.inj hboth
    have hmore := (Account.decode_append {} .zero Draft.unknownAdapterAsset [200, 1]).1 asset ⟨99⟩
      hasset hheader hcomplete
    exact ⟨asset, ⟨99⟩, hasset, hheader, hcomplete, hsize, hmore⟩
  · have hread : (Collection.decode {} .zero Draft.unknownAdapterCollection).map
        (fun collection => (collection.extension.header, collection.adapters.size)) =
          .ok (some ⟨115⟩, 1) := by
      decide +kernel
    have hcomplete : Registry.CompleteAt {} Draft.unknownAdapterCollection 115 := by
      decide +kernel
    obtain ⟨collection, hcollection, hboth⟩ := Traversal.map_eq_ok_iff.mp hread
    obtain ⟨hheader, hsize⟩ := Prod.mk.inj hboth
    have hmore := (Account.decode_append {} .zero Draft.unknownAdapterCollection [200, 1]).2
      collection ⟨115⟩ hcollection hheader hcomplete
    exact ⟨collection, ⟨115⟩, hcollection, hheader, hcomplete, hsize, hmore⟩

end DigitalAsset
