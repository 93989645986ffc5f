import DigitalAsset.Account.Draft
import DigitalAsset.Proofs.Registry.Parts

/-!
# Truncated accounts

A buffer that ends too early may still hold an account: the adapter entries end at the first one that
cannot be read, and their list may be missing.  `Account.decode_take` proves that such an account
never says anything else than the account in the whole buffer.  It has the same base record, and
either nothing after it or the same plugins and, of each kind, the first adapters.

All readers of single values are local, so what they read before the end of the part they also read
in the whole.  Adapters can get lost only where `Reader.upTo` ends, which is always at the end of a
list.
-/

namespace DigitalAsset

/-! ## Parts of an account -/

/-- Each list of the table is the beginning of the list of the same kind. -/
structure AdapterTable.PrefixOf (part whole : AdapterTable) : Prop where
  lifecycleHooks : part.lifecycleHooks <+: whole.lifecycleHooks
  oracles : part.oracles <+: whole.oracles
  appDatas : part.appDatas <+: whole.appDatas
  linkedLifecycleHooks : part.linkedLifecycleHooks <+: whole.linkedLifecycleHooks
  linkedAppDatas : part.linkedAppDatas <+: whole.linkedAppDatas
  dataSections : part.dataSections <+: whole.dataSections

/-- The header and all plugins of an extension, and the first adapters of each kind. -/
structure Extension.PartOf (part whole : Extension) : Prop where
  header : part.header = whole.header
  plugins : part.plugins = whole.plugins
  adapters : part.adapters.PrefixOf whole.adapters

/-- What was read from the first `cut` bytes of a buffer is part of what was read from the whole of
it; if it has no extension although the whole may have one then the base record ends at the cut. -/
structure Account.TruncationOf (reader : Reader Base) (data : Bytes) (cut : Nat)
    (part whole : Account Base) : Prop where
  address : part.address = whole.address
  base : part.base = whole.base
  extension :
    (part.extension = .empty ∧ reader data 0 = ⟨.ok whole.base, cut⟩) ∨
      part.extension.PartOf whole.extension

/-! ## Records -/

section

variable {part whole : Bytes}

namespace AdapterTable

theorem PrefixOf.refl (table : AdapterTable) : table.PrefixOf table :=
  ⟨List.prefix_rfl, List.prefix_rfl, List.prefix_rfl, List.prefix_rfl, List.prefix_rfl,
    List.prefix_rfl⟩

theorem PrefixOf.trans {a b c : AdapterTable} (hab : a.PrefixOf b) (hbc : b.PrefixOf c) :
    a.PrefixOf c where
  lifecycleHooks := hab.lifecycleHooks.trans hbc.lifecycleHooks
  oracles := hab.oracles.trans hbc.oracles
  appDatas := hab.appDatas.trans hbc.appDatas
  linkedLifecycleHooks := hab.linkedLifecycleHooks.trans hbc.linkedLifecycleHooks
  linkedAppDatas := hab.linkedAppDatas.trans hbc.linkedAppDatas
  dataSections := hab.dataSections.trans hbc.dataSections

theorem prefixOf_push (table : AdapterTable) (entry : AttachedAdapter Adapter) :
    table.PrefixOf (table.push entry) := by
  rw [push]
  split <;> constructor <;> first | exact List.prefix_rfl | exact List.prefix_append _ _

/-- More records only add to the table. -/
theorem prefixOf_of_foldlM {settings : Settings} {data : Bytes} {records : List AdapterRecord}
    {table result : AdapterTable}
    (h : records.foldlM (fun table r => (r.attached settings data).map table.push) table =
      .ok result) :
    table.PrefixOf result := by
  induction records generalizing table with
  | nil =>
    cases h
    exact .refl _
  | cons r rest ih =>
    rw [List.foldlM_cons] at h
    obtain ⟨next, hnext, hrest⟩ := Traversal.bind_eq_ok_iff.mp h
    obtain ⟨entry, _, rfl⟩ := Traversal.map_eq_ok_iff.mp hnext
    exact (table.prefixOf_push entry).trans (ih hrest)

theorem prefixOf_of_ofRecords {settings : Settings} {short long : List AdapterRecord}
    {table result : AdapterTable} (hpart : part <+: whole) (hrecords : short <+: long)
    (htable : ofRecords settings part short = .ok table)
    (hresult : ofRecords settings whole long = .ok result) : table.PrefixOf result := by
  obtain ⟨more, rfl⟩ := hrecords
  rw [ofRecords, List.foldlM_append] at hresult
  obtain ⟨mid, hmid, hmore⟩ := Traversal.bind_eq_ok_iff.mp hresult
  -- In the whole, the records of the part lead to the table of the part.
  have hsame := ofRecords_of_part hpart htable
  rw [ofRecords, hmid] at hsame
  cases hsame
  exact prefixOf_of_foldlM hmore

end AdapterTable

/-! ## The registry -/

namespace Registry

/-- In the part there may be fewer adapter entries, but no others. -/
theorem adapterEntries_of_part {settings : Settings} (hpart : part <+: whole)
    {pos next last : Nat} {short long : List (Entry AdapterRecord)} (hpos : pos ≤ part.length)
    (hshort : adapterEntries settings part pos = ⟨.ok short, next⟩)
    (hlong : adapterEntries settings whole pos = ⟨.ok long, last⟩) : short <+: long := by
  rw [adapterEntries] at hshort hlong
  split at hshort
  · -- The part ends before the count, although the whole may go on.
    cases hshort
    exact List.nil_prefix
  · rename_i hleft
    have hmore : Reader.remaining whole pos ≠ 0 := by
      have hlength := hpart.length_le
      rw [Reader.remaining] at hleft ⊢
      omega
    rw [if_neg hmore] at hlong
    obtain ⟨count, mid, hcount, hentries⟩ := Reader.exists_of_bind_eq_ok hshort
    obtain ⟨hsame, hmid⟩ := (Reader.local_u32 _).of_part hpart hpos hcount
    rw [Reader.bind_of_ok hsame] at hlong
    exact Reader.upTo_of_part (AdapterRecord.local_entryReader settings) hpart hmid hentries hlong

/-- The registry of the part has the same plugins and the first adapters. -/
theorem reader_of_part {settings : Settings} (hpart : part <+: whole) {pos : Nat}
    {short long : Registry} (hpos : pos ≤ part.length)
    (hshort : (reader settings).value part pos = .ok short)
    (hlong : (reader settings).value whole pos = .ok long) :
    short.plugins = long.plugins ∧ short.adapters <+: long.adapters := by
  obtain ⟨next, hshort⟩ := Reader.value_eq_ok_iff.mp hshort
  obtain ⟨last, hlong⟩ := Reader.value_eq_ok_iff.mp hlong
  obtain ⟨_, behind, hmarker, hshort⟩ := Reader.exists_of_bind_eq_ok hshort
  obtain ⟨plugins, mid, hplugins, hshort⟩ := Reader.exists_of_bind_eq_ok hshort
  obtain ⟨adapters, _, hadapters, hshort⟩ := Reader.exists_of_bind_eq_ok hshort
  cases hshort
  -- What stands before the adapter entries is read in the whole as in the part.
  obtain ⟨hmarker, hbehind⟩ := (Marker.local_reader _).of_part hpart hpos hmarker
  obtain ⟨hplugins, hmid⟩ := (local_pluginEntries settings).of_part hpart hbehind hplugins
  rw [reader, Reader.bind_of_ok hmarker, Reader.bind_of_ok hplugins] at hlong
  obtain ⟨others, _, hothers, hlong⟩ := Reader.exists_of_bind_eq_ok hlong
  cases hlong
  exact ⟨rfl, (adapterEntries_of_part hpart hmid hadapters hothers).filterMap _⟩

end Registry

/-! ## Accounts -/

/-- If both the part and the whole have an extension then they agree. -/
theorem Extension.Found.partOf {settings : Settings} {baseEnd : Nat} {header header' : PluginHeader}
    {registry registry' : Registry} {short long : Extension} (hpart : part <+: whole)
    (hshort : Found settings part baseEnd header registry short)
    (hlong : Found settings whole baseEnd header' registry' long) : short.PartOf long := by
  have hheader :=
    PluginHeader.local_reader.value_of_part hpart (Nat.le_of_lt hshort.behind) hshort.reads_header
  obtain rfl : header = header' := Except.ok.inj (hheader.symm.trans hlong.reads_header)
  obtain ⟨hplugins, hadapters⟩ := Registry.reader_of_part hpart (Nat.le_of_lt hshort.inside)
    hshort.reads_registry hlong.reads_registry
  have hslots := PluginSlots.ofRecords_of_part hpart hshort.plugins
  rw [hplugins] at hslots
  exact
    { header := hshort.header_eq.trans hlong.header_eq.symm
      plugins := Except.ok.inj (hslots.symm.trans hlong.plugins)
      adapters :=
        AdapterTable.prefixOf_of_ofRecords hpart hadapters hshort.adapters hlong.adapters }

end

/-- What is read behind a local base record. -/
theorem Account.truncationOf_of_decode {reader : Reader Base} (h : Local reader)
    {settings : Settings} {address : Address} {data : Bytes} {cut : Nat} (hcut : cut ≤ data.length)
    {whole part : Account Base} (hwhole : decode reader settings address data = .ok whole)
    (hpart : decode reader settings address (data.take cut) = .ok part) :
    part.TruncationOf reader data cut whole := by
  obtain ⟨hwholeAddress, wholeEnd, hwholeBase, hwholeExtension⟩ := decode_eq_ok_iff.mp hwhole
  obtain ⟨haddress, baseEnd, hbase, hextension⟩ := decode_eq_ok_iff.mp hpart
  have htake : data.take cut <+: data := List.take_prefix cut data
  obtain ⟨hread, hinside⟩ := h.of_part htake (Nat.zero_le _) hbase
  rw [List.length_take_of_le hcut] at hinside
  -- The base record ends at the same place in both.
  obtain ⟨hsame, rfl⟩ : part.base = whole.base ∧ baseEnd = wholeEnd := by
    simpa using hread.symm.trans hwholeBase
  refine ⟨haddress.trans hwholeAddress.symm, hsame, ?_⟩
  rcases Extension.readAt_eq_ok_iff.mp hextension with ⟨hend, hempty⟩ | ⟨header, registry, hfound⟩
  · -- The base record needs all of the part, so it ends at the cut.
    rw [List.length_take_of_le hcut] at hend
    obtain rfl : baseEnd = cut := Nat.le_antisymm hinside hend
    exact .inl ⟨hempty, hwholeBase⟩
  · rcases Extension.readAt_eq_ok_iff.mp hwholeExtension with
      ⟨hend, _⟩ | ⟨header', registry', hfound'⟩
    · -- The part goes on behind the base record, and so does the whole.
      have hbehind := hfound.behind
      rw [List.length_take_of_le hcut] at hbehind
      omega
    · exact .inr (hfound.partOf htake hfound')

/-- **Truncated accounts.**  If the first `cut` bytes of an account are an account themselves, an
asset or a collection, then they say nothing that the whole does not say. -/
theorem Account.decode_take (settings : Settings) (address : Address) (data : Bytes) (cut : Nat)
    (hcut : cut ≤ data.length) :
    (∀ whole part : Asset, Asset.decode settings address data = .ok whole →
      Asset.decode settings address (data.take cut) = .ok part →
        part.TruncationOf AssetBase.reader data cut whole) ∧
    ∀ whole part : Collection, Collection.decode settings address data = .ok whole →
      Collection.decode settings address (data.take cut) = .ok part →
        part.TruncationOf CollectionBase.reader data cut whole :=
  ⟨fun _ _ => truncationOf_of_decode AssetBase.local_reader hcut,
    fun _ _ => truncationOf_of_decode CollectionBase.local_reader hcut⟩

/-! ## A truncated account -/

/-- A draft with a plugin and two adapters. -/
def Draft.twoAdapters : Draft where
  plugins := [.known .owner (.freezeDelegate true)]
  adapters :=
    [⟨.updateAuthority, none, .appData ⟨.owner, .binary⟩, some [7]⟩,
      ⟨.owner, some [(.create, 1)], .appData ⟨.updateAuthority, .binary⟩, none⟩]

/-- The bytes of an asset with the draft. -/
def Draft.twoAdaptersBytes : Bytes :=
  twoAdapters.encode (AssetBase.placeholder .zero .none).encode

/-- Without the last byte the entry of the second adapter cannot be read. -/
theorem Account.decode_take_twoAdapters :
    ∃ whole part : Asset, Asset.decode {} .zero Draft.twoAdaptersBytes = .ok whole ∧
      Asset.decode {} .zero
        (Draft.twoAdaptersBytes.take (Draft.twoAdaptersBytes.length - 1)) = .ok part ∧
      whole.adapters.size = 2 ∧ part.adapters.size = 1 ∧
      part.TruncationOf AssetBase.reader Draft.twoAdaptersBytes
        (Draft.twoAdaptersBytes.length - 1) whole := by
  have hdecode (data : Bytes) (size : Nat)
      (h : (Asset.decode {} .zero data).toOption.map (·.adapters.size) = some size) :
      ∃ asset : Asset, Asset.decode {} .zero data = .ok asset ∧ asset.adapters.size = size := by
    cases hread : Asset.decode {} .zero data with
    | error e => simp [hread, Except.toOption] at h
    | ok asset => exact ⟨asset, rfl, by simpa [hread, Except.toOption] using h⟩
  obtain ⟨whole, hwhole, htwo⟩ := hdecode Draft.twoAdaptersBytes 2 (by decide +kernel)
  obtain ⟨part, hpart, hone⟩ :=
    hdecode (Draft.twoAdaptersBytes.take (Draft.twoAdaptersBytes.length - 1)) 1 (by decide +kernel)
  have hboth := Account.decode_take {} .zero Draft.twoAdaptersBytes
    (Draft.twoAdaptersBytes.length - 1) (Nat.sub_le _ _)
  exact ⟨whole, part, hwhole, hpart, htwo, hone, hboth.1 whole part hwhole hpart⟩

end DigitalAsset
