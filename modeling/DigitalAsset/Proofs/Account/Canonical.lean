import DigitalAsset.Account.Draft
import DigitalAsset.Proofs.Codec.Canonical
import DigitalAsset.Proofs.Codec.Locality
import DigitalAsset.Proofs.Registry.Materialization

/-!
# The bytes of a base record

`Account.decode_canonicalLaw` proves that the beginning of an account can be told from what was read.
The buffer begins with the written form of the base record, and goes on, if it goes on at all, with a
header that points to a registry.  Two accounts without a header that say the same are therefore the
same bytes, and no account without a header can be cut short.

Nothing of this kind holds behind the header: the registry and the payloads may stand anywhere, and
bytes that no record points to are not looked at.
-/

namespace DigitalAsset

/-- How a buffer begins from which an account was read, `encode` being the written form of its base
record. -/
inductive Account.Written (encode : Base → Bytes) (account : Account Base) (data : Bytes) : Prop where
  /-- The base record is all there is. -/
  | alone : data = encode account.base → account.extension = .empty → Written encode account data
  /-- A header follows the base record, and the registry begins where it says. -/
  | extended {header : PluginHeader} {back : Bytes} :
      account.extension.header = some header →
      data = encode account.base ++ (3 :: Wire.u64 header.registryOffset ++ back) →
      header.registryOffset.toNat < data.length →
      data[header.registryOffset.toNat]? = some 4 →
      Written encode account data

/-- What the accounts that `decode` reads say about their bytes. -/
structure Account.CanonicalLaw
    (decode : Settings → Address → Bytes → Except Error (Account Base)) (encode : Base → Bytes) :
    Prop where
  /-- The buffer begins as its base record and its header are written. -/
  written : ∀ settings address data account,
    decode settings address data = .ok account → account.Written encode data
  /-- Without a header there is one buffer for each account. -/
  unique : ∀ settings settings' address data data' account,
    decode settings address data = .ok account → account.extension.header = none →
      decode settings' address data' = .ok account → data = data'
  /-- Without a header no part of the buffer is an account. -/
  uncut : ∀ settings settings' address address' data account,
    decode settings address data = .ok account → account.extension.header = none →
      ∀ cut < data.length, ∃ e, decode settings' address' (data.take cut) = .error e

/-! ## Parts of the buffer -/

section

variable {settings : Settings} {address : Address} {data : Bytes}

/-- A structure that was read begins with its marker. -/
theorem Marker.getElem?_of_reader {expected : Marker} {rest : Unit → Reader α} {pos : Nat} {a : α}
    (hpos : pos ≤ data.length) (h : (expected.reader >>= rest).value data pos = .ok a) :
    data[pos]? = some expected.tag := by
  obtain ⟨next, hread⟩ := Reader.value_eq_ok_iff.mp h
  obtain ⟨_, mid, hmarker, _⟩ := Reader.exists_of_bind_eq_ok hread
  obtain ⟨hdrop, _⟩ := (canonical_reader expected).drop_eq hpos hmarker
  rw [← Nat.add_zero pos, ← List.getElem?_drop, hdrop]
  rfl

/-- A base record that was read stands in front of the buffer. -/
theorem Canonical.eq_append {r : Reader Base} {encode : Base → Bytes} (h : Canonical r encode)
    {base : Base} {next : Nat} (hread : r data 0 = ⟨.ok base, next⟩) :
    data = encode base ++ data.drop next ∧ next = (encode base).length := by
  obtain ⟨hdrop, hnext⟩ := h.drop_eq (Nat.zero_le _) hread
  rw [List.drop_zero] at hdrop
  rw [Nat.zero_add] at hnext
  exact ⟨hdrop, hnext⟩

namespace Extension

/-- An extension that was found has a header. -/
theorem eq_empty_of_header {baseEnd : Nat} {extension : Extension}
    (h : readAt settings data baseEnd = .ok extension) (hheader : extension.header = none) :
    data.length ≤ baseEnd ∧ extension = empty := by
  rcases readAt_eq_ok_iff.mp h with hend | ⟨header, registry, hfound⟩
  · exact hend
  · rw [hfound.header_eq] at hheader
    cases hheader

namespace Found

variable {baseEnd : Nat} {header : PluginHeader} {registry : Registry} {extension : Extension}

/-- The header follows the base record. -/
theorem drop_eq (h : Found settings data baseEnd header registry extension) :
    ∃ back, data.drop baseEnd = header.encode ++ back := by
  obtain ⟨next, hread⟩ := Reader.value_eq_ok_iff.mp h.reads_header
  exact ⟨_, (PluginHeader.canonical_reader.drop_eq (Nat.le_of_lt h.behind) hread).1⟩

/-- The registry begins with its marker. -/
theorem getElem?_registry (h : Found settings data baseEnd header registry extension) :
    data[header.registryOffset.toNat]? = some Marker.pluginRegistry.tag :=
  Marker.getElem?_of_reader (Nat.le_of_lt h.inside) h.reads_registry

end Found

end Extension

/-! ## Accounts -/

namespace Account

variable {reader : Reader Base} {encode : Base → Bytes} {account : Account Base}

theorem written_of_decode (hcanonical : Canonical reader encode)
    (h : decode reader settings address data = .ok account) : account.Written encode data := by
  obtain ⟨_, baseEnd, hbase, hextension⟩ := decode_eq_ok_iff.mp h
  obtain ⟨hdata, _⟩ := hcanonical.eq_append hbase
  rcases Extension.readAt_eq_ok_iff.mp hextension with ⟨hend, hempty⟩ | ⟨header, registry, hfound⟩
  · rw [List.drop_eq_nil_of_le hend, List.append_nil] at hdata
    exact .alone hdata hempty
  · obtain ⟨back, hback⟩ := hfound.drop_eq
    rw [hback] at hdata
    exact .extended hfound.header_eq hdata hfound.inside hfound.getElem?_registry

/-- Without a header the buffer is the base record. -/
theorem eq_encode_of_decode (hcanonical : Canonical reader encode)
    (h : decode reader settings address data = .ok account)
    (hheader : account.extension.header = none) : data = encode account.base := by
  cases written_of_decode hcanonical h with
  | alone hdata => exact hdata
  | extended hsome =>
    rw [hsome] at hheader
    cases hheader

/-- A part that begins as an account without a header is as long as the account. -/
theorem length_le_of_part (hlocal : Local reader) {settings' : Settings} {address' : Address}
    {part : Bytes} {account' : Account Base} (hpart : part <+: data)
    (h : decode reader settings address data = .ok account)
    (hheader : account.extension.header = none)
    (h' : decode reader settings' address' part = .ok account') : data.length ≤ part.length := by
  obtain ⟨_, baseEnd, hbase, hextension⟩ := decode_eq_ok_iff.mp h
  obtain ⟨_, baseEnd', hbase', _⟩ := decode_eq_ok_iff.mp h'
  obtain ⟨hread, hinside⟩ := hlocal.of_part hpart (Nat.zero_le _) hbase'
  -- The base record of the part is that of the whole, which needs all bytes.
  obtain ⟨_, rfl⟩ : account.base = account'.base ∧ baseEnd = baseEnd' := by
    simpa using hbase.symm.trans hread
  exact Nat.le_trans (Extension.eq_empty_of_header hextension hheader).1 hinside

/-- The law holds of every base record that is read canonically. -/
theorem canonicalLaw (hcanonical : Canonical reader encode) (hlocal : Local reader) :
    CanonicalLaw (decode reader) encode where
  written := by
    intro settings address data account h
    exact written_of_decode hcanonical h
  unique := by
    intro settings settings' address data data' account h hheader h'
    rw [eq_encode_of_decode hcanonical h hheader, eq_encode_of_decode hcanonical h' hheader]
  uncut := by
    intro settings settings' address address' data account h hheader cut hcut
    cases hpart : decode reader settings' address' (data.take cut) with
    | error e => exact ⟨e, rfl⟩
    | ok part =>
      have hlength := length_le_of_part hlocal (List.take_prefix cut data) h hheader hpart
      rw [List.length_take] at hlength
      omega

end Account

end

/-- **Canonical base records.**  Assets and collections begin with the written forms of their base
records and headers; without a header they are nothing but the written form, and cannot be cut. -/
theorem Account.decode_canonicalLaw :
    CanonicalLaw Asset.decode AssetBase.encode ∧
      CanonicalLaw Collection.decode CollectionBase.encode :=
  ⟨canonicalLaw AssetBase.canonical_reader AssetBase.local_reader,
    canonicalLaw CollectionBase.canonical_reader CollectionBase.local_reader⟩

/-! ## An account without a header, and one with a header -/

/-- The bytes of an asset that is nothing but a base record. -/
def AssetBase.placeholderBytes : Bytes := (placeholder .zero .none).encode

/-- A draft with one plugin. -/
def Draft.oneFreeze : Draft where
  plugins := [.known .owner (.freezeDelegate true)]

/-- The placeholder has one buffer and cannot be cut; with a plugin the buffer begins as it does, and
goes on with a header. -/
theorem Account.decode_canonicalLaw_placeholder :
    (∃ asset : Asset, Asset.decode {} .zero AssetBase.placeholderBytes = .ok asset ∧
      (∀ data, Asset.decode {} .zero data = .ok asset → AssetBase.placeholderBytes = data) ∧
      ∀ cut < AssetBase.placeholderBytes.length, ∃ e,
        Asset.decode {} .zero (AssetBase.placeholderBytes.take cut) = .error e) ∧
    ∃ (asset : Asset) (header : PluginHeader) (back : Bytes),
      Asset.decode {} .zero (Draft.oneFreeze.encode AssetBase.placeholderBytes) = .ok asset ∧
      Draft.oneFreeze.encode AssetBase.placeholderBytes =
        asset.base.encode ++ (3 :: Wire.u64 header.registryOffset ++ back) := by
  have hlaw := Account.decode_canonicalLaw.1
  constructor
  · have hread : (Asset.decode {} .zero AssetBase.placeholderBytes).map (·.extension.header) =
        .ok none := by
      decide +kernel
    obtain ⟨asset, hasset, hheader⟩ := Traversal.map_eq_ok_iff.mp hread
    exact ⟨asset, hasset, fun data => hlaw.unique {} {} .zero _ data asset hasset hheader,
      hlaw.uncut {} {} .zero .zero _ asset hasset hheader⟩
  · have hread : (Asset.decode {} .zero (Draft.oneFreeze.encode AssetBase.placeholderBytes)).map
        (·.extension.header.isSome) = .ok true := by
      decide +kernel
    obtain ⟨asset, hasset, hheader⟩ := Traversal.map_eq_ok_iff.mp hread
    cases hlaw.written {} .zero _ asset hasset with
    | alone _ hempty =>
      rw [hempty] at hheader
      cases hheader
    | extended _ hdata _ _ => exact ⟨asset, _, _, hasset, hdata⟩

end DigitalAsset
