import DigitalAsset.Proofs.Codec.Canonical
import DigitalAsset.Proofs.Codec.Locality
import DigitalAsset.Proofs.Codec.Payloads

/-!
# Payloads have one written form

Writing and reading are inverse to each other on payloads (`payload_codecs`).  Every plugin and every
adapter whose strings and lists fit the format is read from its written form; and whatever is read fits
the format, and its written form is what stood there.  So no payload can be read from two different
byte strings, and no byte of a payload is ignored.

`Exact r encode fits` is the second half.  It says more than `Canonical`: the lengths that were read
have 32 bits, so the answer has a written form in the first place.
-/

namespace DigitalAsset

open Reader

/-- The reader takes the written form of what it answers, and the answer fits the format. -/
def Exact (r : Reader α) (encode : α → Bytes) (fits : α → Prop) : Prop :=
  Takes r fun a bytes => fits a ∧ bytes = encode a

/-- Reading and writing are inverse to each other: the reader accepts exactly the written forms of the
values that fit the format. -/
structure Codec (r : Reader α) (encode : α → Bytes) (fits : α → Prop) : Prop where
  /-- A written form is read back, whatever stands before and after it. -/
  reads : ∀ a, fits a → Reads r (encode a) a
  /-- What was read fits the format, and its written form is all that was taken. -/
  written : ∀ data pos a next, r data pos = ⟨.ok a, next⟩ →
    fits a ∧ pos ≤ next ∧ next ≤ data.length ∧ (data.drop pos).take (next - pos) = encode a
  /-- The same value is never read from different bytes. -/
  unique : ∀ data data' pos pos' a next next',
    r data pos = ⟨.ok a, next⟩ → r data' pos' = ⟨.ok a, next'⟩ →
      (data.drop pos).take (next - pos) = (data'.drop pos').take (next' - pos')

/-! ## Running readers in turn -/

/-- What is canonical and always fits the format is exact. -/
theorem Canonical.exact {r : Reader α} {encode : α → Bytes} {fits : α → Prop}
    (h : Canonical r encode) (hfits : ∀ a, fits a) : Exact r encode fits :=
  h.imp fun a _ hbytes => ⟨hfits a, hbytes⟩

namespace Exact

variable {r : Reader α} {encode : α → Bytes} {fits : α → Prop}

theorem bind {f : α → Reader β} {Q : β → Bytes → Prop} (hr : Exact r encode fits)
    (hf : ∀ a, fits a → Takes (f a) fun b ys => Q b (encode a ++ ys)) : Takes (r >>= f) Q := by
  apply Takes.bind hr
  rintro a _ ⟨hfits, rfl⟩
  exact hf a hfits

theorem map {f : α → β} {Q : β → Bytes → Prop} (h : Exact r encode fits)
    (hQ : ∀ a, fits a → Q (f a) (encode a)) : Takes (r >>= fun a => Pure.pure (f a)) Q := by
  apply Takes.map h
  rintro a _ ⟨hfits, rfl⟩
  exact hQ a hfits

end Exact

/-! ## Primitives -/

namespace Reader

theorem exact_blob (what : String) : Exact (blob what) Wire.blob fun b => b.length < 2 ^ 32 := by
  apply takes_primitive
  intro rest body width h
  obtain ⟨back, rfl, rfl, hlength⟩ := eq_blob_of_lengthPrefixed h
  exact ⟨_, back, rfl, rfl, hlength, rfl⟩

theorem exact_string (what : String) :
    Exact (string what) Wire.string fun s => s.utf8ByteSize < 2 ^ 32 :=
  takes_string what

/-! ## Composites -/

section

variable {item : Reader α} {encode : α → Bytes} {fits : α → Prop}

theorem exact_option (what : String) (h : Exact item encode fits) :
    Exact (option what item) (Wire.option encode) fun a? => ∀ a ∈ a?, fits a := by
  apply (takes_option what h).imp
  rintro (_ | a) bytes htaken
  · exact ⟨by simp, htaken⟩
  · obtain ⟨_, rfl, hfits, rfl⟩ := htaken
    exact ⟨by simpa using hfits, rfl⟩

/-- Items in a row are as many as were asked for, and their written forms stand in a row. -/
theorem takes_repeated (h : Exact item encode fits) (count : Nat) :
    Takes (repeated item count) fun items bytes =>
      items.length = count ∧ (∀ a ∈ items, fits a) ∧ bytes = items.flatMap encode := by
  induction count with
  | zero => exact .pure ⟨rfl, by simp, rfl⟩
  | succ count ih =>
    apply h.bind
    intro a ha
    apply ih.map
    rintro rest _ ⟨hlength, hrest, rfl⟩
    exact ⟨by rw [List.length_cons, hlength], List.forall_mem_cons.mpr ⟨ha, hrest⟩, rfl⟩

theorem exact_list (what : String) (h : Exact item encode fits) :
    Exact (list what item) (Wire.list encode) fun items =>
      items.length < 2 ^ 32 ∧ ∀ a ∈ items, fits a := by
  apply (canonical_u32 what).bind
  intro count
  apply (takes_repeated h count.toNat).imp
  rintro items _ ⟨hlength, hitems, rfl⟩
  refine ⟨⟨?_, hitems⟩, ?_⟩
  · rw [hlength]
    exact count.toNat_lt
  · -- The count that was read is the one that is written.
    rw [Wire.list, Wire.count, hlength, UInt32.ofNat_toNat]

end

/-- A list of items that always fit the format. -/
theorem exact_list_of_canonical (what : String) {item : Reader α} {encode : α → Bytes}
    (h : Canonical item encode) :
    Exact (list what item) (Wire.list encode) fun items => items.length < 2 ^ 32 := by
  have hitem : Exact item encode fun _ => True := h.exact fun _ => trivial
  exact (exact_list what hitem).imp fun _ _ hlist => ⟨hlist.1.1, hlist.2⟩

end Reader

/-! ## Plugins -/

theorem Creator.canonical_reader (key : String) : Canonical (Creator.reader key) encode :=
  (canonical_address key).bind fun _ => (canonical_u8 key).map fun _ => rfl

theorem CreatorSignature.canonical_reader (key : String) :
    Canonical (CreatorSignature.reader key) encode :=
  (canonical_address key).bind fun _ => (canonical_bool key).map fun _ => rfl

theorem Attribute.exact_reader (key : String) : Exact (Attribute.reader key) encode Fits :=
  (exact_string key).bind fun _ hname => (exact_string key).map fun _ hvalue => ⟨⟨hname, hvalue⟩, rfl⟩

theorem AutographSignature.exact_reader (key : String) :
    Exact (AutographSignature.reader key) encode Fits :=
  (canonical_address key).bind fun _ => (exact_string key).map fun _ hmessage => ⟨hmessage, rfl⟩

theorem exact_addresses (what : String) :
    Exact (list what (address what)) (Wire.list Wire.address) fun list => list.length < 2 ^ 32 :=
  exact_list_of_canonical what (canonical_address what)

theorem RuleSet.exact_reader : Exact RuleSet.reader encode Fits := by
  apply takes_tagged
  intro tag r hr
  split_ifs at hr with hnone hallow hdeny <;> cases hr
  · rw [hnone]
    exact .pure ⟨trivial, rfl⟩
  · rw [hallow]
    exact (exact_addresses _).map fun _ hlength => ⟨hlength, rfl⟩
  · rw [hdeny]
    exact (exact_addresses _).map fun _ hlength => ⟨hlength, rfl⟩

namespace Plugin

theorem takes_fields (kind : PluginKind) :
    Takes (fields kind) fun p bytes => p.kind = kind ∧ p.Fits ∧ bytes = p.encodeFields := by
  cases kind with
  | royalties =>
    apply (canonical_u16 _).bind
    intro basisPoints
    apply (exact_list_of_canonical _ (Creator.canonical_reader _)).bind
    intro creators hcreators
    apply RuleSet.exact_reader.map
    intro ruleSet hruleSet
    exact ⟨rfl, ⟨hcreators, hruleSet⟩, by rw [encodeFields, List.append_assoc]⟩
  | freezeDelegate | permanentFreezeDelegate =>
    exact (canonical_bool _).map fun frozen => ⟨rfl, trivial, rfl⟩
  | updateDelegate => exact (exact_addresses _).map fun delegates h => ⟨rfl, h, rfl⟩
  | attributes =>
    exact (exact_list _ (Attribute.exact_reader _)).map fun list h => ⟨rfl, h, rfl⟩
  | edition => exact (canonical_u32 _).map fun number => ⟨rfl, trivial, rfl⟩
  | masterEdition =>
    apply (canonical_option _ (canonical_u32 _)).bind
    intro maxSupply
    apply (exact_option _ (exact_string _)).bind
    intro name hname
    apply (exact_option _ (exact_string _)).map
    intro uri huri
    exact ⟨rfl, ⟨hname, huri⟩, by rw [encodeFields, List.append_assoc]⟩
  | verifiedCreators =>
    exact (exact_list_of_canonical _ (CreatorSignature.canonical_reader _)).map
      fun signatures h => ⟨rfl, h, rfl⟩
  | autograph =>
    exact (exact_list _ (AutographSignature.exact_reader _)).map fun signatures h => ⟨rfl, h, rfl⟩
  | burnDelegate | transferDelegate | permanentTransferDelegate | permanentBurnDelegate
  | addBlocker | immutableMetadata => exact .pure ⟨rfl, trivial, rfl⟩

theorem exact_reader : Exact Plugin.reader encode Fits := by
  apply takes_tagged
  intro tag r hr
  obtain ⟨kind, hkind, rfl⟩ := Option.map_eq_some_iff.mp hr
  apply (takes_fields kind).imp
  rintro p _ ⟨rfl, hfits, rfl⟩
  exact ⟨hfits, by rw [encode, PluginKind.tag_of_ofTag? hkind]⟩

end Plugin

/-! ## Extra accounts -/

theorem Seed.exact_reader : Exact Seed.reader encode Fits := by
  apply takes_tagged
  intro tag r hr
  split_ifs at hr with hcollection howner hrecipient hasset haddress hbytes <;> cases hr
  · rw [hcollection]
    exact .pure ⟨trivial, rfl⟩
  · rw [howner]
    exact .pure ⟨trivial, rfl⟩
  · rw [hrecipient]
    exact .pure ⟨trivial, rfl⟩
  · rw [hasset]
    exact .pure ⟨trivial, rfl⟩
  · rw [haddress]
    exact (canonical_address _).map fun a => ⟨trivial, rfl⟩
  · rw [hbytes]
    exact (exact_blob _).map fun b hlength => ⟨hlength, rfl⟩

namespace ExtraAccount

theorem canonical_flagsReader : Canonical flagsReader encodeFlags :=
  (canonical_bool _).bind fun _ => (canonical_bool _).map fun _ => rfl

/-- The flags stand after whatever the source takes. -/
theorem takes_withFlags {r : Reader AccountSource} {tag : Bytes}
    (h : Takes r fun source bytes => source.Fits ∧ tag ++ bytes = encodeSource source) :
    Takes (withFlags r) fun x bytes => x.Fits ∧ tag ++ bytes = x.encode := by
  apply Takes.bind h
  rintro source bytes ⟨hfits, hbytes⟩
  apply canonical_flagsReader.map
  intro flags
  exact ⟨hfits, by rw [encode, ← hbytes, List.append_assoc]⟩

theorem takes_customPdaReader :
    Takes customPdaReader fun source bytes =>
      source.Fits ∧ Wire.u8 5 ++ bytes = encodeSource source := by
  apply (exact_list _ Seed.exact_reader).bind
  intro seeds hseeds
  apply (canonical_option _ (canonical_address _)).map
  intro program
  exact ⟨hseeds, by rw [encodeSource, List.append_assoc]⟩

theorem exact_reader : Exact ExtraAccount.reader encode Fits := by
  apply takes_tagged
  intro tag r hr
  split_ifs at hr with hprogram hcollection howner hrecipient hasset hcustom haddress <;>
    cases hr <;> apply takes_withFlags
  · rw [hprogram]
    exact .pure ⟨trivial, rfl⟩
  · rw [hcollection]
    exact .pure ⟨trivial, rfl⟩
  · rw [howner]
    exact .pure ⟨trivial, rfl⟩
  · rw [hrecipient]
    exact .pure ⟨trivial, rfl⟩
  · rw [hasset]
    exact .pure ⟨trivial, rfl⟩
  · rw [hcustom]
    exact takes_customPdaReader
  · rw [haddress]
    exact (canonical_address _).map fun a => ⟨trivial, rfl⟩

end ExtraAccount

/-! ## Adapters -/

theorem Schema.canonical_reader : Canonical Schema.reader encode := by
  apply takes_tagged
  intro tag r hr
  obtain ⟨schema, hschema, rfl⟩ := Option.map_eq_some_iff.mp hr
  obtain rfl := Schema.tag_of_ofTag? hschema
  exact .pure rfl

theorem LinkedDataKey.canonical_reader : Canonical LinkedDataKey.reader encode := by
  apply takes_tagged
  intro tag r hr
  split_ifs at hr with hhook hdata <;> cases hr
  · rw [hhook]
    exact (canonical_address _).map fun program => rfl
  · rw [hdata]
    exact Authority.canonical_reader.map fun authority => rfl

theorem Hook.exact_reader (key : String) : Exact (Hook.reader key) encode Fits := by
  apply (canonical_address _).bind
  intro hookedProgram
  apply (exact_option _ (exact_list _ ExtraAccount.exact_reader)).bind
  intro extraAccounts hextra
  apply (canonical_option _ Authority.canonical_reader).bind
  intro dataAuthority
  apply Schema.canonical_reader.map
  intro schema
  exact ⟨hextra, by rw [encode, List.append_assoc, List.append_assoc]⟩

theorem ResultsOffset.canonical_reader (key : String) :
    Canonical (ResultsOffset.reader key) encode := by
  apply Takes.ofPosition
  intro start
  apply (canonical_u8 _).bind
  intro tag
  split_ifs with hnone hanchor hcustom
  · rw [hnone]
    exact .pure rfl
  · rw [hanchor]
    exact .pure rfl
  · rw [hcustom]
    exact (canonical_u64 _).map fun offset => rfl
  · exact .fail

theorem Oracle.exact_reader (key : String) : Exact (Oracle.reader key) encode Fits := by
  apply (canonical_address _).bind
  intro baseAddress
  apply (exact_option _ ExtraAccount.exact_reader).bind
  intro config hconfig
  apply (ResultsOffset.canonical_reader key).map
  intro resultsOffset
  exact ⟨hconfig, by rw [encode, List.append_assoc]⟩

theorem AppData.canonical_reader : Canonical AppData.reader encode :=
  Authority.canonical_reader.bind fun _ => Schema.canonical_reader.map fun _ => rfl

theorem DataSection.canonical_reader : Canonical DataSection.reader encode :=
  LinkedDataKey.canonical_reader.bind fun _ => Schema.canonical_reader.map fun _ => rfl

namespace Adapter

theorem takes_fields (kind : AdapterKind) :
    Takes (fields kind) fun a bytes => a.kind = kind ∧ a.Fits ∧ bytes = a.encodeFields := by
  cases kind with
  | lifecycleHook | linkedLifecycleHook =>
    exact (Hook.exact_reader _).map fun hook h => ⟨rfl, h, rfl⟩
  | oracle => exact (Oracle.exact_reader _).map fun o h => ⟨rfl, h, rfl⟩
  | appData | linkedAppData => exact AppData.canonical_reader.map fun d => ⟨rfl, trivial, rfl⟩
  | dataSection => exact DataSection.canonical_reader.map fun s => ⟨rfl, trivial, rfl⟩

theorem exact_reader : Exact Adapter.reader encode Fits := by
  apply takes_tagged
  intro tag r hr
  obtain ⟨kind, hkind, rfl⟩ := Option.map_eq_some_iff.mp hr
  apply (takes_fields kind).imp
  rintro a _ ⟨rfl, hfits, rfl⟩
  exact ⟨hfits, by rw [encode, AdapterKind.tag_of_ofTag? hkind]⟩

end Adapter

/-! ## Both directions -/

namespace Reader

/-- Beyond the end of the buffer nothing is read. -/
theorem le_length_of_primitive {what : String} {parse : Bytes → Except Reason (α × Nat)}
    {data : Bytes} {pos next : Nat} {a : α}
    (h : primitive what parse data pos = ⟨.ok a, next⟩) : pos ≤ data.length := by
  by_contra hbeyond
  rw [primitive, if_pos (Nat.not_le.mp hbeyond)] at h
  cases h

theorem le_length_of_tagged {what noun : String} {select : UInt8 → Option (Reader α)} {data : Bytes}
    {pos next : Nat} {a : α} (h : tagged what noun select data pos = ⟨.ok a, next⟩) :
    pos ≤ data.length := by
  obtain ⟨_, _, hstart, hrest⟩ := exists_of_bind_eq_ok h
  cases hstart
  obtain ⟨_, _, hbyte, _⟩ := exists_of_bind_eq_ok hrest
  obtain ⟨_, _, hnumber, _⟩ := exists_of_bind_eq_ok hbyte
  exact le_length_of_primitive hnumber

end Reader

namespace Exact

variable {r : Reader α} {encode : α → Bytes} {fits : α → Prop}

/-- The written form stands between the position where the reader began and the one where it
stopped. -/
theorem window (h : Exact r encode fits) {data : Bytes} {pos next : Nat} {a : α}
    (hpos : pos ≤ data.length) (hread : r data pos = ⟨.ok a, next⟩) :
    fits a ∧ pos ≤ next ∧ next ≤ data.length ∧ (data.drop pos).take (next - pos) = encode a := by
  obtain ⟨hle, hnext, hfits, hbytes⟩ := Takes.window h hpos hread
  exact ⟨hfits, hle, hnext, hbytes⟩

/-- An exact reader that reads written forms, and nothing beyond the end of the buffer, is inverse to
writing. -/
theorem codec (h : Exact r encode fits) (hreads : ∀ a, fits a → Reads r (encode a) a)
    (hinside : ∀ {data pos a next}, r data pos = ⟨.ok a, next⟩ → pos ≤ data.length) :
    Codec r encode fits where
  reads := hreads
  written := by
    intro data pos a next hread
    exact h.window (hinside hread) hread
  unique := by
    intro data data' pos pos' a next next' hread hread'
    have hbytes := (h.window (hinside hread) hread).2.2.2
    have hbytes' := (h.window (hinside hread') hread').2.2.2
    rw [hbytes, hbytes']

end Exact

/-- **Payloads have one written form.**  Plugins and adapters are read exactly from what they are
written as. -/
theorem payload_codecs :
    Codec Plugin.reader Plugin.encode Plugin.Fits ∧
      Codec Adapter.reader Adapter.encode Adapter.Fits :=
  ⟨Plugin.exact_reader.codec (fun _ => Plugin.reads_encode) le_length_of_tagged,
    Adapter.exact_reader.codec (fun _ => Adapter.reads_encode) le_length_of_tagged⟩

/-! ## Two payloads -/

/-- Royalties with a creator and a list of refused programs. -/
def Plugin.refusing : Plugin := .royalties 500 [⟨.zero, 100⟩] (.deny [.zero])

/-- An oracle whose account is derived from three seeds. -/
def Adapter.seeded : Adapter :=
  .oracle
    { baseAddress := .zero
      baseAddressConfig :=
        some ⟨.customPda [.wellKnown .owner, .bytes [97, 98], .wellKnown .asset] (some .zero),
          ⟨false, true⟩⟩
      resultsOffset := .custom 8 }

/-- The bytes of the oracle between two other bytes. -/
def Adapter.seededBytes : Bytes := [9] ++ (seeded.encode ++ [9])

/-- The royalties are read from among other bytes, and the oracle was written where it is read. -/
theorem payload_codecs_nested :
    Plugin.refusing.Fits ∧
      Plugin.reader ([9] ++ (Plugin.refusing.encode ++ [9])) 1 =
        ⟨.ok Plugin.refusing, 1 + Plugin.refusing.encode.length⟩ ∧
      ∃ next, Adapter.reader Adapter.seededBytes 1 = ⟨.ok Adapter.seeded, next⟩ ∧
        (Adapter.seededBytes.drop 1).take (next - 1) = Adapter.seeded.encode := by
  have hprograms : [Address.zero].length < 2 ^ 32 := by decide
  have hfits : Plugin.refusing.Fits := ⟨by decide, hprograms⟩
  have hvalue : Adapter.reader.value Adapter.seededBytes 1 = .ok Adapter.seeded := by
    decide +kernel
  obtain ⟨next, hread⟩ := Reader.value_eq_ok_iff.mp hvalue
  obtain ⟨_, _, _, hbytes⟩ := payload_codecs.2.written _ _ _ _ hread
  exact ⟨hfits, payload_codecs.1.reads _ hfits [9] [9], next, hread, hbytes⟩

end DigitalAsset
