import DigitalAsset.Account.Basic
import DigitalAsset.Proofs.Codec.Reads
import DigitalAsset.Proofs.Traversal

/-!
# How readers are put together

`Composed r` says that the reader `r` is made of primitives which are run one after the other, each
of them chosen by the values before it, and that all refusals of its own are decoding errors.  What
holds of the primitives and of two readers in a row holds of all composed readers then, by one
induction with a case for each way of putting readers together.

All readers of entries and payloads are composed.  A structure with a marker in front is `Marked`:
it is refused for its marker, or else read by a composed reader.
-/

namespace DigitalAsset

open Reader

/-! ## Parsers of primitive values -/

namespace Reader

/-- A parser of primitive values looks only at the bytes that it takes. -/
structure LocalParse (parse : Bytes → Except Reason (α × Nat)) : Prop where
  takes : ∀ {rest : Bytes} {a : α} {width : Nat}, parse rest = .ok (a, width) →
    ∃ bytes back, rest = bytes ++ back ∧ width = bytes.length ∧
      ∀ other, parse (bytes ++ other) = .ok (a, width)

theorem takeExactly_eq_ok {width taken : Nat} {rest bytes : Bytes}
    (h : takeExactly width rest = .ok (bytes, taken)) :
    bytes.length = width ∧ taken = width ∧ ∃ back, rest = bytes ++ back := by
  simp only [takeExactly] at h
  split at h
  · rename_i hlength
    cases h
    exact ⟨hlength, rfl, rest.drop width, (List.take_append_drop width rest).symm⟩
  · cases h

/-- A parsed byte string has its length in the four bytes before it. -/
theorem lengthPrefixed_eq_ok {rest body : Bytes} {width : Nat}
    (h : lengthPrefixed rest = .ok (body, width)) :
    ∃ header back, rest = header ++ (body ++ back) ∧ header.length = 4 ∧
      header.toNatLE = body.length ∧ width = 4 + body.length := by
  obtain ⟨⟨header, _⟩, hheader, hrest⟩ := Traversal.bind_eq_ok_iff.mp h
  obtain ⟨⟨body, _⟩, hbody, hdone⟩ := Traversal.bind_eq_ok_iff.mp hrest
  cases hdone
  obtain ⟨hfour, rfl, rest, rfl⟩ := takeExactly_eq_ok hheader
  have hdrop : (header ++ rest).drop 4 = rest := by rw [← hfour, List.drop_left]
  rw [hdrop] at hbody
  obtain ⟨hlength, rfl, back, rfl⟩ := takeExactly_eq_ok hbody
  exact ⟨header, back, rfl, hfour, hlength.symm, by rw [hlength]⟩

theorem localParse_takeExactly (width : Nat) : LocalParse (takeExactly width) where
  takes := by
    intro rest bytes taken h
    obtain ⟨hlength, rfl, back, rfl⟩ := takeExactly_eq_ok h
    exact ⟨bytes, back, rfl, hlength.symm, takeExactly_append hlength⟩

theorem localParse_lengthPrefixed : LocalParse lengthPrefixed where
  takes := by
    intro rest body width h
    obtain ⟨header, back, rfl, hfour, hlength, rfl⟩ := lengthPrefixed_eq_ok h
    refine ⟨header ++ body, back, by simp, by simp [hfour], ?_⟩
    intro other
    rw [List.append_assoc, lengthPrefixed_append hfour hlength]

/-- What becomes of a parsed value looks at nothing more. -/
theorem LocalParse.bind {parse : Bytes → Except Reason (α × Nat)} (h : LocalParse parse)
    {f : α × Nat → Except Reason (β × Nat)}
    (hf : ∀ {a : α} {b : β} {width width' : Nat}, f (a, width) = .ok (b, width') → width' = width) :
    LocalParse fun rest => parse rest >>= f where
  takes := by
    intro rest b width hboth
    obtain ⟨⟨a, width'⟩, hparse, hvalue⟩ := Traversal.bind_eq_ok_iff.mp hboth
    obtain rfl := hf hvalue
    obtain ⟨bytes, back, rfl, rfl, hsame⟩ := h.takes hparse
    exact ⟨bytes, back, rfl, rfl, fun other => Traversal.bind_eq_ok_iff.mpr ⟨_, hsame other, hvalue⟩⟩

end Reader

/-! ## Composed readers -/

/-- The reader is made of primitives that are run one after the other, and refuses what it has read
with decoding errors only. -/
inductive Composed : {α : Type} → Reader α → Prop
  | pure {α : Type} (a : α) : Composed (Pure.pure a : Reader α)
  | refuse {α : Type} (what : String) (offset : Nat) (reason : Reason) :
    Composed (Reader.fail (.decode what offset reason) : Reader α)
  | position : Composed Reader.position
  | primitive {α : Type} (what : String) {parse : Bytes → Except Reason (α × Nat)} :
    LocalParse parse → Composed (Reader.primitive what parse)
  | skip (what : String) (width : Nat) : Composed (Reader.skip what width)
  | bind {α β : Type} {r : Reader α} {f : α → Reader β} :
    Composed r → (∀ a, Composed (f a)) → Composed (r >>= f)

theorem Composed.map {r : Reader α} {f : α → β} (h : Composed r) :
    Composed (r >>= fun a => Pure.pure (f a)) :=
  h.bind fun a => .pure (f a)

namespace Reader

theorem composed_bytes (what : String) (width : Nat) : Composed (bytes what width) :=
  .primitive what (localParse_takeExactly width)

theorem composed_nat (what : String) (width : Nat) : Composed (nat what width) := by
  apply Composed.primitive
  refine (localParse_takeExactly width).bind (f := fun taken => .ok (taken.1.toNatLE, taken.2)) ?_
  intro b n w w' h
  cases h
  rfl

theorem composed_u8 (what : String) : Composed (u8 what) := (composed_nat what 1).map

theorem composed_u16 (what : String) : Composed (u16 what) := (composed_nat what 2).map

theorem composed_u32 (what : String) : Composed (u32 what) := (composed_nat what 4).map

theorem composed_u64 (what : String) : Composed (u64 what) := (composed_nat what 8).map

theorem composed_address (what : String) : Composed (address what) := (composed_bytes what 32).map

theorem composed_blob (what : String) : Composed (blob what) :=
  .primitive what localParse_lengthPrefixed

theorem composed_bool (what : String) : Composed (bool what) := by
  apply Composed.primitive
  refine ⟨?_⟩
  rintro (_ | ⟨b, rest⟩) value width h
  · cases h
  · refine ⟨[b], rest, rfl, ?_, fun other => h⟩
    dsimp only at h
    split_ifs at h <;> cases h <;> rfl

theorem composed_string (what : String) : Composed (string what) := by
  apply Composed.primitive
  apply localParse_lengthPrefixed.bind
  intro body s width width' h
  dsimp only at h
  split at h <;> cases h
  rfl

theorem composed_option (what : String) {item : Reader α} (h : Composed item) :
    Composed (option what item) := by
  apply Composed.position.bind
  intro start
  apply (composed_u8 what).bind
  intro marker
  split_ifs
  · exact .pure none
  · exact h.map
  · exact .refuse _ _ _

theorem composed_repeated {item : Reader α} (h : Composed item) (count : Nat) :
    Composed (repeated item count) := by
  induction count with
  | zero => exact .pure []
  | succ count ih => exact h.bind fun a => ih.map

theorem composed_list (what : String) {item : Reader α} (h : Composed item) :
    Composed (list what item) :=
  (composed_u32 what).bind fun count => composed_repeated h count.toNat

theorem composed_tagged (what noun : String) {select : UInt8 → Option (Reader α)}
    (h : ∀ tag, ∀ r ∈ select tag, Composed r) : Composed (tagged what noun select) := by
  apply Composed.position.bind
  intro start
  apply (composed_u8 what).bind
  intro tag
  cases hselect : select tag with
  | none => exact .refuse _ _ _
  | some r => exact h tag r hselect

/-- A tag that says everything. -/
theorem composed_enum (what noun : String) (ofTag? : UInt8 → Option α) :
    Composed (tagged what noun fun tag => (ofTag? tag).map pure) := by
  apply composed_tagged
  intro tag r hr
  obtain ⟨a, _, rfl⟩ := Option.map_eq_some_iff.mp hr
  exact .pure a

end Reader

/-! ## Authorities -/

theorem Authority.composed_reader : Composed Authority.reader := by
  apply composed_tagged
  intro tag r hr
  split_ifs at hr <;> cases hr
  · exact .pure _
  · exact .pure _
  · exact .pure _
  · exact (composed_address _).map

theorem UpdateAuthority.composed_reader : Composed UpdateAuthority.reader := by
  apply composed_tagged
  intro tag r hr
  split_ifs at hr <;> cases hr
  · exact .pure _
  · exact (composed_address _).map
  · exact (composed_address _).map

/-! ## Plugins -/

theorem Creator.composed_reader (key : String) : Composed (Creator.reader key) :=
  (composed_address key).bind fun _ => (composed_u8 key).map

theorem Attribute.composed_reader (key : String) : Composed (Attribute.reader key) :=
  (composed_string key).bind fun _ => (composed_string key).map

theorem CreatorSignature.composed_reader (key : String) : Composed (CreatorSignature.reader key) :=
  (composed_address key).bind fun _ => (composed_bool key).map

theorem AutographSignature.composed_reader (key : String) :
    Composed (AutographSignature.reader key) :=
  (composed_address key).bind fun _ => (composed_string key).map

theorem RuleSet.composed_reader : Composed RuleSet.reader := by
  apply composed_tagged
  intro tag r hr
  split_ifs at hr <;> cases hr
  · exact .pure _
  · exact (composed_list _ (composed_address _)).map
  · exact (composed_list _ (composed_address _)).map

namespace Plugin

theorem composed_fields (kind : PluginKind) : Composed (fields kind) := by
  cases kind with
  | royalties =>
    apply (composed_u16 _).bind
    intro basisPoints
    apply (composed_list _ (Creator.composed_reader _)).bind
    intro creators
    exact RuleSet.composed_reader.map
  | masterEdition =>
    apply (composed_option _ (composed_u32 _)).bind
    intro maxSupply
    apply (composed_option _ (composed_string _)).bind
    intro name
    exact (composed_option _ (composed_string _)).map
  | freezeDelegate | permanentFreezeDelegate => exact (composed_bool _).map
  | updateDelegate => exact (composed_list _ (composed_address _)).map
  | attributes => exact (composed_list _ (Attribute.composed_reader _)).map
  | edition => exact (composed_u32 _).map
  | verifiedCreators => exact (composed_list _ (CreatorSignature.composed_reader _)).map
  | autograph => exact (composed_list _ (AutographSignature.composed_reader _)).map
  | burnDelegate | transferDelegate | permanentTransferDelegate | permanentBurnDelegate
  | addBlocker | immutableMetadata => exact .pure _

theorem composed_reader : Composed Plugin.reader := by
  apply composed_tagged
  intro tag r hr
  obtain ⟨kind, _, rfl⟩ := Option.map_eq_some_iff.mp hr
  exact composed_fields kind

end Plugin

/-! ## Extra accounts -/

theorem Seed.composed_reader : Composed Seed.reader := by
  apply composed_tagged
  intro tag r hr
  split_ifs at hr <;> cases hr
  · exact .pure _
  · exact .pure _
  · exact .pure _
  · exact .pure _
  · exact (composed_address _).map
  · exact (composed_blob _).map

namespace ExtraAccount

theorem composed_withFlags {source : Reader AccountSource} (h : Composed source) :
    Composed (withFlags source) := by
  have hflags : Composed flagsReader := (composed_bool _).bind fun _ => (composed_bool _).map
  exact h.bind fun _ => hflags.map

theorem composed_customPdaReader : Composed customPdaReader :=
  (composed_list _ Seed.composed_reader).bind fun _ => (composed_option _ (composed_address _)).map

theorem composed_reader : Composed ExtraAccount.reader := by
  apply composed_tagged
  intro tag r hr
  split_ifs at hr <;> cases hr <;> apply composed_withFlags
  · exact .pure _
  · exact .pure _
  · exact .pure _
  · exact .pure _
  · exact .pure _
  · exact composed_customPdaReader
  · exact (composed_address _).map

end ExtraAccount

/-! ## Adapters -/

theorem Schema.composed_reader : Composed Schema.reader := composed_enum _ _ _

theorem LinkedDataKey.composed_reader : Composed LinkedDataKey.reader := by
  apply composed_tagged
  intro tag r hr
  split_ifs at hr <;> cases hr
  · exact (composed_address _).map
  · exact Authority.composed_reader.map

theorem Hook.composed_reader (key : String) : Composed (Hook.reader key) := by
  apply (composed_address _).bind
  intro hookedProgram
  apply (composed_option _ (composed_list _ ExtraAccount.composed_reader)).bind
  intro extraAccounts
  apply (composed_option _ Authority.composed_reader).bind
  intro dataAuthority
  exact Schema.composed_reader.map

theorem ResultsOffset.composed_reader (key : String) : Composed (ResultsOffset.reader key) := by
  apply Composed.position.bind
  intro start
  apply (composed_u8 _).bind
  intro tag
  split_ifs
  · exact .pure _
  · exact .pure _
  · exact (composed_u64 _).map
  · exact .refuse _ _ _

theorem Oracle.composed_reader (key : String) : Composed (Oracle.reader key) := by
  apply (composed_address _).bind
  intro baseAddress
  apply (composed_option _ ExtraAccount.composed_reader).bind
  intro baseAddressConfig
  exact (ResultsOffset.composed_reader key).map

theorem AppData.composed_reader : Composed AppData.reader :=
  Authority.composed_reader.bind fun _ => Schema.composed_reader.map

theorem DataSection.composed_reader : Composed DataSection.reader :=
  LinkedDataKey.composed_reader.bind fun _ => Schema.composed_reader.map

theorem Adapter.composed_reader : Composed Adapter.reader := by
  apply composed_tagged
  intro tag r hr
  obtain ⟨kind, _, rfl⟩ := Option.map_eq_some_iff.mp hr
  cases kind with
  | lifecycleHook | linkedLifecycleHook => exact (Hook.composed_reader _).map
  | oracle => exact (Oracle.composed_reader _).map
  | appData | linkedAppData => exact AppData.composed_reader.map
  | dataSection => exact DataSection.composed_reader.map

/-! ## Registry entries -/

/-- The place of an unknown tag is part of its entry, so the entry depends on its position. -/
theorem Entry.composed_tagReader (settings : Settings) (ofTag? : UInt8 → Option κ) :
    Composed (tagReader settings ofTag?) := by
  apply Composed.position.bind
  intro start
  apply (composed_u8 _).bind
  intro tag
  cases ofTag? tag with
  | some kind => exact .pure _
  | none => exact (Composed.skip _ _).map

theorem PluginRecord.composed_entryReader (settings : Settings) :
    Composed (entryReader settings) := by
  apply (Entry.composed_tagReader settings _).bind
  intro tag
  apply Authority.composed_reader.bind
  intro authority
  exact (composed_u64 _).map

theorem AdapterRecord.composed_checksReader : Composed checksReader := by
  have hcheck : Composed checkReader := (composed_enum _ _ _).bind fun _ => (composed_u32 _).map
  exact (composed_list _ hcheck).map

theorem AdapterRecord.composed_entryReader (settings : Settings) :
    Composed (entryReader settings) := by
  apply (Entry.composed_tagReader settings _).bind
  intro tag
  apply Authority.composed_reader.bind
  intro authority
  apply (composed_option _ composed_checksReader).bind
  intro checks
  apply (composed_u64 _).bind
  intro offset
  apply (composed_option _ (composed_u64 _)).bind
  intro dataOffset
  exact (composed_option _ (composed_u64 _)).map

theorem Registry.composed_pluginEntries (settings : Settings) : Composed (pluginEntries settings) :=
  composed_list _ (PluginRecord.composed_entryReader settings)

/-! ## Structures behind a marker -/

/-- The reader takes a marker, and the rest is read by a composed reader. -/
def Marked (expected : Marker) (r : Reader α) : Prop :=
  ∃ rest, Composed rest ∧ r = expected.reader >>= fun _ => rest

theorem PluginHeader.marked_reader : Marked .pluginHeader PluginHeader.reader :=
  ⟨_, (composed_u64 _).map, rfl⟩

theorem AssetBase.marked_reader : Marked .asset AssetBase.reader := by
  refine ⟨_, ?_, rfl⟩
  apply (composed_address _).bind
  intro owner
  apply UpdateAuthority.composed_reader.bind
  intro updateAuthority
  apply (composed_string _).bind
  intro name
  apply (composed_string _).bind
  intro uri
  exact (composed_option _ (composed_u64 _)).map

theorem CollectionBase.marked_reader : Marked .collection CollectionBase.reader := by
  refine ⟨_, ?_, rfl⟩
  apply (composed_address _).bind
  intro updateAuthority
  apply (composed_string _).bind
  intro name
  apply (composed_string _).bind
  intro uri
  apply (composed_u32 _).bind
  intro numMinted
  exact (composed_u32 _).map

end DigitalAsset
