import DigitalAsset.Adapter.Codec
import DigitalAsset.Plugin.Codec
import DigitalAsset.Proofs.Codec.Reads

/-!
# Payloads are read back

Every authority, plugin and adapter is read from its written form (`Plugin.reads_encode`,
`Adapter.reads_encode`), provided that its strings and lists fit the format: a length is written in
32 bits, and `Fits` says that each of them has one.
-/

namespace DigitalAsset

/-! ## Authorities -/

theorem Authority.reads_encode (a : Authority) : Reads Authority.reader a.encode a := by
  cases a with
  | none => exact Reader.reads_tagged_pure rfl
  | owner => exact Reader.reads_tagged_pure rfl
  | updateAuthority => exact Reader.reads_tagged_pure rfl
  | address a => exact Reader.reads_tagged rfl ((Reader.reads_address _ a).map)

theorem UpdateAuthority.reads_encode (a : UpdateAuthority) :
    Reads UpdateAuthority.reader a.encode a := by
  cases a with
  | none => exact Reader.reads_tagged_pure rfl
  | address a => exact Reader.reads_tagged rfl ((Reader.reads_address _ a).map)
  | collection a => exact Reader.reads_tagged rfl ((Reader.reads_address _ a).map)

/-! ## Parts of plugins -/

theorem Creator.reads_encode (key : String) (c : Creator) : Reads (Creator.reader key) c.encode c :=
  (Reader.reads_address key c.address).bind ((Reader.reads_u8 key c.percentage).map)

theorem CreatorSignature.reads_encode (key : String) (s : CreatorSignature) :
    Reads (CreatorSignature.reader key) s.encode s :=
  (Reader.reads_address key s.address).bind ((Reader.reads_bool key s.verified).map)

/-- The texts of an attribute have lengths of 32 bits. -/
def Attribute.Fits (a : Attribute) : Prop :=
  a.key.utf8ByteSize < 2 ^ 32 ∧ a.value.utf8ByteSize < 2 ^ 32

theorem Attribute.reads_encode (key : String) {a : Attribute} (h : a.Fits) :
    Reads (Attribute.reader key) a.encode a :=
  (Reader.reads_string key h.1).bind ((Reader.reads_string key h.2).map)

/-- The message of an autograph has a length of 32 bits. -/
def AutographSignature.Fits (s : AutographSignature) : Prop := s.message.utf8ByteSize < 2 ^ 32

theorem AutographSignature.reads_encode (key : String) {s : AutographSignature} (h : s.Fits) :
    Reads (AutographSignature.reader key) s.encode s :=
  (Reader.reads_address key s.address).bind ((Reader.reads_string key h).map)

/-- The lists of a rule set have lengths of 32 bits. -/
def RuleSet.Fits : RuleSet → Prop
  | .none => True
  | .allow programs => programs.length < 2 ^ 32
  | .deny programs => programs.length < 2 ^ 32

theorem reads_addresses (what : String) {list : List Address} (h : list.length < 2 ^ 32) :
    Reads (Reader.list what (Reader.address what)) (Wire.list Wire.address list) list :=
  Reader.reads_list what h fun a _ => Reader.reads_address what a

theorem RuleSet.reads_encode {r : RuleSet} (h : r.Fits) : Reads RuleSet.reader r.encode r := by
  cases r with
  | none => exact Reader.reads_tagged_pure rfl
  | allow programs => exact Reader.reads_tagged rfl ((reads_addresses _ h).map)
  | deny programs => exact Reader.reads_tagged rfl ((reads_addresses _ h).map)

/-! ## Plugins -/

namespace Plugin

/-- Every string and list of a plugin has a length of 32 bits. -/
def Fits : Plugin → Prop
  | royalties _ creators ruleSet => creators.length < 2 ^ 32 ∧ ruleSet.Fits
  | updateDelegate delegates => delegates.length < 2 ^ 32
  | attributes list => list.length < 2 ^ 32 ∧ ∀ a ∈ list, a.Fits
  | masterEdition _ name uri =>
    (∀ s ∈ name, s.utf8ByteSize < 2 ^ 32) ∧ ∀ s ∈ uri, s.utf8ByteSize < 2 ^ 32
  | verifiedCreators signatures => signatures.length < 2 ^ 32
  | autograph signatures => signatures.length < 2 ^ 32 ∧ ∀ s ∈ signatures, s.Fits
  | _ => True

theorem reads_encodeFields {p : Plugin} (h : p.Fits) : Reads (fields p.kind) p.encodeFields p := by
  cases p with
  | royalties basisPoints creators ruleSet =>
    rw [encodeFields, List.append_assoc]
    apply (Reader.reads_u16 _ basisPoints).bind
    apply (Reader.reads_list _ h.1 fun c _ => Creator.reads_encode _ c).bind
    exact (RuleSet.reads_encode h.2).map
  | freezeDelegate frozen => exact (Reader.reads_bool _ frozen).map
  | burnDelegate => exact Reads.pure _
  | transferDelegate => exact Reads.pure _
  | updateDelegate delegates => exact (reads_addresses _ h).map
  | permanentFreezeDelegate frozen => exact (Reader.reads_bool _ frozen).map
  | attributes list =>
    exact (Reader.reads_list _ h.1 fun a ha => Attribute.reads_encode _ (h.2 a ha)).map
  | permanentTransferDelegate => exact Reads.pure _
  | permanentBurnDelegate => exact Reads.pure _
  | edition number => exact (Reader.reads_u32 _ number).map
  | masterEdition maxSupply name uri =>
    rw [encodeFields, List.append_assoc]
    apply (Reader.reads_option fun n _ => Reader.reads_u32 _ n).bind
    apply (Reader.reads_option fun s hs => Reader.reads_string _ (h.1 s hs)).bind
    exact (Reader.reads_option fun s hs => Reader.reads_string _ (h.2 s hs)).map
  | addBlocker => exact Reads.pure _
  | immutableMetadata => exact Reads.pure _
  | verifiedCreators signatures =>
    exact (Reader.reads_list _ h fun s _ => CreatorSignature.reads_encode _ s).map
  | autograph signatures =>
    exact (Reader.reads_list _ h.1 fun s hs => AutographSignature.reads_encode _ (h.2 s hs)).map

/-- A plugin is read from its written form. -/
theorem reads_encode {p : Plugin} (h : p.Fits) : Reads Plugin.reader p.encode p := by
  apply Reader.reads_tagged (r := fields p.kind)
  · rw [PluginKind.ofTag?_tag, Option.map_some]
  · exact reads_encodeFields h

/-- A written plugin has at least its tag. -/
theorem length_encode_pos (p : Plugin) : 0 < p.encode.length := by
  rw [encode, Wire.u8, List.length_append, List.length_singleton]
  omega

end Plugin

/-! ## Extra accounts -/

/-- The bytes of a seed have a length of 32 bits. -/
def Seed.Fits : Seed → Prop
  | .bytes b => b.length < 2 ^ 32
  | _ => True

theorem Seed.reads_encode {s : Seed} (h : s.Fits) : Reads Seed.reader s.encode s := by
  cases s with
  | wellKnown address =>
    cases address <;> exact Reader.reads_tagged_pure rfl
  | address a => exact Reader.reads_tagged rfl ((Reader.reads_address _ a).map)
  | bytes b => exact Reader.reads_tagged rfl ((Reader.reads_blob _ h).map)

/-- The list of seeds and each seed have lengths of 32 bits. -/
def AccountSource.Fits : AccountSource → Prop
  | .customPda seeds _ => seeds.length < 2 ^ 32 ∧ ∀ s ∈ seeds, s.Fits
  | _ => True

namespace ExtraAccount

/-- Every list of a description has a length of 32 bits. -/
def Fits (x : ExtraAccount) : Prop := x.source.Fits

theorem reads_encodeFlags (flags : AccountFlags) : Reads flagsReader (encodeFlags flags) flags :=
  (Reader.reads_bool _ flags.isSigner).bind ((Reader.reads_bool _ flags.isWritable).map)

/-- The flags stand after whatever the source has written. -/
theorem reads_withFlags {r : Reader AccountSource} {bytes : Bytes} {source : AccountSource}
    (h : Reads r bytes source) (flags : AccountFlags) :
    Reads (withFlags r) (bytes ++ encodeFlags flags) ⟨source, flags⟩ :=
  h.bind ((reads_encodeFlags flags).map)

theorem reads_customPda {seeds : List Seed} {program : Option Address}
    (h : (AccountSource.customPda seeds program).Fits) :
    Reads customPdaReader (Wire.list Seed.encode seeds ++ Wire.option Wire.address program)
      (.customPda seeds program) := by
  apply (Reader.reads_list _ h.1 fun s hs => Seed.reads_encode (h.2 s hs)).bind
  exact (Reader.reads_option fun a _ => Reader.reads_address _ a).map

theorem reads_encode {x : ExtraAccount} (h : x.Fits) : Reads ExtraAccount.reader x.encode x := by
  obtain ⟨source, flags⟩ := x
  rw [encode]
  cases source with
  | preconfiguredProgram =>
    exact Reader.reads_tagged rfl (reads_withFlags (Reads.pure _) flags)
  | preconfigured address =>
    cases address <;> exact Reader.reads_tagged rfl (reads_withFlags (Reads.pure _) flags)
  | customPda seeds program =>
    rw [encodeSource, List.append_assoc, List.append_assoc, ← List.append_assoc (Wire.list _ _)]
    exact Reader.reads_tagged rfl (reads_withFlags (reads_customPda h) flags)
  | address a =>
    rw [encodeSource, List.append_assoc]
    exact Reader.reads_tagged rfl (reads_withFlags ((Reader.reads_address _ a).map) flags)

end ExtraAccount

/-! ## Parts of adapters -/

theorem Schema.reads_encode (s : Schema) : Reads Schema.reader s.encode s := by
  have hselect : (Schema.ofTag? s.tag).map (Pure.pure : Schema → Reader Schema) = some (pure s) := by
    rw [Schema.ofTag?_tag, Option.map_some]
  exact Reader.reads_tagged_pure hselect

theorem LinkedDataKey.reads_encode (k : LinkedDataKey) : Reads LinkedDataKey.reader k.encode k := by
  cases k with
  | linkedLifecycleHook program =>
    exact Reader.reads_tagged rfl ((Reader.reads_address _ program).map)
  | linkedAppData authority =>
    exact Reader.reads_tagged rfl (authority.reads_encode.map)

/-- Every list of a hook has a length of 32 bits. -/
def Hook.Fits (h : Hook) : Prop :=
  ∀ list ∈ h.extraAccounts, list.length < 2 ^ 32 ∧ ∀ x ∈ list, x.Fits

theorem Hook.reads_encode (key : String) {h : Hook} (hfits : h.Fits) :
    Reads (Hook.reader key) h.encode h := by
  rw [encode, List.append_assoc, List.append_assoc]
  apply (Reader.reads_address key h.hookedProgram).bind
  apply Reads.bind (a := h.extraAccounts)
  · apply Reader.reads_option
    intro list hlist
    obtain ⟨hlength, hitems⟩ := hfits list hlist
    exact Reader.reads_list key hlength fun x hx => ExtraAccount.reads_encode (hitems x hx)
  · apply (Reader.reads_option fun a _ => Authority.reads_encode a).bind
    exact h.schema.reads_encode.map

theorem ResultsOffset.reads_encode (key : String) (o : ResultsOffset) :
    Reads (ResultsOffset.reader key) o.encode o := by
  apply Reads.ofPosition
  intro start
  cases o with
  | noOffset => exact (Reader.reads_u8 key 0).bind_nil (Reads.pure _)
  | anchor => exact (Reader.reads_u8 key 1).bind_nil (Reads.pure _)
  | custom offset => exact (Reader.reads_u8 key 2).bind ((Reader.reads_u64 key offset).map)

/-- Every list of an oracle has a length of 32 bits. -/
def Oracle.Fits (o : Oracle) : Prop := ∀ x ∈ o.baseAddressConfig, x.Fits

theorem Oracle.reads_encode (key : String) {o : Oracle} (h : o.Fits) :
    Reads (Oracle.reader key) o.encode o := by
  rw [encode, List.append_assoc]
  apply (Reader.reads_address key o.baseAddress).bind
  apply (Reader.reads_option fun x hx => ExtraAccount.reads_encode (h x hx)).bind
  exact (ResultsOffset.reads_encode key o.resultsOffset).map

theorem AppData.reads_encode (d : AppData) : Reads AppData.reader d.encode d :=
  d.dataAuthority.reads_encode.bind (d.schema.reads_encode.map)

theorem DataSection.reads_encode (s : DataSection) : Reads DataSection.reader s.encode s :=
  s.parentKey.reads_encode.bind (s.schema.reads_encode.map)

/-! ## Adapters -/

namespace Adapter

/-- Every list of an adapter has a length of 32 bits. -/
def Fits : Adapter → Prop
  | lifecycleHook h => h.Fits
  | oracle o => o.Fits
  | linkedLifecycleHook h => h.Fits
  | _ => True

theorem reads_encodeFields {a : Adapter} (h : a.Fits) : Reads (fields a.kind) a.encodeFields a := by
  cases a with
  | lifecycleHook hook => exact (Hook.reads_encode _ h).map
  | oracle o => exact (Oracle.reads_encode _ h).map
  | appData d => exact d.reads_encode.map
  | linkedLifecycleHook hook => exact (Hook.reads_encode _ h).map
  | linkedAppData d => exact d.reads_encode.map
  | dataSection s => exact s.reads_encode.map

/-- An adapter is read from its written form. -/
theorem reads_encode {a : Adapter} (h : a.Fits) : Reads Adapter.reader a.encode a := by
  apply Reader.reads_tagged (r := fields a.kind)
  · rw [AdapterKind.ofTag?_tag, Option.map_some]
  · exact reads_encodeFields h

/-- A written adapter has at least its tag. -/
theorem length_encode_pos (a : Adapter) : 0 < a.encode.length := by
  rw [encode, Wire.u8, List.length_append, List.length_singleton]
  omega

end Adapter

end DigitalAsset
