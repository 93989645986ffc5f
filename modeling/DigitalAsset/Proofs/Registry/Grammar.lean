import DigitalAsset.Account.Draft
import DigitalAsset.Proofs.Codec.Payloads

/-!
# The grammar of a registry

A written registry is its marker, the list of plugin entries and the list of adapter entries.  An
entry is of a known kind, or its tag begins with a byte that no kind has and is as wide as the
settings say.  Whatever entries are mixed, reading gives exactly the records of the known ones, each
in its place (`Registry.read_written`): stepping over an unknown tag keeps the next entry aligned.
-/

namespace DigitalAsset

/-! ## Written tags -/

/-- The tag of a written entry: the byte of a known kind, or a first byte that no kind has and the
bytes that a later version puts after it. -/
inductive WrittenTag (κ : Type) where
  | known (kind : κ)
  | unknown (first : UInt8) (rest : Bytes)

namespace WrittenTag

/-- The kind that a written tag stands for. -/
def kind? : WrittenTag κ → Option κ
  | known kind => some kind
  | unknown _ _ => none

/-- The bytes of a written tag, `tag` being the byte of a known kind. -/
def encode (tag : κ → UInt8) : WrittenTag κ → Bytes
  | known kind => Wire.u8 (tag kind)
  | unknown first rest => Wire.u8 first ++ rest

/-- An unknown tag begins with a byte from `limit` on and has the width that the settings give, which
is at least one byte. -/
def Valid (settings : Settings) (limit : Nat) : WrittenTag κ → Prop
  | known _ => True
  | unknown first rest =>
    limit ≤ first.toNat ∧ rest.length + 1 = max 1 settings.unknownTagWidth

end WrittenTag

theorem PluginKind.ofTag?_eq_none {tag : UInt8} (h : 15 ≤ tag.toNat) : ofTag? tag = none :=
  List.getElem?_eq_none h

theorem AdapterKind.ofTag?_eq_none {tag : UInt8} (h : 6 ≤ tag.toNat) : ofTag? tag = none :=
  List.getElem?_eq_none h

namespace Entry

theorem record?_map (f : α → β) (e : Entry α) : (e.map f).record? = e.record?.map f := by
  cases e <;> rfl

/-- A tag is read in full, and a known one as its kind. -/
theorem yields_tagReader {settings : Settings} {tag : κ → UInt8} {ofTag? : UInt8 → Option κ}
    {limit : Nat} (hknown : ∀ k, ofTag? (tag k) = some k)
    (hunknown : ∀ b : UInt8, limit ≤ b.toNat → ofTag? b = none) {t : WrittenTag κ}
    (h : t.Valid settings limit) :
    Yields (tagReader settings ofTag?) (t.encode tag) (fun e => e.record? = t.kind?) := by
  apply Yields.ofPosition
  intro start
  cases t with
  | known kind =>
    have hread := Reader.reads_u8 tagName (tag kind)
    refine Reads.yields (a := known kind) (hread.bind_nil ?_) rfl
    simp only [hknown]
    exact Reads.pure _
  | unknown first rest =>
    obtain ⟨hfirst, hwidth⟩ := h
    have hskip : rest.length = settings.unknownTagWidth - 1 := by omega
    have hread := Reader.reads_u8 tagName first
    refine Reads.yields (a := unknown first start) (hread.bind ?_) rfl
    simp only [hunknown first hfirst]
    exact (Reader.reads_skip tagName hskip).bind_nil (Reads.pure _)

end Entry

/-! ## Written entries -/

/-- A plugin entry as it is written. -/
structure WrittenPlugin where
  tag : WrittenTag PluginKind
  authority : Authority
  offset : UInt64

namespace WrittenPlugin

/-- The bytes of a plugin entry. -/
def encode (e : WrittenPlugin) : Bytes :=
  e.tag.encode PluginKind.tag ++ e.authority.encode ++ Wire.u64 e.offset

/-- The record that a plugin entry stands for, if its kind is known. -/
def record? (e : WrittenPlugin) : Option PluginRecord :=
  e.tag.kind?.map fun kind => ⟨kind, e.authority, e.offset⟩

/-- An entry of an unknown kind has a tag from 15 on, of the right width. -/
def Valid (settings : Settings) (e : WrittenPlugin) : Prop := e.tag.Valid settings 15

theorem yields_entryReader {settings : Settings} {e : WrittenPlugin} (h : e.Valid settings) :
    Yields (PluginRecord.entryReader settings) e.encode (fun r => r.record? = e.record?) := by
  rw [encode, List.append_assoc]
  apply (Entry.yields_tagReader PluginKind.ofTag?_tag (fun _ => PluginKind.ofTag?_eq_none) h).bind
  intro tag htag
  apply e.authority.reads_encode.bind_yields
  apply ((Reader.reads_u64 _ e.offset).yields rfl).map
  rintro offset rfl
  rw [Entry.record?_map, htag, record?]

end WrittenPlugin

/-- The checks that a list of events and flags stands for: of an event listed twice the last flags
hold. -/
def Checks.lastFlags (list : List (Event × UInt32)) : Checks :=
  ⟨fun event => (list.reverse.find? (·.1 = event)).map fun check => ⟨check.2⟩⟩

/-- An adapter entry as it is written. -/
structure WrittenAdapter where
  tag : WrittenTag AdapterKind
  authority : Authority
  checks : Option (List (Event × UInt32))
  offset : UInt64
  dataOffset : Option UInt64
  dataLength : Option UInt64

namespace WrittenAdapter

/-- The bytes of an adapter entry. -/
def encode (e : WrittenAdapter) : Bytes :=
  e.tag.encode AdapterKind.tag ++ e.authority.encode ++
    Wire.option (Wire.list AdapterDraft.encodeCheck) e.checks ++ Wire.u64 e.offset ++
    Wire.option Wire.u64 e.dataOffset ++ Wire.option Wire.u64 e.dataLength

/-- The record that an adapter entry stands for, if its kind is known. -/
def record? (e : WrittenAdapter) : Option AdapterRecord :=
  e.tag.kind?.map fun kind =>
    ⟨kind, e.authority, e.checks.map Checks.lastFlags, e.offset, e.dataOffset, e.dataLength⟩

/-- An entry of an unknown kind has a tag from 6 on, of the right width; a list of checks has a
length of 32 bits. -/
structure Valid (settings : Settings) (e : WrittenAdapter) : Prop where
  tag : e.tag.Valid settings 6
  checks : ∀ list ∈ e.checks, list.length < 2 ^ 32

end WrittenAdapter

/-! ## Lifecycle checks -/

theorem Checks.get?_foldl_insert (entries : List (Event × CheckResult)) (checks : Checks) (e : Event) :
    (entries.foldl (fun checks (event, result) => checks.insert event result) checks).get? e =
      ((entries.reverse.find? (·.1 = e)).map (·.2)).or (checks.get? e) := by
  induction entries generalizing checks with
  | nil => rfl
  | cons entry rest ih =>
    rw [List.foldl_cons, ih, List.reverse_cons, List.find?_append, Checks.get?_insert]
    cases rest.reverse.find? (·.1 = e) with
    | some found => rfl
    | none =>
      by_cases h : entry.1 = e
      · simp [h]
      · simp [h, Ne.symm h]

/-- Checks that are built entry by entry hold the last flags of each event. -/
theorem Checks.ofList_eq_lastFlags (list : List (Event × UInt32)) :
    Checks.ofList (list.map fun check => (check.1, ⟨check.2⟩)) = Checks.lastFlags list := by
  ext1 e
  rw [Checks.ofList, Checks.get?_foldl_insert, ← List.map_reverse, List.find?_map]
  simp [Checks.lastFlags, Checks.empty, Function.comp_def]

namespace AdapterRecord

theorem reads_check (check : Event × UInt32) :
    Reads checkReader (AdapterDraft.encodeCheck check) (check.1, ⟨check.2⟩) := by
  have hselect : (Event.ofTag? check.1.tag).map (Pure.pure : Event → Reader Event) =
      some (pure check.1) := by
    rw [Event.ofTag?_tag, Option.map_some]
  exact (Reader.reads_tagged_pure hselect).bind (Reader.reads_u32 _ check.2).map

theorem reads_checks {list : List (Event × UInt32)} (h : list.length < 2 ^ 32) :
    Reads checksReader (Wire.list AdapterDraft.encodeCheck list) (Checks.lastFlags list) := by
  have hlist := Reader.reads_list_map "external_record.lifecycle_checks" h fun check _ =>
    reads_check check
  have hread := hlist.map (f := Checks.ofList)
  rwa [Checks.ofList_eq_lastFlags] at hread

end AdapterRecord

theorem WrittenAdapter.yields_entryReader {settings : Settings} {e : WrittenAdapter}
    (h : e.Valid settings) :
    Yields (AdapterRecord.entryReader settings) e.encode (fun r => r.record? = e.record?) := by
  simp only [encode, List.append_assoc]
  apply (Entry.yields_tagReader AdapterKind.ofTag?_tag (fun _ => AdapterKind.ofTag?_eq_none) h.tag).bind
  intro tag htag
  apply e.authority.reads_encode.bind_yields
  have hchecks : Reads (Reader.option "external_record.lifecycle_checks" AdapterRecord.checksReader)
      (Wire.option (Wire.list AdapterDraft.encodeCheck) e.checks) (e.checks.map Checks.lastFlags) :=
    Reader.reads_option_map fun list hlist => AdapterRecord.reads_checks (h.checks list hlist)
  apply hchecks.bind_yields
  apply (Reader.reads_u64 _ e.offset).bind_yields
  apply (Reader.reads_option fun n _ => Reader.reads_u64 _ n).bind_yields
  apply ((Reader.reads_option fun n _ => Reader.reads_u64 _ n).yields rfl).map
  rintro length rfl
  rw [Entry.record?_map, htag, record?]

/-! ## Written registries -/

theorem Marker.reads_tag (m : Marker) : Reads m.reader (Wire.u8 m.tag) () := by
  apply (Reader.reads_u8 "key" m.tag).bind_nil
  rw [if_pos rfl]
  exact Reads.pure ()

/-- Entries that are read as the records they stand for leave exactly the known records. -/
theorem Entry.filterMap_record? {record? : α → Option β} {written : List α} {read : List (Entry β)}
    (h : List.Forall₂ (fun w r => r.record? = record? w) written read) :
    read.filterMap Entry.record? = written.filterMap record? := by
  induction h with
  | nil => rfl
  | cons hhead _ ih => rw [List.filterMap_cons, List.filterMap_cons, hhead, ih]

namespace Registry

theorem yields_pluginEntries {settings : Settings} {plugins : List WrittenPlugin}
    (h : ∀ e ∈ plugins, e.Valid settings) (hlength : plugins.length < 2 ^ 32) :
    Yields (pluginEntries settings) (Wire.list WrittenPlugin.encode plugins)
      (fun read => read.filterMap Entry.record? = plugins.filterMap WrittenPlugin.record?) := by
  have hread := Reader.yields_list "registry" hlength fun e he =>
    WrittenPlugin.yields_entryReader (h e he)
  exact hread.imp fun _ => Entry.filterMap_record?

/-- Adapter entries that can all be read are read like any list. -/
theorem adapterEntries_of_list {settings : Settings} {data : Bytes} {pos next : Nat}
    {entries : List (Entry AdapterRecord)} (hleft : Reader.remaining data pos ≠ 0)
    (h : Reader.list "external_registry" (AdapterRecord.entryReader settings) data pos =
      ⟨.ok entries, next⟩) :
    adapterEntries settings data pos = ⟨.ok entries, next⟩ := by
  obtain ⟨count, mid, hcount, hentries⟩ := Reader.exists_of_bind_eq_ok h
  rw [adapterEntries, if_neg hleft, Reader.bind_of_ok hcount]
  exact Reader.upTo_of_repeated hentries

theorem yields_adapterEntries {settings : Settings} {adapters : List WrittenAdapter}
    (h : ∀ e ∈ adapters, e.Valid settings) (hlength : adapters.length < 2 ^ 32) :
    Yields (adapterEntries settings) (Wire.list WrittenAdapter.encode adapters)
      (fun read => read.filterMap Entry.record? = adapters.filterMap WrittenAdapter.record?) := by
  have hlist := Reader.yields_list "external_registry" hlength fun e he =>
    WrittenAdapter.yields_entryReader (h e he)
  intro front back
  obtain ⟨read, hread, hrecords⟩ := hlist front back
  refine ⟨read, adapterEntries_of_list ?_ hread, Entry.filterMap_record? hrecords⟩
  -- The count alone keeps the buffer from ending here.
  rw [Reader.remaining, Wire.list, List.length_append, List.length_append, List.length_append,
    Wire.length_count]
  omega

/-- A registry without a list of adapters. -/
def encodePlugins (plugins : List WrittenPlugin) : Bytes :=
  Wire.u8 Marker.pluginRegistry.tag ++ Wire.list WrittenPlugin.encode plugins

/-- After the plugins the adapters are read, however their list ends. -/
theorem reader_of_adapterEntries {settings : Settings} {plugins : List WrittenPlugin}
    (h : ∀ e ∈ plugins, e.Valid settings) (hlength : plugins.length < 2 ^ 32) (front rest : Bytes)
    {adapters : List (Entry AdapterRecord)} {next : Nat}
    (hadapters : adapterEntries settings (front ++ (encodePlugins plugins ++ rest))
      (front.length + (encodePlugins plugins).length) = ⟨.ok adapters, next⟩) :
    reader settings (front ++ (encodePlugins plugins ++ rest)) front.length =
      ⟨.ok ⟨plugins.filterMap WrittenPlugin.record?, adapters.filterMap Entry.record?⟩, next⟩ := by
  have hboth : Yields (do Marker.reader .pluginRegistry; pluginEntries settings)
      (encodePlugins plugins)
      (fun read => read.filterMap Entry.record? = plugins.filterMap WrittenPlugin.record?) :=
    (Marker.reads_tag .pluginRegistry).bind_yields (yields_pluginEntries h hlength)
  obtain ⟨read, hread, hrecords⟩ := hboth front rest
  obtain ⟨_, mid, hmarker, hplugins⟩ := Reader.exists_of_bind_eq_ok hread
  rw [reader, Reader.bind_of_ok hmarker, Reader.bind_of_ok hplugins, Reader.bind_of_ok hadapters,
    hrecords]
  rfl

/-- A registry with a list of adapters is read as the known records of both lists. -/
theorem reads_lists {settings : Settings} {plugins : List WrittenPlugin}
    {adapters : List WrittenAdapter} (hplugins : ∀ e ∈ plugins, e.Valid settings)
    (hadapters : ∀ e ∈ adapters, e.Valid settings) (hp : plugins.length < 2 ^ 32)
    (ha : adapters.length < 2 ^ 32) :
    Reads (reader settings)
      (encodePlugins plugins ++ Wire.list WrittenAdapter.encode adapters)
      ⟨plugins.filterMap WrittenPlugin.record?, adapters.filterMap WrittenAdapter.record?⟩ := by
  intro front back
  obtain ⟨read, hread, hrecords⟩ :=
    yields_adapterEntries hadapters ha (front ++ encodePlugins plugins) back
  simp only [List.append_assoc, List.length_append] at hread
  rw [List.append_assoc, reader_of_adapterEntries hplugins hp front _ hread, hrecords,
    List.length_append, Nat.add_assoc]

/-- A registry that ends with the buffer after its plugins has no adapters. -/
theorem reader_encodePlugins {settings : Settings} {plugins : List WrittenPlugin}
    (h : ∀ e ∈ plugins, e.Valid settings) (hlength : plugins.length < 2 ^ 32) (front : Bytes) :
    reader settings (front ++ encodePlugins plugins) front.length =
      ⟨.ok ⟨plugins.filterMap WrittenPlugin.record?, []⟩,
        front.length + (encodePlugins plugins).length⟩ := by
  have hend : adapterEntries settings (front ++ (encodePlugins plugins ++ []))
      (front.length + (encodePlugins plugins).length) =
      ⟨.ok [], front.length + (encodePlugins plugins).length⟩ := by
    rw [adapterEntries, if_pos (by simp [Reader.remaining])]
  simpa using reader_of_adapterEntries h hlength front [] hend

/-- **Reading a written registry.**  Between any bytes before and after it, a registry is read as
exactly the records of its known entries, in order and each with its own fields, whichever entries of
unknown kinds stand among them and however wide their tags are.  Without a list of adapters, the
buffer ending after the plugins, there are no adapter records. -/
theorem read_written (settings : Settings) (plugins : List WrittenPlugin)
    (adapters : List WrittenAdapter) (hplugins : ∀ e ∈ plugins, e.Valid settings)
    (hadapters : ∀ e ∈ adapters, e.Valid settings) (hp : plugins.length < 2 ^ 32)
    (ha : adapters.length < 2 ^ 32) (front back : Bytes) :
    (reader settings).value
        (front ++ ([4] ++ Wire.count plugins.length ++ plugins.flatMap WrittenPlugin.encode ++
          Wire.count adapters.length ++ adapters.flatMap WrittenAdapter.encode ++ back))
        front.length =
      .ok ⟨plugins.filterMap WrittenPlugin.record?, adapters.filterMap WrittenAdapter.record?⟩ ∧
    (reader settings).value
        (front ++ ([4] ++ Wire.count plugins.length ++ plugins.flatMap WrittenPlugin.encode))
        front.length =
      .ok ⟨plugins.filterMap WrittenPlugin.record?, []⟩ := by
  constructor
  · have hread := (reads_lists hplugins hadapters hp ha).value front back
    simpa only [encodePlugins, Wire.list, Wire.u8, Marker.tag, List.append_assoc] using hread
  · have hread := reader_encodePlugins hplugins hp front
    simp only [encodePlugins, Wire.list, Wire.u8, Marker.tag, ← List.append_assoc] at hread
    simp only [Reader.value, ← List.append_assoc, hread]

/-- Plugin entries with an unknown one, two bytes wide, between two known ones. -/
def mixedPlugins : List WrittenPlugin :=
  [⟨.known .royalties, .updateAuthority, 40⟩, ⟨.unknown 200 [1], .address default, 60⟩,
    ⟨.known .edition, .none, 70⟩]

/-- Adapter entries with an unknown one, which has checks and data, before a known one. -/
def mixedAdapters : List WrittenAdapter :=
  [⟨.unknown 6 [255], .owner, some [(.update, 7)], 80, some 90, some 4⟩,
    ⟨.known .oracle, .owner, some [(.create, 1), (.burn, 4), (.create, 2)], 94, none, some 3⟩]

/-- Settings with two bytes for an unknown tag. -/
def wideTags : Settings := { unknownTagWidth := 2 }

/-- The mixed entries with a byte before and a byte after them. -/
theorem read_written_mixed :
    (reader wideTags).value
        ([7] ++ ([4] ++ Wire.count 3 ++ mixedPlugins.flatMap WrittenPlugin.encode ++
          Wire.count 2 ++ mixedAdapters.flatMap WrittenAdapter.encode ++ [9]))
        1 =
      .ok
        ⟨[⟨.royalties, .updateAuthority, 40⟩, ⟨.edition, .none, 70⟩],
          [⟨.oracle, .owner, some (.lastFlags [(.create, 1), (.burn, 4), (.create, 2)]), 94, none,
            some 3⟩]⟩ ∧
    (reader wideTags).value
        ([7] ++ ([4] ++ Wire.count 3 ++ mixedPlugins.flatMap WrittenPlugin.encode)) 1 =
      .ok ⟨[⟨.royalties, .updateAuthority, 40⟩, ⟨.edition, .none, 70⟩], []⟩ :=
  read_written wideTags mixedPlugins mixedAdapters
    (by simp [mixedPlugins, WrittenPlugin.Valid, WrittenTag.Valid, wideTags])
    (by
      intro e he
      rcases List.mem_pair.mp he with rfl | rfl
      · exact ⟨⟨by decide, rfl⟩, by simp⟩
      · exact ⟨trivial, by simp⟩)
    (by decide) (by decide) [7] [9]

end Registry

end DigitalAsset
