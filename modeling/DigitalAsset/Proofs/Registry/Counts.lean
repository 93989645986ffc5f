import DigitalAsset.Proofs.Codec.Progress

/-!
# Declared counts

A registry counts its entries in 32 bits, and nothing keeps a count from being larger than the whole
buffer.  `Registry.countLaw` proves that such a count does no harm: an entry takes bytes, so the
entries that are read fit into the buffer, and at the first one that cannot be read the reading
ends.

`Reader.starts` lists the positions at which items are looked for.  That nothing else is looked at
means that the answer stays the same if the items are read by other readers, as long as these agree at
the listed positions (`Registry.readerWith`).
-/

namespace DigitalAsset

/-! ## The positions of items -/

namespace Reader

/-- The positions at which items in a row are looked for, up to the first that cannot be read. -/
def starts (item : Reader α) (data : Bytes) : (count pos : Nat) → List Nat
  | 0, _ => []
  | count + 1, pos =>
    pos ::
      match item data pos with
      | ⟨.ok _, next⟩ => starts item data count next
      | ⟨.error _, _⟩ => []

/-- At these positions the items were read one by one. -/
def ReadAt (item : Reader α) (data : Bytes) : (starts : List Nat) → (items : List α) → Prop :=
  List.Forall₂ fun pos a => item.value data pos = .ok a

/-- At these positions the items were read one by one, the last position apart, if no item was found
there. -/
def Visited (item : Reader α) (data : Bytes) (starts : List Nat) (items : List α) : Prop :=
  ∃ (read : List Nat) (failed : Option Nat), starts = read ++ failed.toList ∧
    item.ReadAt data read items ∧ ∀ pos ∈ failed, ∃ e, item.value data pos = .error e

section

variable {item other : Reader α} {data : Bytes}

theorem starts_of_ok {count pos next : Nat} {a : α} (h : item data pos = ⟨.ok a, next⟩) :
    starts item data (count + 1) pos = pos :: starts item data count next := by
  simp only [starts, h]

theorem starts_of_error {count pos next : Nat} {e : Error} (h : item data pos = ⟨.error e, next⟩) :
    starts item data (count + 1) pos = [pos] := by
  simp only [starts, h]

theorem Visited.nil : item.Visited data [] [] := ⟨[], none, rfl, .nil, by simp⟩

/-- Items that are all read are looked for where they stand. -/
theorem readAt_of_repeated {count pos next : Nat} {items : List α}
    (h : repeated item count data pos = ⟨.ok items, next⟩) :
    item.ReadAt data (starts item data count pos) items := by
  induction count generalizing pos items with
  | zero =>
    cases h
    exact .nil
  | succ count ih =>
    obtain ⟨a, mid, hitem, hrest⟩ := exists_of_bind_eq_ok h
    obtain ⟨rest, _, hrepeated, hdone⟩ := exists_of_bind_eq_ok hrest
    cases hdone
    rw [starts_of_ok hitem]
    exact .cons (value_eq_ok_iff.mpr ⟨mid, hitem⟩) (ih hrepeated)

/-- Reading up to a failure looks for no more than one item that is not there. -/
theorem visited_of_upTo {count pos next : Nat} {items : List α}
    (h : upTo item count data pos = ⟨.ok items, next⟩) :
    item.Visited data (starts item data count pos) items := by
  induction count generalizing pos items next with
  | zero =>
    cases h
    exact .nil
  | succ count ih =>
    rcases upTo_succ item count data pos with
      ⟨a, mid, rest, _, hitem, hrest, hstep⟩ | ⟨e, mid, hitem, hstep⟩
    · cases hstep.symm.trans h
      obtain ⟨read, failed, hstarts, hread, hfailed⟩ := ih hrest
      refine ⟨pos :: read, failed, ?_, .cons (value_eq_ok_iff.mpr ⟨mid, hitem⟩) hread, hfailed⟩
      rw [starts_of_ok hitem, hstarts, List.cons_append]
    · cases hstep.symm.trans h
      refine ⟨[], some pos, starts_of_error hitem, .nil, ?_⟩
      rintro _ ⟨⟩
      exact ⟨e, by rw [value, hitem]⟩

/-! ## Nothing else is looked at -/

theorem repeated_congr {count pos : Nat}
    (h : ∀ p ∈ starts item data count pos, other data p = item data p) :
    repeated other count data pos = repeated item count data pos := by
  induction count generalizing pos with
  | zero => rfl
  | succ count ih =>
    rw [repeated, repeated, bind_apply, bind_apply, h pos List.mem_cons_self]
    rcases hitem : item data pos with ⟨e | a, next⟩
    · rfl
    · rw [starts_of_ok hitem] at h
      simp only [bind_apply, ih fun p hp => h p (List.mem_cons_of_mem pos hp)]

theorem upTo_congr {count pos : Nat}
    (h : ∀ p ∈ starts item data count pos, other data p = item data p) :
    upTo other count data pos = upTo item count data pos := by
  induction count generalizing pos with
  | zero => rfl
  | succ count ih =>
    simp only [upTo, h pos List.mem_cons_self]
    rcases hitem : item data pos with ⟨e | a, next⟩
    · rfl
    · rw [starts_of_ok hitem] at h
      simp only [ih fun p hp => h p (List.mem_cons_of_mem pos hp)]

end

end Reader

/-! ## The entries of a registry -/

namespace Registry

/-- The reader of the adapter entries, with any reader for each of them. -/
def adapterEntriesWith (adapter : Reader (Entry AdapterRecord)) :
    Reader (List (Entry AdapterRecord)) :=
  fun data pos =>
    if Reader.remaining data pos = 0 then ⟨.ok [], pos⟩
    else
      (do
        let count ← Reader.u32 "external_registry"
        Reader.upTo adapter count.toNat) data pos

/-- The reader of a registry, with any readers for its entries; with the readers of entries it is
`Registry.reader`. -/
def readerWith (plugin : Reader (Entry PluginRecord)) (adapter : Reader (Entry AdapterRecord)) :
    Reader Registry := do
  Marker.reader .pluginRegistry
  let plugins ← Reader.list "registry" plugin
  let adapters ← adapterEntriesWith adapter
  return ⟨plugins.filterMap Entry.record?, adapters.filterMap Entry.record?⟩

/-- The positions at which the registry at `start` is searched for plugin entries: none if its count
cannot be read. -/
def pluginStarts (settings : Settings) (data : Bytes) (start : Nat) : List Nat :=
  match (do Marker.reader .pluginRegistry; Reader.u32 "registry") data start with
  | ⟨.ok count, first⟩ => Reader.starts (PluginRecord.entryReader settings) data count.toNat first
  | ⟨.error _, _⟩ => []

/-- The positions at which the registry at `start` is searched for adapter entries: none if the plugin
entries or the count cannot be read, or the buffer ends before the count. -/
def adapterStarts (settings : Settings) (data : Bytes) (start : Nat) : List Nat :=
  match (do Marker.reader .pluginRegistry; pluginEntries settings) data start with
  | ⟨.ok _, listEnd⟩ =>
    if Reader.remaining data listEnd = 0 then []
    else
      match Reader.u32 "external_registry" data listEnd with
      | ⟨.ok count, first⟩ =>
        Reader.starts (AdapterRecord.entryReader settings) data count.toNat first
      | ⟨.error _, _⟩ => []
  | ⟨.error _, _⟩ => []

section

variable {settings : Settings} {data : Bytes} {start : Nat}

/-- The entries at the listed positions decide what is read. -/
theorem readerWith_congr {plugin : Reader (Entry PluginRecord)}
    {adapter : Reader (Entry AdapterRecord)}
    (hplugin : ∀ pos ∈ pluginStarts settings data start,
      plugin data pos = PluginRecord.entryReader settings data pos)
    (hadapter : ∀ pos ∈ adapterStarts settings data start,
      adapter data pos = AdapterRecord.entryReader settings data pos) :
    readerWith plugin adapter data start = reader settings data start := by
  rw [readerWith, reader, Reader.bind_apply, Reader.bind_apply]
  rcases hmarker : Marker.reader .pluginRegistry data start with ⟨e | _, behind⟩
  · rfl
  have hlist : Reader.list "registry" plugin data behind = pluginEntries settings data behind := by
    rw [pluginEntries, Reader.list, Reader.list, Reader.bind_apply, Reader.bind_apply]
    rcases hcount : Reader.u32 "registry" data behind with ⟨e | count, first⟩
    · rfl
    · rw [pluginStarts, Reader.bind_of_ok hmarker, hcount] at hplugin
      exact Reader.repeated_congr hplugin
  dsimp only
  rw [Reader.bind_apply, Reader.bind_apply, hlist]
  rcases hplugins : pluginEntries settings data behind with ⟨e | plugins, listEnd⟩
  · rfl
  rw [adapterStarts, Reader.bind_of_ok hmarker, hplugins] at hadapter
  have hadapters : adapterEntriesWith adapter data listEnd = adapterEntries settings data listEnd := by
    rw [adapterEntriesWith, adapterEntries]
    split_ifs with hend
    · rfl
    · rw [Reader.bind_apply, Reader.bind_apply]
      rcases hcount : Reader.u32 "external_registry" data listEnd with ⟨e | count, first⟩
      · rfl
      · simp only [if_neg hend, hcount] at hadapter
        exact Reader.upTo_congr hadapter
  dsimp only
  rw [Reader.bind_apply, Reader.bind_apply, hadapters]

/-! ## What the entries take -/

/-- However the reading of the plugin entries ends, those that were read fit into the buffer. -/
theorem exists_visited_plugins (settings : Settings) (data : Bytes) (start : Nat) :
    ∃ entries, (PluginRecord.entryReader settings).Visited data (pluginStarts settings data start)
        entries ∧
      (entries ≠ [] → start + (5 + 10 * entries.length) ≤ data.length) := by
  rw [pluginStarts]
  split
  · rename_i count first hboth
    obtain ⟨_, behind, hmarker, hcount⟩ := Reader.exists_of_bind_eq_ok hboth
    obtain ⟨hbehind, hbehindLength⟩ :=
      (Marker.takesAtLeast_reader _).add_le ((Marker.inside_reader _).le_length hmarker) hmarker
    obtain ⟨hfirst, hfirstLength⟩ := (Reader.takesAtLeast_u32 _).add_le hbehindLength hcount
    obtain ⟨entries, next, hentries⟩ :=
      Reader.exists_upTo (PluginRecord.entryReader settings) count.toNat data first
    obtain ⟨hnext, hlength⟩ :=
      Reader.add_le_of_upTo (PluginRecord.takesAtLeast_entryReader settings) hfirstLength hentries
    exact ⟨entries, Reader.visited_of_upTo hentries, fun _ => by omega⟩
  · exact ⟨[], .nil, fun hne => absurd rfl hne⟩

/-- The adapter entries that were read fit behind the plugin entries. -/
theorem visited_of_adapterEntries {plugins : List (Entry PluginRecord)}
    {adapters : List (Entry AdapterRecord)} {listEnd next : Nat}
    (hplugins : (do Marker.reader .pluginRegistry; pluginEntries settings) data start =
      ⟨.ok plugins, listEnd⟩)
    (hadapters : adapterEntries settings data listEnd = ⟨.ok adapters, next⟩) :
    (AdapterRecord.entryReader settings).Visited data (adapterStarts settings data start) adapters ∧
      (adapters ≠ [] → listEnd + (4 + 13 * adapters.length) ≤ data.length) := by
  rw [adapterEntries] at hadapters
  rw [adapterStarts, hplugins]
  dsimp only
  split_ifs at hadapters ⊢ with hend
  · cases hadapters
    exact ⟨.nil, fun hne => absurd rfl hne⟩
  · obtain ⟨count, first, hcount, hentries⟩ := Reader.exists_of_bind_eq_ok hadapters
    obtain ⟨hfirst, hfirstLength⟩ :=
      (Reader.takesAtLeast_u32 _).add_le ((Reader.inside_u32 _).le_length hcount) hcount
    obtain ⟨hnext, hlength⟩ :=
      Reader.add_le_of_upTo (AdapterRecord.takesAtLeast_entryReader settings) hfirstLength hentries
    rw [hcount]
    exact ⟨Reader.visited_of_upTo hentries, fun _ => by omega⟩

/-- A registry that cannot be read is not searched for adapters: their list never makes the reading
fail. -/
theorem adapterStarts_of_error {e : Error} (h : (reader settings).value data start = .error e) :
    adapterStarts settings data start = [] := by
  rw [adapterStarts]
  split
  · rename_i plugins listEnd hboth
    split_ifs with hend
    · rfl
    · split
      · rename_i count first hcount
        obtain ⟨_, behind, hmarker, hplugins⟩ := Reader.exists_of_bind_eq_ok hboth
        obtain ⟨adapters, next, hentries⟩ :=
          Reader.exists_upTo (AdapterRecord.entryReader settings) count.toNat data first
        have hadapters : adapterEntries settings data listEnd = ⟨.ok adapters, next⟩ := by
          rw [adapterEntries, if_neg hend, Reader.bind_of_ok hcount, hentries]
        rw [Reader.value, reader, Reader.bind_of_ok hmarker, Reader.bind_of_ok hplugins,
          Reader.bind_of_ok hadapters] at h
        cases h
      · rfl
  · rfl

end

/-- The entries that a registry was read from: what each of the searched positions holds, and that
all of them fit into the buffer. -/
structure ReadFrom (settings : Settings) (data : Bytes) (start : Nat) (registry : Registry)
    (plugins : List (Entry PluginRecord)) (adapters : List (Entry AdapterRecord)) : Prop where
  registry_eq : registry = ⟨plugins.filterMap Entry.record?, adapters.filterMap Entry.record?⟩
  plugins_read :
    (PluginRecord.entryReader settings).ReadAt data (pluginStarts settings data start) plugins
  adapters_visited :
    (AdapterRecord.entryReader settings).Visited data (adapterStarts settings data start) adapters
  plugins_fit : start + (5 + 10 * plugins.length) ≤ data.length
  adapters_fit : adapters ≠ [] →
    start + (9 + 10 * plugins.length + 13 * adapters.length) ≤ data.length

theorem exists_readFrom {settings : Settings} {data : Bytes} {start : Nat} {registry : Registry}
    (h : (reader settings).value data start = .ok registry) :
    ∃ plugins adapters, ReadFrom settings data start registry plugins adapters := by
  obtain ⟨_, hread⟩ := Reader.value_eq_ok_iff.mp h
  obtain ⟨_, behind, hmarker, hrest⟩ := Reader.exists_of_bind_eq_ok hread
  obtain ⟨plugins, listEnd, hplugins, hrest⟩ := Reader.exists_of_bind_eq_ok hrest
  obtain ⟨adapters, next, hadapters, hdone⟩ := Reader.exists_of_bind_eq_ok hrest
  cases hdone
  obtain ⟨hbehind, _⟩ :=
    (Marker.takesAtLeast_reader _).add_le ((Marker.inside_reader _).le_length hmarker) hmarker
  obtain ⟨hlistEnd, hlistLength⟩ :=
    Reader.add_le_of_list (PluginRecord.takesAtLeast_entryReader settings) hplugins
  have hboth : (do Marker.reader .pluginRegistry; pluginEntries settings) data start =
      ⟨.ok plugins, listEnd⟩ := by
    rw [Reader.bind_of_ok hmarker, hplugins]
  obtain ⟨hvisited, hfit⟩ := visited_of_adapterEntries hboth hadapters
  refine ⟨plugins, adapters, rfl, ?_, hvisited, by omega, fun hne => ?_⟩
  · obtain ⟨count, first, hcount, hitems⟩ := Reader.exists_of_bind_eq_ok hplugins
    rw [pluginStarts, Reader.bind_of_ok hmarker, hcount]
    exact Reader.readAt_of_repeated hitems
  · have hadapterEnd := hfit hne
    omega

/-! ## The law -/

/-- What counts can do to the reading of a buffer, whatever they declare. -/
structure CountLaw (settings : Settings) (data : Bytes) (start : Nat) : Prop where
  /-- The entry of a plugin ends at least ten bytes after its start, and inside the buffer. -/
  pluginEntry : ∀ pos entry,
    (Entry.readAt (PluginRecord.entryReader settings) data pos).result = .ok entry →
      pos + 10 ≤ (Entry.readAt (PluginRecord.entryReader settings) data pos).next ∧
        (Entry.readAt (PluginRecord.entryReader settings) data pos).next ≤ data.length
  /-- The entry of an adapter ends at least thirteen bytes after its start, and inside the buffer. -/
  adapterEntry : ∀ pos entry,
    (Entry.readAt (AdapterRecord.entryReader settings) data pos).result = .ok entry →
      pos + 13 ≤ (Entry.readAt (AdapterRecord.entryReader settings) data pos).next ∧
        (Entry.readAt (AdapterRecord.entryReader settings) data pos).next ≤ data.length
  /-- The entries of a registry that is read fit into the buffer, and behind them no more than one
  adapter entry is tried. -/
  read : ∀ registry, (reader settings).value data start = .ok registry →
    ∃ plugins adapters, ReadFrom settings data start registry plugins adapters
  /-- So do the entries of a registry that is not read, and behind them no more than one plugin entry
  is tried. -/
  failed : ∀ e, (reader settings).value data start = .error e →
    adapterStarts settings data start = [] ∧
      ∃ entries, (PluginRecord.entryReader settings).Visited data (pluginStarts settings data start)
          entries ∧
        (entries ≠ [] → start + (5 + 10 * entries.length) ≤ data.length)
  /-- No other entries are tried: what would be read elsewhere makes no difference. -/
  only : ∀ plugin adapter,
    (∀ pos ∈ pluginStarts settings data start,
      plugin data pos = PluginRecord.entryReader settings data pos) →
    (∀ pos ∈ adapterStarts settings data start,
      adapter data pos = AdapterRecord.entryReader settings data pos) →
    readerWith plugin adapter data start = reader settings data start
  /-- A list in a payload or record takes four bytes and at least one for each item. -/
  lists : ∀ {α : Type} {item : Reader α}, item.ListItem → ∀ what pos items next,
    Reader.list what item data pos = ⟨.ok items, next⟩ →
      pos + (4 + items.length) ≤ next ∧ next ≤ data.length
  /-- All the lists of a plugin fit together into the bytes of the plugin. -/
  pluginLists : ∀ pos plugin next, Plugin.reader data pos = ⟨.ok plugin, next⟩ →
    pos + listBytes plugin.listLengths ≤ next
  /-- All the lists of an adapter, those inside others included, fit together into the bytes of the
  adapter. -/
  adapterLists : ∀ pos adapter next, Adapter.reader data pos = ⟨.ok adapter, next⟩ →
    pos + listBytes adapter.listLengths ≤ next

/-- **Declared counts.**  Whatever the counts in a buffer declare, there are no more entries and items
than the bytes of the buffer have room for, and a registry is read without trying more than one entry
beyond those that are there. -/
theorem countLaw (settings : Settings) (data : Bytes) (start : Nat) :
    CountLaw settings data start where
  pluginEntry := by
    intro pos entry h
    have hread := Entry.read_of_readAt h
    exact (PluginRecord.takesAtLeast_entryReader settings).add_le
      ((PluginRecord.inside_entryReader settings).le_length hread) hread
  adapterEntry := by
    intro pos entry h
    have hread := Entry.read_of_readAt h
    exact (AdapterRecord.takesAtLeast_entryReader settings).add_le
      ((AdapterRecord.inside_entryReader settings).le_length hread) hread
  read := fun _ => exists_readFrom
  failed := fun _ h => ⟨adapterStarts_of_error h, exists_visited_plugins settings data start⟩
  only := fun _ _ => readerWith_congr
  lists := fun hitem _ _ _ _ => hitem.add_length_le
  pluginLists := fun _ _ _ hread => Plugin.exact_reader.listBytes_le_of_read
    Plugin.listBytes_le_encode (Reader.le_length_of_tagged hread) hread
  adapterLists := fun _ _ _ hread => Adapter.exact_reader.listBytes_le_of_read
    Adapter.listBytes_le_encode (Reader.le_length_of_tagged hread) hread

/-- A registry with a plugin entry of an unknown kind and one oracle, which declares 2 ^ 32 - 1
adapters. -/
def overcounted : Bytes :=
  [4] ++ Wire.count 1 ++ [200, 0] ++ Wire.u64 0 ++
    Wire.count (2 ^ 32 - 1) ++ [1, 1, 0] ++ Wire.u64 0 ++ [0, 0] ++ [9]

/-- Of the declared adapters two are tried, at 19 and at 32. -/
theorem countLaw_overcounted :
    (reader {}).value overcounted 0 = .ok ⟨[], [⟨.oracle, .owner, none, 0, none, none⟩]⟩ ∧
      pluginStarts {} overcounted 0 = [5] ∧ adapterStarts {} overcounted 0 = [19, 32] ∧
      ∃ plugins adapters, ReadFrom {} overcounted 0
        ⟨[], [⟨.oracle, .owner, none, 0, none, none⟩]⟩ plugins adapters := by
  have hread : (reader {}).value overcounted 0 =
      .ok ⟨[], [⟨.oracle, .owner, none, 0, none, none⟩]⟩ := by
    decide +kernel
  exact ⟨hread, by decide +kernel, by decide +kernel, (countLaw {} overcounted 0).read _ hread⟩

end Registry

end DigitalAsset
