import DigitalAsset.Proofs.Account.Placement
import DigitalAsset.Proofs.Codec.Payloads
import DigitalAsset.Proofs.Registry.Grammar
import Mathlib.Data.List.Induction

/-!
# What a draft describes

`Draft.extension` says in terms of the draft alone what an account written from it carries: a header
if the draft lists anything, in each slot the last plugin of its kind, and the adapters kind by kind
with their data.  The offsets are those at which the payloads stand if they follow the header one
after the other.

`Draft.Fits` is what a draft needs to have a written form: lengths of 32 bits, and tags of unknown
entries that no kind has.
-/

namespace DigitalAsset

/-! ## Drafts that can be written -/

/-- A plugin whose lengths have 32 bits, or an unknown tag that no plugin has. -/
def PluginDraft.Fits : PluginDraft → Prop
  | known _ plugin => plugin.Fits
  | unknown tag _ => 15 ≤ tag.toNat

/-- An adapter whose lengths have 32 bits, the number of its checks included. -/
structure AdapterDraft.Fits (a : AdapterDraft) : Prop where
  adapter : a.adapter.Fits
  checks : ∀ list ∈ a.checks, list.length < 2 ^ 32

/-- A draft whose entries can be written, and no more of either list than a count of 32 bits can
say. -/
structure Draft.Fits (d : Draft) : Prop where
  plugins : ∀ p ∈ d.plugins, p.Fits
  adapters : ∀ a ∈ d.adapters, a.Fits
  unknownAdapters : ∀ u ∈ d.unknownAdapters, 6 ≤ u.tag.toNat
  pluginCount : d.plugins.length < 2 ^ 32
  adapterCount : d.adapters.length + d.unknownAdapters.length < 2 ^ 32

/-- The texts of an asset's base record have lengths of 32 bits. -/
def AssetBase.Fits (b : AssetBase) : Prop :=
  b.name.utf8ByteSize < 2 ^ 32 ∧ b.uri.utf8ByteSize < 2 ^ 32

/-- The texts of a collection's base record have lengths of 32 bits. -/
def CollectionBase.Fits (b : CollectionBase) : Prop :=
  b.name.utf8ByteSize < 2 ^ 32 ∧ b.uri.utf8ByteSize < 2 ^ 32

/-! ## Tables by kind -/

namespace AdapterTable

/-- The entries whose payload is picked, with what is picked as their payload. -/
def select (pick : Adapter → Option α) (entries : List (AttachedAdapter Adapter)) :
    List (AttachedAdapter α) :=
  entries.filterMap fun entry => (pick entry.payload).map entry.withPayload

/-- The table in which the entries of each kind stand in their order. -/
def ofEntries (entries : List (AttachedAdapter Adapter)) : AdapterTable :=
  { lifecycleHooks := select (fun | .lifecycleHook hook => some hook | _ => none) entries
    oracles := select (fun | .oracle oracle => some oracle | _ => none) entries
    appDatas := select (fun | .appData data => some data | _ => none) entries
    linkedLifecycleHooks :=
      select (fun | .linkedLifecycleHook hook => some hook | _ => none) entries
    linkedAppDatas := select (fun | .linkedAppData data => some data | _ => none) entries
    dataSections := select (fun | .dataSection entry => some entry | _ => none) entries }

theorem select_concat (pick : Adapter → Option α) (entries : List (AttachedAdapter Adapter))
    (entry : AttachedAdapter Adapter) :
    select pick (entries ++ [entry]) =
      select pick entries ++ ((pick entry.payload).map entry.withPayload).toList := by
  rw [select, List.filterMap_append, ← select]
  cases hpick : pick entry.payload <;> simp [hpick]

theorem ofEntries_concat (entries : List (AttachedAdapter Adapter))
    (entry : AttachedAdapter Adapter) :
    ofEntries (entries ++ [entry]) = (ofEntries entries).push entry := by
  obtain ⟨authority, offset, checks, dataOffset, dataLength, data, payload⟩ := entry
  cases payload <;> simp [ofEntries, select_concat, push]

/-- Pushing entries one by one fills the table kind by kind. -/
theorem foldl_push (entries : List (AttachedAdapter Adapter)) :
    entries.foldl push empty = ofEntries entries := by
  induction entries using List.reverseRecOn with
  | nil => rfl
  | append_singleton rest entry ih =>
    rw [List.foldl_append, ih, ofEntries_concat]
    rfl

end AdapterTable

/-! ## What an entry describes -/

/-- The plugin that an entry puts into the slot of a kind, if it is of that kind. -/
def PluginDraft.attached? (kind : PluginKind) (offset : Nat) :
    PluginDraft → Option (AttachedPlugin kind)
  | known authority plugin =>
    if h : plugin.kind = kind then some ⟨authority, .ofNat offset, plugin, h⟩ else none
  | unknown .. => none

/-- The data that bytes hold under a schema; what should be JSON and is not stays raw bytes. -/
def AdapterData.ofBytes (schema : Schema) (bytes : Bytes) : Option AdapterData :=
  match schema with
  | .binary => some (.binary bytes)
  | .msgPack => some (.binary bytes)
  | .json =>
    if bytes = [] then none
    else
      match Json.ofBytes bytes with
      | .ok value => some (.json value)
      | .error _ => some (.binary bytes)

namespace AdapterDraft

/-- Where the data of an adapter stands whose payload stands at `offset`: right after it. -/
def dataOffset? (offset : Nat) (a : AdapterDraft) : Option UInt64 :=
  a.data.map fun _ => .ofNat (offset + a.adapter.encode.length)

/-- The number of bytes of an adapter's data. -/
def dataLength? (a : AdapterDraft) : Option UInt64 := a.data.map fun bytes => .ofNat bytes.length

/-- The adapter of an entry whose payload stands at `offset`. -/
def attached (offset : Nat) (a : AdapterDraft) : AttachedAdapter Adapter :=
  { authority := a.authority
    offset := .ofNat offset
    checks := a.checks.map Checks.lastFlags
    dataOffset := a.dataOffset? offset
    dataLength := a.dataLength?
    data := a.data.bind (AdapterData.ofBytes (a.adapter.schema?.getD .binary))
    payload := a.adapter }

end AdapterDraft

/-! ## What a draft describes -/

namespace Draft

/-- The plugins with the offsets of their payloads, the first of which stands at `start`. -/
def placedPlugins (d : Draft) (start : Nat) : List (Nat × PluginDraft) :=
  placed PluginDraft.payload start d.plugins

/-- The payloads of the plugins. -/
def pluginPayloads (d : Draft) : Bytes := d.plugins.flatMap PluginDraft.payload

/-- The adapters that are written at all, with the offsets of their payloads after those of the
plugins. -/
def placedAdapters (d : Draft) (start : Nat) : List (Nat × AdapterDraft) :=
  if d.externalSection then
    placed AdapterDraft.payload (start + d.pluginPayloads.length) d.adapters
  else []

/-- The payloads of the adapters that are written, the unknown ones last. -/
def adapterPayloads (d : Draft) : Bytes :=
  if d.externalSection then
    d.adapters.flatMap AdapterDraft.payload ++ d.unknownAdapters.flatMap UnknownAdapterDraft.payload
  else []

/-- The position of the registry if the payloads begin at `start`. -/
def registryStart (d : Draft) (start : Nat) : Nat :=
  start + (d.pluginPayloads.length + d.adapterPayloads.length)

/-- The header that points to the registry. -/
def header (d : Draft) (start : Nat) : PluginHeader := ⟨.ofNat (d.registryStart start)⟩

/-- The slots: each holds the last plugin of its kind. -/
def slots (d : Draft) (start : Nat) : PluginSlots :=
  ⟨fun kind => (d.placedPlugins start).reverse.findSome? fun x => x.2.attached? kind x.1⟩

/-- The adapters kind by kind. -/
def table (d : Draft) (start : Nat) : AdapterTable :=
  .ofEntries ((d.placedAdapters start).map fun x => x.2.attached x.1)

/-- What an account with a base record of the given length carries after it. -/
def extension (d : Draft) (baseLength : Nat) : Extension :=
  let start := baseLength + PluginHeader.width
  { header := if d.isEmpty then none else some (d.header start)
    plugins := d.slots start
    adapters := d.table start }

/-- A draft that lists nothing describes an account that ends with its base record. -/
theorem extension_of_isEmpty {d : Draft} (h : d.isEmpty = true) (baseLength : Nat) :
    d.extension baseLength = .empty := by
  have hlists : (d.plugins = [] ∧ d.adapters = []) ∧ d.unknownAdapters = [] := by
    simpa [isEmpty] using h
  obtain ⟨⟨hplugins, hadapters⟩, _⟩ := hlists
  have hplaced (start : Nat) : d.placedAdapters start = [] := by
    rw [placedAdapters, hadapters, placed, ite_self]
  simp only [extension, h, if_pos, slots, table, placedPlugins, hplugins, hplaced, placed]
  rfl

end Draft

end DigitalAsset
