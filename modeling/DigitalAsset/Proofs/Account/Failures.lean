import DigitalAsset.Proofs.Codec.Locality
import DigitalAsset.Proofs.Registry.Materialization

/-!
# Why an account is not read

`Account.failsOnly_decode` says with which errors the reading of an account can fail.  A value cannot
be read, or a structure begins with another byte than its marker, or two plugins are of one kind and
the settings refuse this.

An unknown registry entry is no error for the readers: its tag makes an `Entry.unknown`, which the
registry drops.  So the reason is always found in the readers themselves, and for these it is enough
to look at what they are composed of.
-/

namespace DigitalAsset

open Traversal

/-! ## Errors -/

namespace Error

/-- A value cannot be read. -/
inductive IsDecode : Error → Prop
  | decode (what : String) (offset : Nat) (reason : Reason) : IsDecode (.decode what offset reason)

/-- The errors of reading an account that begins with the marker `own`. -/
inductive OfAccount (policy : DuplicatePolicy) (own : Marker) : Error → Prop
  /-- A value cannot be read. -/
  | decode (what : String) (offset : Nat) (reason : Reason) :
      OfAccount policy own (.decode what offset reason)
  /-- The account, its header or its registry begins with another byte than its marker. -/
  | unexpectedKey {expected : Marker} {found : UInt8} :
      expected ∈ [own, .pluginHeader, .pluginRegistry] → found ≠ expected.tag →
      OfAccount policy own (.unexpectedKey expected found)
  /-- Two plugins are of one kind, where the settings refuse it. -/
  | duplicatePlugin (kind : PluginKind) (first second : UInt64) :
      policy = .reject → OfAccount policy own (.duplicatePlugin kind first second)

variable {policy : DuplicatePolicy} {own : Marker} {e : Error}

theorem IsDecode.ofAccount (h : e.IsDecode) : e.OfAccount policy own := by
  cases h with
  | decode what offset reason => exact .decode what offset reason

theorem OfAccount.isFatal (h : e.OfAccount policy own) : e.isFatal = true := by
  cases h <;> rfl

/-- What goes wrong inside a payload stays a decoding error. -/
theorem IsDecode.ofPayload (h : e.IsDecode) (key : String) (offset : UInt64) :
    (e.ofPayload key offset).IsDecode := by
  cases h with
  | decode what pos reason => exact .decode _ _ _

end Error

/-! ## Readers -/

/-- Wherever it starts in whatever buffer, the reader fails with errors of one kind only. -/
def Reader.FailsOnly (P : Error → Prop) (r : Reader α) : Prop :=
  ∀ data pos, Traversal.FailsOnly P (r.value data pos)

namespace Reader.FailsOnly

variable {P Q : Error → Prop}

theorem imp {r : Reader α} (h : FailsOnly P r) (hPQ : ∀ e, P e → Q e) : FailsOnly Q r :=
  fun data pos => (h data pos).imp hPQ

theorem bind {r : Reader α} {f : α → Reader β} (hr : FailsOnly P r)
    (hf : ∀ a, FailsOnly P (f a)) : FailsOnly P (r >>= f) := by
  intro data pos e h
  rw [value, bind_apply] at h
  split at h
  · rename_i a next _
    exact hf a data next e h
  · rename_i e' next hread
    obtain rfl : e' = e := by simpa using h
    exact hr data pos e' (by rw [value, hread])

end Reader.FailsOnly

namespace Reader

theorem failsOnly_primitive (what : String) (parse : Bytes → Except Reason (α × Nat)) :
    FailsOnly Error.IsDecode (primitive what parse) := by
  intro data pos e h
  rw [value, primitive] at h
  split at h
  · cases h
    exact .decode _ _ _
  · split at h
    · cases h
    · cases h
      exact .decode _ _ _

theorem failsOnly_skip (what : String) (width : Nat) :
    FailsOnly Error.IsDecode (skip what width) := by
  intro data pos e h
  rw [value, skip] at h
  split at h
  · cases h
    exact .decode _ _ _
  · cases h

/-- Reading up to a failure never fails itself, whatever the items fail with. -/
theorem failsOnly_upTo (P : Error → Prop) (item : Reader α) (count : Nat) :
    FailsOnly P (upTo item count) := by
  intro data pos e h
  obtain ⟨items, next, hread⟩ := exists_upTo item count data pos
  rw [value, hread] at h
  cases h

theorem failsOnly_indexOf (what : String) (offset : UInt64) (data : Bytes) :
    Traversal.FailsOnly Error.IsDecode (indexOf what offset data) := by
  rw [indexOf]
  split
  · exact .ok _
  · exact .error (.decode _ _ _)

theorem failsOnly_slice (what : String) (data : Bytes) (offset length : Nat) :
    Traversal.FailsOnly Error.IsDecode (slice what data offset length) := by
  rw [slice]
  split
  · exact .ok _
  · exact .error (.decode _ _ _)

end Reader

/-- Composed readers fail with decoding errors only. -/
theorem Composed.failsOnly {r : Reader α} (h : Composed r) : r.FailsOnly Error.IsDecode := by
  induction h with
  | pure a => exact fun _ _ => .ok a
  | refuse what offset reason => exact fun _ _ => .error (.decode what offset reason)
  | position => exact fun _ pos => .ok pos
  | primitive what _ => exact Reader.failsOnly_primitive what _
  | skip what width => exact Reader.failsOnly_skip what width
  | bind _ _ ihr ihf => exact ihr.bind ihf

/-! ## Structures behind a marker -/

section

variable {policy : DuplicatePolicy} {own : Marker}

theorem Marker.failsOnly_reader {expected : Marker}
    (h : expected ∈ [own, .pluginHeader, .pluginRegistry]) :
    expected.reader.FailsOnly (Error.OfAccount policy own) := by
  apply Reader.FailsOnly.bind
  · exact (Reader.composed_u8 _).failsOnly.imp fun _ => Error.IsDecode.ofAccount
  · intro found
    split
    · exact fun _ _ => .ok ()
    · rename_i hfound
      exact fun _ _ => .error (.unexpectedKey h hfound)

theorem Marked.failsOnly {expected : Marker} {r : Reader α} (hr : Marked expected r)
    (h : expected ∈ [own, .pluginHeader, .pluginRegistry]) :
    r.FailsOnly (Error.OfAccount policy own) := by
  obtain ⟨rest, hrest, rfl⟩ := hr
  exact (Marker.failsOnly_reader h).bind fun _ =>
    hrest.failsOnly.imp fun _ => Error.IsDecode.ofAccount

/-- Adapter entries that cannot be read end their list, so only its length is left to fail. -/
theorem Registry.failsOnly_adapterEntries (settings : Settings) :
    (adapterEntries settings).FailsOnly Error.IsDecode := by
  intro data pos
  rw [Reader.value, adapterEntries]
  split
  · exact .ok []
  · exact (Reader.composed_u32 _).failsOnly.bind
      (fun count => Reader.failsOnly_upTo _ _ count.toNat) data pos

theorem Registry.failsOnly_reader (settings : Settings) :
    (reader settings).FailsOnly (Error.OfAccount policy own) := by
  apply (Marker.failsOnly_reader (by simp)).bind
  intro _
  apply Reader.FailsOnly.imp (P := Error.IsDecode) _ fun _ => Error.IsDecode.ofAccount
  apply (composed_pluginEntries settings).failsOnly.bind
  intro plugins
  apply (failsOnly_adapterEntries settings).bind
  intro adapters _ _
  exact .ok _

/-! ## Payloads -/

theorem failsOnly_readPayload [DecidableEq κ] {reader : Reader α}
    (hreader : reader.FailsOnly Error.IsDecode) (kindOf : α → κ) (name : κ → String) (kind : κ)
    (offset : UInt64) (data : Bytes) :
    FailsOnly Error.IsDecode (readPayload reader kindOf name kind offset data) := by
  rw [readPayload]
  split
  · rename_i e hindex
    exact .error (Reader.failsOnly_indexOf _ _ _ e hindex)
  · split
    · rename_i e hread
      exact .error ((hreader _ _ e hread).ofPayload _ _)
    · split
      · exact .ok _
      · exact .error (.decode _ _ _)

/-- A plugin can be refused for its payload, or for the slot that it finds taken. -/
theorem PluginSlots.failsOnly_attach (policy : DuplicatePolicy) (data : Bytes) (slots : PluginSlots)
    (r : PluginRecord) : FailsOnly (Error.OfAccount policy own) (attach policy data slots r) := by
  rw [attach]
  split
  · rename_i e hpayload
    exact .error (failsOnly_readPayload Plugin.composed_reader.failsOnly _ _ _ _ _ e hpayload).ofAccount
  · split
    · exact .error (.duplicatePlugin _ _ _ rfl)
    · exact .ok _

theorem AdapterData.failsOnly_read (settings : Settings) (schema : Schema) (offset : Nat)
    (bytes : Bytes) : FailsOnly Error.IsDecode (read settings schema offset bytes) := by
  intro e h
  obtain ⟨_, _, _, reason, _, rfl⟩ := read_eq_error_iff.mp h
  exact .decode _ _ _

namespace AdapterRecord

theorem failsOnly_attachedData (settings : Settings) (data : Bytes) (r : AdapterRecord)
    (adapter : Adapter) : FailsOnly Error.IsDecode (r.attachedData settings data adapter) := by
  rw [attachedData]
  split
  · split
    · rename_i e hslice
      exact .error (Reader.failsOnly_slice _ _ _ _ e hslice)
    · exact AdapterData.failsOnly_read _ _ _ _
  · exact .ok none

theorem failsOnly_attached (settings : Settings) (data : Bytes) (r : AdapterRecord) :
    FailsOnly Error.IsDecode (r.attached settings data) := by
  intro e h
  rcases attached_eq_error_iff.mp h with hpayload | ⟨adapter, _, hdata⟩
  · exact failsOnly_readPayload Adapter.composed_reader.failsOnly _ _ _ _ _ e hpayload
  · exact failsOnly_attachedData settings data r adapter e hdata

end AdapterRecord

/-! ## Accounts -/

theorem Extension.failsOnly_readAt (settings : Settings) (data : Bytes) (baseEnd : Nat) :
    FailsOnly (Error.OfAccount settings.duplicatePlugins own) (readAt settings data baseEnd) := by
  rw [readAt]
  split
  · exact .ok _
  apply FailsOnly.bind (PluginHeader.marked_reader.failsOnly (by simp) _ _)
  intro header
  apply FailsOnly.bind ((Reader.failsOnly_indexOf _ _ _).imp fun _ => Error.IsDecode.ofAccount)
  intro start
  apply FailsOnly.bind (Registry.failsOnly_reader settings _ _)
  intro registry
  apply FailsOnly.bind (.foldlM (PluginSlots.failsOnly_attach _ data) registry.plugins _)
  intro plugins
  apply FailsOnly.bind
  · apply FailsOnly.foldlM
    intro table r
    exact ((r.failsOnly_attached settings data).imp fun _ => Error.IsDecode.ofAccount).map
  · intro adapters
    exact .ok _

/-- An account behind a marker of its own is read, or fails with one of its errors. -/
theorem Account.failsOnly_decode {reader : Reader Base} (hreader : Marked own reader)
    (settings : Settings) (address : Address) (data : Bytes) :
    FailsOnly (Error.OfAccount settings.duplicatePlugins own)
      (decode reader settings address data) := by
  apply FailsOnly.bind (hreader.failsOnly (by simp) data 0)
  intro base
  apply (Extension.failsOnly_readAt settings data _).bind
  intro extension
  exact .ok _

end

end DigitalAsset
