import DigitalAsset.Proofs.Codec.Progress

/-!
# The frame of what is read

What a reader answers between two positions of a buffer it also answers in every other buffer with
the same bytes between them.  The bytes before and behind are its frame: they can be changed, cut off
or added to, and the reader does not notice.

This is `Local`, said of positions in buffers.  It needs that the reader began inside the buffer
(`Reader.Inside`), since beyond the end there are no bytes to agree on.
-/

namespace DigitalAsset

open Reader

/-- The second buffer reaches to `next`, and from `pos` up to there it has the bytes of the first. -/
structure AgreesOn (data other : Bytes) (pos next : Nat) : Prop where
  le_length : next ≤ other.length
  getElem?_eq : ∀ i, pos ≤ i → i < next → other[i]? = data[i]?

/-- Where the bytes that the reader has taken are the same, it takes them and answers the same. -/
structure Framed (r : Reader α) : Prop where
  /-- It stops inside the buffer, and not before it began. -/
  bounds : ∀ {data : Bytes} {pos next : Nat} {a : α}, r data pos = ⟨.ok a, next⟩ →
    pos ≤ next ∧ next ≤ data.length
  same : ∀ {data other : Bytes} {pos next : Nat} {a : α}, r data pos = ⟨.ok a, next⟩ →
    AgreesOn data other pos next → r other pos = ⟨.ok a, next⟩

/-- Bytes of the first buffer that end there stand in the second as well. -/
theorem AgreesOn.isPrefix {data other bytes : Bytes} {pos : Nat}
    (h : AgreesOn data other pos (pos + bytes.length)) (hbytes : bytes <+: data.drop pos) :
    bytes <+: other.drop pos := by
  rw [List.prefix_iff_getElem?] at hbytes ⊢
  intro i hi
  rw [List.getElem?_drop, h.getElem?_eq (pos + i) (Nat.le_add_right pos i) (by omega),
    ← List.getElem?_drop, hbytes i hi]

/-- A local reader that begins inside its buffer is framed. -/
theorem Local.framed {r : Reader α} (h : Local r) (hinside : Inside r) : Framed r where
  bounds := by
    intro data pos next a hread
    have hpos := hinside.le_length hread
    obtain ⟨bytes, hbytes, rfl, _⟩ := h.exists_taken hpos hread
    exact ⟨Nat.le_add_right _ _, Bytes.add_length_le hpos hbytes⟩
  same := by
    intro data other pos next a hread hagrees
    obtain ⟨bytes, hbytes, rfl, hat⟩ := h.exists_taken (hinside.le_length hread) hread
    have hpos := Nat.le_trans (Nat.le_add_right pos bytes.length) hagrees.le_length
    exact hat.of_isPrefix hpos (hagrees.isPrefix hbytes)

/-- The answer to an entry is framed as its reader is; only where the entry cannot be read does the
end of the buffer matter. -/
theorem Framed.readAt {reader : Reader (Entry α)} (h : Framed reader) :
    Framed (Entry.readAt reader) where
  bounds := fun hread => h.bounds (Entry.readAt_eq_ok_iff.mp hread)
  same := fun hread hagrees =>
    Entry.readAt_eq_ok_iff.mpr (h.same (Entry.readAt_eq_ok_iff.mp hread) hagrees)

theorem Plugin.framed_reader : Framed Plugin.reader := local_reader.framed (inside_tagged _ _ _)

theorem Adapter.framed_reader : Framed Adapter.reader := local_reader.framed (inside_tagged _ _ _)

theorem PluginHeader.framed_reader : Framed PluginHeader.reader :=
  local_reader.framed (Marker.inside_reader _).bind

/-- What stands around a payload, a header or an entry is not looked at. -/
structure FrameLaw (settings : Settings) : Prop where
  plugin : Framed Plugin.reader
  adapter : Framed Adapter.reader
  header : Framed PluginHeader.reader
  /-- An entry is a record or has an unknown tag, of any width. -/
  pluginEntry : Framed (Entry.readAt (PluginRecord.entryReader settings))
  adapterEntry : Framed (Entry.readAt (AdapterRecord.entryReader settings))

/-- **Frames.**  Whatever the settings, payloads, headers and entries are read from their own bytes
only: not from those before or behind them, nor from the length of the buffer. -/
theorem frameLaw (settings : Settings) : FrameLaw settings where
  plugin := Plugin.framed_reader
  adapter := Adapter.framed_reader
  header := PluginHeader.framed_reader
  pluginEntry :=
    ((PluginRecord.composed_entryReader settings).isLocal.framed
      (PluginRecord.inside_entryReader settings)).readAt
  adapterEntry :=
    ((AdapterRecord.local_entryReader settings).framed
      (AdapterRecord.inside_entryReader settings)).readAt

/-- An entry with an unknown tag of three bytes. -/
def wideTagEntry : Bytes := [200, 7, 7, 0] ++ Wire.u64 5

/-- The entry is the same where other bytes precede it and none follow. -/
theorem frameLaw_wideTag :
    AgreesOn ([1, 2] ++ wideTagEntry ++ [9, 9, 9]) ([3, 4] ++ wideTagEntry) 2 14 ∧
      Entry.readAt (PluginRecord.entryReader { unknownTagWidth := 3 }) ([3, 4] ++ wideTagEntry) 2 =
        ⟨.ok (.unknown 200 2), 14⟩ := by
  have hbytes : ∀ i < 14, 2 ≤ i →
      ([3, 4] ++ wideTagEntry)[i]? = ([1, 2] ++ wideTagEntry ++ [9, 9, 9])[i]? := by
    decide +kernel
  have hagrees : AgreesOn ([1, 2] ++ wideTagEntry ++ [9, 9, 9]) ([3, 4] ++ wideTagEntry) 2 14 :=
    ⟨by decide, fun i hlow hhigh => hbytes i hhigh hlow⟩
  exact ⟨hagrees, (frameLaw { unknownTagWidth := 3 }).pluginEntry.same (by rfl) hagrees⟩

end DigitalAsset
