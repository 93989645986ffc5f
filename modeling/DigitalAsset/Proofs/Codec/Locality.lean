import DigitalAsset.Proofs.Codec.Composition
import Mathlib.Data.List.Infix

/-!
# Readers look only at what they take

`Local r` says that a successful `r` has looked at no other bytes than those it has taken: not at the
bytes before its position, not at the bytes that follow, and not at the length of the buffer.  Its
answer stays the same when these change.

All readers of entries, payloads and base records are local.  `Reader.upTo` is not, since it ends
where an item fails, and what it takes can then depend on the length of the buffer.
-/

namespace DigitalAsset

/-- From position `pos` on, the reader takes `bytes` and answers `a`, whatever stands before and
after them. -/
def ReadsAt (r : Reader α) (pos : Nat) (bytes : Bytes) (a : α) : Prop :=
  ∀ front back : Bytes, front.length = pos →
    r (front ++ (bytes ++ back)) pos = ⟨.ok a, pos + bytes.length⟩

/-- What a successful reader answers depends on its position and the bytes that it takes only. -/
structure Local (r : Reader α) : Prop where
  takes : ∀ {front rest : Bytes} {a : α} {next : Nat},
    r (front ++ rest) front.length = ⟨.ok a, next⟩ →
      ∃ bytes back, rest = bytes ++ back ∧ next = front.length + bytes.length ∧
        ReadsAt r front.length bytes a

theorem Reads.readsAt {r : Reader α} {bytes : Bytes} {a : α} (h : Reads r bytes a) (pos : Nat) :
    ReadsAt r pos bytes a := by
  rintro front back rfl
  exact h front back

/-- In a buffer the bytes stand at the position. -/
theorem ReadsAt.of_isPrefix {r : Reader α} {bytes data : Bytes} {a : α} {pos : Nat}
    (h : ReadsAt r pos bytes a) (hpos : pos ≤ data.length) (hbytes : bytes <+: data.drop pos) :
    r data pos = ⟨.ok a, pos + bytes.length⟩ := by
  obtain ⟨back, hback⟩ := hbytes
  have hat := h (data.take pos) back (List.length_take_of_le hpos)
  rwa [hback, List.take_append_drop] at hat

theorem Reader.value_eq_ok_iff {r : Reader α} {data : Bytes} {pos : Nat} {a : α} :
    r.value data pos = .ok a ↔ ∃ next, r data pos = ⟨.ok a, next⟩ := by
  rw [Reader.value]
  constructor
  · intro h
    exact ⟨(r data pos).next, by rw [← h]⟩
  · rintro ⟨next, h⟩
    rw [h]

namespace Local

variable {part whole : Bytes}

/-- In a buffer, a reader that succeeds has taken the bytes at its position. -/
theorem exists_taken {r : Reader α} (h : Local r) {data : Bytes} {pos next : Nat} {a : α}
    (hpos : pos ≤ data.length) (hread : r data pos = ⟨.ok a, next⟩) :
    ∃ bytes, bytes <+: data.drop pos ∧ next = pos + bytes.length ∧ ReadsAt r pos bytes a := by
  obtain ⟨front, rest, rfl, rfl⟩ := Bytes.exists_front hpos
  obtain ⟨bytes, back, rfl, rfl, hat⟩ := h.takes hread
  refine ⟨bytes, ?_, rfl, hat⟩
  rw [List.drop_left]
  exact List.prefix_append bytes back

/-- What is read from a part of a buffer is read from the whole of it as well. -/
theorem of_part {r : Reader α} (h : Local r) (hpart : part <+: whole)
    {pos next : Nat} {a : α} (hpos : pos ≤ part.length) (hread : r part pos = ⟨.ok a, next⟩) :
    r whole pos = ⟨.ok a, next⟩ ∧ next ≤ part.length := by
  obtain ⟨bytes, hbytes, rfl, hat⟩ := h.exists_taken hpos hread
  exact ⟨hat.of_isPrefix (Nat.le_trans hpos hpart.length_le) (hbytes.trans (hpart.drop pos)),
    Bytes.add_length_le hpos hbytes⟩

theorem value_of_part {r : Reader α} (h : Local r) (hpart : part <+: whole) {pos : Nat}
    {a : α} (hpos : pos ≤ part.length) (hread : r.value part pos = .ok a) :
    r.value whole pos = .ok a := by
  obtain ⟨next, hnext⟩ := Reader.value_eq_ok_iff.mp hread
  exact Reader.value_eq_ok_iff.mpr ⟨next, (h.of_part hpart hpos hnext).1⟩

/-! ## Running readers in turn -/

theorem pure (a : α) : Local (Pure.pure a) where
  takes := by
    intro front rest a' next h
    cases h
    exact ⟨[], rest, rfl, rfl, (Reads.pure a).readsAt _⟩

theorem fail (e : Error) : Local (Reader.fail e : Reader α) where
  takes := by
    intro front rest a next h
    cases h

theorem bind {r : Reader α} {f : α → Reader β} (hr : Local r) (hf : ∀ a, Local (f a)) :
    Local (r >>= f) where
  takes := by
    intro front rest b next h
    obtain ⟨a, mid, hfirst, hsecond⟩ := Reader.exists_of_bind_eq_ok h
    obtain ⟨xs, rest, rfl, rfl, hxs⟩ := hr.takes hfirst
    -- What the first reader takes belongs to the front of the second.
    rw [← List.append_assoc, ← List.length_append] at hsecond
    obtain ⟨ys, back, rfl, rfl, hys⟩ := (hf a).takes hsecond
    refine ⟨xs ++ ys, back, by simp, by simp [Nat.add_assoc], ?_⟩
    intro front' back' hfront
    have hthen := hys (front' ++ xs) back' (by simp [hfront])
    rw [List.append_assoc, Reader.bind_of_ok (hxs front' (ys ++ back') hfront)]
    simpa [List.append_assoc, Nat.add_assoc] using hthen

/-- The position that a reader asks for is not part of the buffer. -/
theorem position : Local Reader.position where
  takes := by
    intro front rest pos next h
    cases h
    exact ⟨[], rest, rfl, rfl, fun _ _ _ => rfl⟩

end Local

/-! ## Primitives -/

namespace Reader

theorem local_primitive (what : String) {parse : Bytes → Except Reason (α × Nat)}
    (h : LocalParse parse) : Local (primitive what parse) where
  takes := by
    intro front rest a next hread
    have hin : ¬ (front ++ rest).length < front.length := by simp
    rw [primitive, if_neg hin, List.drop_left] at hread
    split at hread
    · rename_i value width hparse
      cases hread
      obtain ⟨bytes, back, rfl, rfl, hsame⟩ := h.takes hparse
      exact ⟨bytes, back, rfl, rfl, (reads_primitive hsame).readsAt _⟩
    · cases hread

theorem local_skip (what : String) (width : Nat) : Local (skip what width) where
  takes := by
    intro front rest a next h
    rw [skip] at h
    split at h
    · cases h
    · rename_i hleft
      cases h
      have hwidth : width ≤ rest.length := by simpa [remaining] using hleft
      have htake : (rest.take width).length = width := List.length_take_of_le hwidth
      refine ⟨rest.take width, rest.drop width, (List.take_append_drop width rest).symm, ?_,
        (reads_skip what htake).readsAt _⟩
      rw [htake]

/-! ## Reading up to a failure -/

/-- Reading up to a failure never fails itself. -/
theorem exists_upTo (item : Reader α) (count : Nat) (data : Bytes) (pos : Nat) :
    ∃ items next, upTo item count data pos = ⟨.ok items, next⟩ := by
  induction count generalizing pos with
  | zero => exact ⟨[], pos, rfl⟩
  | succ count ih =>
    simp only [upTo]
    split
    · rename_i a next hitem
      obtain ⟨rest, last, hrest⟩ := ih next
      exact ⟨a :: rest, last, by rw [hrest]⟩
    · exact ⟨[], pos, rfl⟩

/-- One step of reading up to a failure: an item is read and the others after it, or the item cannot
be read and there are no items. -/
theorem upTo_succ (item : Reader α) (count : Nat) (data : Bytes) (pos : Nat) :
    (∃ a mid rest last, item data pos = ⟨.ok a, mid⟩ ∧
      upTo item count data mid = ⟨.ok rest, last⟩ ∧
      upTo item (count + 1) data pos = ⟨.ok (a :: rest), last⟩) ∨
    ∃ e mid, item data pos = ⟨.error e, mid⟩ ∧ upTo item (count + 1) data pos = ⟨.ok [], pos⟩ := by
  rcases hitem : item data pos with ⟨e | a, mid⟩
  · exact .inr ⟨e, mid, rfl, by simp only [upTo, hitem]⟩
  · obtain ⟨rest, last, hrest⟩ := exists_upTo item count data mid
    exact .inl ⟨a, mid, rest, last, rfl, hrest, by simp only [upTo, hitem, hrest]⟩

/-- Up to a failure in the part the items are those of the whole. -/
theorem upTo_of_part {item : Reader α} (h : Local item) {part whole : Bytes}
    (hpart : part <+: whole) {count pos next last : Nat} {short long : List α}
    (hpos : pos ≤ part.length)
    (hshort : upTo item count part pos = ⟨.ok short, next⟩)
    (hlong : upTo item count whole pos = ⟨.ok long, last⟩) : short <+: long := by
  induction count generalizing pos next last short long with
  | zero =>
    cases hshort
    exact List.nil_prefix
  | succ count ih =>
    -- An item of the part is one of the whole; where the part has none, its list ends.
    rcases upTo_succ item count part pos with
      ⟨a, mid, rest, _, hitem, hrest, hstep⟩ | ⟨e, _, _, hstep⟩
    · cases hstep.symm.trans hshort
      obtain ⟨hsame, hmid⟩ := h.of_part hpart hpos hitem
      rcases upTo_succ item count whole pos with
        ⟨b, mid', others, _, hitem', hothers, hstep'⟩ | ⟨e, _, hfails, _⟩
      · cases hstep'.symm.trans hlong
        cases hsame.symm.trans hitem'
        exact (List.prefix_cons_inj a).mpr (ih hmid hrest hothers)
      · cases hsame.symm.trans hfails
    · cases hstep.symm.trans hshort
      exact List.nil_prefix

end Reader

/-! ## Composed readers -/

/-- Whatever is made of primitives looks only at what the primitives take. -/
theorem Composed.isLocal {r : Reader α} (h : Composed r) : Local r := by
  induction h with
  | pure a => exact .pure a
  | refuse what offset reason => exact .fail _
  | position => exact .position
  | primitive what hparse => exact Reader.local_primitive what hparse
  | skip what width => exact Reader.local_skip what width
  | bind _ _ hr hf => exact hr.bind hf

theorem Reader.local_u32 (what : String) : Local (u32 what) := (composed_u32 what).isLocal

theorem Marker.local_reader (expected : Marker) : Local expected.reader := by
  apply (Reader.composed_u8 _).isLocal.bind
  intro found
  split_ifs
  · exact .pure ()
  · exact .fail _

theorem Marked.isLocal {expected : Marker} {r : Reader α} (h : Marked expected r) : Local r := by
  obtain ⟨rest, hrest, rfl⟩ := h
  exact (Marker.local_reader expected).bind fun _ => hrest.isLocal

theorem Plugin.local_reader : Local Plugin.reader := composed_reader.isLocal

theorem Adapter.local_reader : Local Adapter.reader := composed_reader.isLocal

theorem AdapterRecord.local_entryReader (settings : Settings) : Local (entryReader settings) :=
  (composed_entryReader settings).isLocal

theorem Registry.local_pluginEntries (settings : Settings) : Local (pluginEntries settings) :=
  (composed_pluginEntries settings).isLocal

theorem PluginHeader.local_reader : Local PluginHeader.reader := marked_reader.isLocal

theorem AssetBase.local_reader : Local AssetBase.reader := marked_reader.isLocal

theorem CollectionBase.local_reader : Local CollectionBase.reader := marked_reader.isLocal

end DigitalAsset
