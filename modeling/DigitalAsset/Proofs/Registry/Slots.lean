import DigitalAsset.Proofs.Registry.Materialization
import Mathlib.Data.Finset.Card
import Mathlib.Data.List.Induction

/-!
# The slots that records fill

Of several records of one kind the last one fills the slot, with its own authority and offset and
with the plugin that it points to.  `PluginSlots.slot_of_ofRecords` says so of each slot, and
`PluginSlots.exists_ofRecords_iff` says which records fill slots at all.  Together they determine the
slots, so that records of different kinds may be listed in any order
(`PluginSlots.ofRecords_of_perm`).
-/

namespace DigitalAsset

namespace PluginRecord

/-! ## The last record of a kind -/

/-- The last record of a kind. -/
def lastOf? (kind : PluginKind) (records : List PluginRecord) : Option PluginRecord :=
  records.reverse.find? fun r => r.kind = kind

variable {kind : PluginKind} {records others : List PluginRecord} {r : PluginRecord}

theorem lastOf?_concat (kind : PluginKind) (records : List PluginRecord) (r : PluginRecord) :
    lastOf? kind (records ++ [r]) = if r.kind = kind then some r else lastOf? kind records := by
  by_cases hkind : r.kind = kind <;> simp [lastOf?, hkind]

theorem lastOf?_isSome_iff : (lastOf? kind records).isSome ↔ ∃ r ∈ records, r.kind = kind := by
  simp [lastOf?]

theorem mem_of_lastOf? (h : lastOf? kind records = some r) : r ∈ records :=
  List.mem_reverse.mp (List.mem_of_find?_eq_some h)

theorem lastOf?_of_append {before after : List PluginRecord}
    (hlast : ∀ later ∈ after, later.kind ≠ r.kind) :
    lastOf? r.kind (before ++ r :: after) = some r := by
  rw [lastOf?, List.find?_eq_some_iff_append]
  refine ⟨by simp, after.reverse, before.reverse, by simp, ?_⟩
  intro later hlater
  simpa using hlast later (List.mem_reverse.mp hlater)

/-- Where all records are of different kinds, the last of a kind is the only one. -/
theorem lastOf?_eq_some_iff_of_nodup (hkinds : (records.map (·.kind)).Nodup) :
    lastOf? kind records = some r ↔ r ∈ records ∧ r.kind = kind := by
  constructor
  · intro h
    exact ⟨mem_of_lastOf? h, by simpa using List.find?_some h⟩
  · rintro ⟨hmem, rfl⟩
    obtain ⟨before, after, rfl⟩ := List.append_of_mem hmem
    refine lastOf?_of_append fun later hlater hsame => ?_
    rw [List.map_append, List.map_cons] at hkinds
    exact (List.nodup_cons.mp hkinds.of_append_right).1
      (hsame ▸ List.mem_map_of_mem hlater)

/-- One more record leaves all kinds different if none of the others is of its kind. -/
theorem nodup_kinds_concat_iff :
    ((records ++ [r]).map (·.kind)).Nodup ↔
      (records.map (·.kind)).Nodup ∧ ¬ ∃ other ∈ records, other.kind = r.kind := by
  rw [List.map_append, List.map_singleton, ← List.concat_eq_append, List.nodup_concat,
    List.mem_map, and_comm]

theorem lastOf?_of_perm (hkinds : (records.map (·.kind)).Nodup) (hperm : others.Perm records) :
    lastOf? kind others = lastOf? kind records := by
  have hothers : (others.map (·.kind)).Nodup := (hperm.map _).nodup_iff.mpr hkinds
  refine Option.ext fun r => ?_
  rw [lastOf?_eq_some_iff_of_nodup hkinds, lastOf?_eq_some_iff_of_nodup hothers, hperm.mem_iff]

/-! ## What a record puts into a slot -/

/-- The record gives a slot its content: its authority, its offset, which lies inside the buffer, and
the plugin that is read there, which has the kind of the slot. -/
structure Fills (data : Bytes) {kind : PluginKind} (r : PluginRecord)
    (attached : AttachedPlugin kind) : Prop where
  kind_eq : r.kind = kind
  authority_eq : attached.authority = r.authority
  offset_eq : attached.offset = r.offset
  inside : r.offset.toNat < data.length
  reads : Plugin.reader.value data r.offset.toNat = .ok attached.plugin

theorem Fills.unique {data : Bytes} {a b : AttachedPlugin kind} (ha : r.Fills data a)
    (hb : r.Fills data b) : a = b := by
  have hplugin : a.plugin = b.plugin := Except.ok.inj (ha.reads.symm.trans hb.reads)
  have hauthority : a.authority = b.authority := ha.authority_eq.trans hb.authority_eq.symm
  have hoffset : a.offset = b.offset := ha.offset_eq.trans hb.offset_eq.symm
  cases a
  cases b
  simp_all

/-- At most one content of a slot goes with the last record of its kind, or with there being none. -/
theorem Fills.rel_unique {data : Bytes} {last : Option PluginRecord}
    {a b : Option (AttachedPlugin kind)} (ha : Option.Rel (Fills data) last a)
    (hb : Option.Rel (Fills data) last b) : a = b := by
  cases ha with
  | none =>
    cases hb
    rfl
  | some ha =>
    cases hb with
    | some hb => rw [ha.unique hb]

end PluginRecord

namespace PluginSlots

open PluginRecord

variable {settings : Settings} {data : Bytes} {records others : List PluginRecord}
  {slots : PluginSlots}

/-! ## Record by record -/

/-- A slot holds what the last record of its kind points to, and is empty if there is none. -/
theorem slot_of_ofRecords (h : ofRecords settings data records = .ok slots) (kind : PluginKind) :
    Option.Rel (Fills data) (lastOf? kind records) (slots.get? kind) := by
  -- From the end: the last record has the slot of its kind to itself and leaves the others alone.
  induction records using List.reverseRecOn generalizing slots with
  | nil =>
    cases h
    exact .none
  | append_singleton rest r ih =>
    obtain ⟨reached, hrest, hattach⟩ := Traversal.foldlM_concat_eq_ok_iff.mp h
    obtain ⟨plugin, hplugin, _, rfl⟩ := attach_eq_ok_iff.mp hattach
    obtain ⟨hinside, hread, hkind⟩ := readPayload_eq_ok_iff.mp hplugin
    rw [lastOf?_concat]
    by_cases hsame : r.kind = kind
    · obtain rfl : plugin.kind = kind := hkind.trans hsame
      rw [if_pos hsame, get?_insert_self]
      exact .some ⟨hsame, rfl, rfl, hinside, hread⟩
    · rw [if_neg hsame, get?_insert_of_ne _ _ _ (hkind ▸ hsame)]
      exact ih hrest

theorem isSome_of_ofRecords (h : ofRecords settings data records = .ok slots) (kind : PluginKind) :
    (slots.get? kind).isSome ↔ ∃ r ∈ records, r.kind = kind := by
  rw [← lastOf?_isSome_iff]
  have hslot := slot_of_ofRecords h kind
  generalize lastOf? kind records = last, slots.get? kind = slot at hslot
  cases hslot <;> simp

theorem exists_record_of_offset? (h : ofRecords settings data records = .ok slots)
    {kind : PluginKind} {offset : UInt64} (htaken : slots.offset? kind = some offset) :
    ∃ r ∈ records, r.kind = kind ∧ r.offset = offset := by
  obtain ⟨attached, hattached, rfl⟩ := Option.map_eq_some_iff.mp htaken
  have hslot := slot_of_ofRecords h kind
  rw [hattached] at hslot
  generalize hlast : lastOf? kind records = last at hslot
  cases hslot with
  | some hfills => exact ⟨_, mem_of_lastOf? hlast, hfills.kind_eq, hfills.offset_eq.symm⟩

/-- Where all records are of different kinds, each of them has the slot of its kind. -/
theorem offset?_of_mem (h : ofRecords settings data records = .ok slots)
    (hkinds : (records.map (·.kind)).Nodup) {r : PluginRecord} (hr : r ∈ records) :
    slots.offset? r.kind = some r.offset := by
  have hslot := slot_of_ofRecords h r.kind
  rw [(lastOf?_eq_some_iff_of_nodup hkinds).mpr ⟨hr, rfl⟩] at hslot
  rw [offset?]
  generalize slots.get? r.kind = slot at hslot
  cases hslot with
  | some hfills => exact congrArg some hfills.offset_eq

/-- Records fill slots if all their payloads are found and, where duplicates are refused, no two are
of one kind. -/
theorem exists_ofRecords_iff :
    (∃ slots, ofRecords settings data records = .ok slots) ↔
      (∀ r ∈ records, ∃ plugin, r.payload data = .ok plugin) ∧
        (settings.duplicatePlugins = .reject → (records.map (·.kind)).Nodup) := by
  induction records using List.reverseRecOn with
  | nil => simp [ofRecords, pure, Except.pure]
  | append_singleton rest r ih =>
    simp only [List.forall_mem_append, List.forall_mem_singleton, nodup_kinds_concat_iff]
    constructor
    · rintro ⟨slots, h⟩
      obtain ⟨reached, hrest, hattach⟩ := Traversal.foldlM_concat_eq_ok_iff.mp h
      obtain ⟨plugin, hplugin, hfree, _⟩ := attach_eq_ok_iff.mp hattach
      obtain ⟨hpayloads, hkinds⟩ := ih.mp ⟨reached, hrest⟩
      refine ⟨⟨hpayloads, plugin, hplugin⟩, fun hreject => ⟨hkinds hreject, ?_⟩⟩
      -- The slot is empty, so no earlier record is of the kind.
      rw [← isSome_of_ofRecords hrest, hfree hreject]
      exact Bool.false_ne_true
    · rintro ⟨⟨hpayloads, plugin, hplugin⟩, hkinds⟩
      obtain ⟨reached, hrest⟩ := ih.mpr ⟨hpayloads, fun hreject => (hkinds hreject).1⟩
      refine ⟨_, Traversal.foldlM_concat_eq_ok_iff.mpr
        ⟨reached, hrest, attach_eq_ok_iff.mpr ⟨plugin, hplugin, fun hreject => ?_, rfl⟩⟩⟩
      have hfree := (hkinds hreject).2
      rw [← isSome_of_ofRecords hrest] at hfree
      exact Option.not_isSome_iff_eq_none.mp hfree

/-- The order of records of different kinds does not matter. -/
theorem ofRecords_of_perm (h : ofRecords settings data records = .ok slots)
    (hkinds : (records.map (·.kind)).Nodup) (hperm : others.Perm records) :
    ofRecords settings data others = .ok slots := by
  have hpayloads := (exists_ofRecords_iff.mp ⟨slots, h⟩).1
  obtain ⟨found, hfound⟩ : ∃ found, ofRecords settings data others = .ok found :=
    exists_ofRecords_iff.mpr
      ⟨fun r hr => hpayloads r (hperm.subset hr), fun _ => (hperm.map _).nodup_iff.mpr hkinds⟩
  have hsame : found = slots := by
    refine PluginSlots.ext fun kind => ?_
    have hslot := slot_of_ofRecords hfound kind
    rw [lastOf?_of_perm hkinds hperm] at hslot
    exact Fills.rel_unique hslot (slot_of_ofRecords h kind)
  rw [hfound, hsame]

/-! ## All slots -/

theorem kinds_ascending (slots : PluginSlots) :
    slots.kinds.Pairwise fun first second => first.tag < second.tag := by
  have hall : PluginKind.all.Pairwise fun first second => first.tag < second.tag := by decide
  exact hall.filter _

theorem nodup_kinds (slots : PluginSlots) : slots.kinds.Nodup := by
  refine slots.kinds_ascending.imp fun hlt hsame => ?_
  rw [hsame] at hlt
  exact UInt8.lt_irrefl _ hlt

theorem size_eq_card (slots : PluginSlots) : slots.size = slots.kinds.toFinset.card := by
  rw [List.toFinset_card_of_nodup slots.nodup_kinds, size]

/-- What slots have to do with the records that fill them. -/
structure FilledBy (settings : Settings) (data : Bytes) (records : List PluginRecord)
    (slots : PluginSlots) : Prop where
  /-- A slot is taken if some record is of its kind, and only then. -/
  taken : ∀ kind, (slots.get? kind).isSome ↔ ∃ r ∈ records, r.kind = kind
  /-- It holds what the last record of its kind points to. -/
  content : ∀ before r after, records = before ++ r :: after →
    (∀ later ∈ after, later.kind ≠ r.kind) →
    ∃ attached, slots.get? r.kind = some attached ∧ r.Fills data attached
  /-- The kinds are listed by their tags, each once. -/
  ascending : slots.kinds.Pairwise fun first second => first.tag < second.tag
  /-- They are the kinds of the records. -/
  mem_kinds : ∀ kind, kind ∈ slots.kinds ↔ ∃ r ∈ records, r.kind = kind
  /-- They are counted. -/
  size_eq : slots.size = (records.map (·.kind)).toFinset.card
  /-- Records of different kinds fill the same slots in any order. -/
  reordered : (records.map (·.kind)).Nodup → ∀ others : List PluginRecord, others.Perm records →
    ofRecords settings data others = .ok slots

/-- Nothing stands in the slots but what the records say, and no record is lost but to a later one
of its kind. -/
theorem ofRecords_filledBy (h : ofRecords settings data records = .ok slots) :
    FilledBy settings data records slots where
  taken := isSome_of_ofRecords h
  content := by
    rintro before r after rfl hlast
    have hslot := slot_of_ofRecords h r.kind
    rw [lastOf?_of_append hlast] at hslot
    generalize slots.get? r.kind = slot at hslot
    cases hslot with
    | some hfills => exact ⟨_, rfl, hfills⟩
  ascending := slots.kinds_ascending
  mem_kinds := fun kind => mem_kinds.trans (isSome_of_ofRecords h kind)
  size_eq := by
    rw [size_eq_card]
    congr 1
    ext kind
    simp [PluginSlots.mem_kinds, isSome_of_ofRecords h]
  reordered := fun hkinds _ hperm => ofRecords_of_perm h hkinds hperm

/-! ## Two freeze delegates -/

/-- Two freeze delegates, of which the first freezes, and a burn delegate. -/
def delegatePayloads : Bytes := [1, 1, 1, 0, 2]

/-- Records that point to them, the burn delegate's between the two others. -/
def delegateRecords : List PluginRecord :=
  [⟨.freezeDelegate, .owner, 0⟩, ⟨.burnDelegate, .updateAuthority, 4⟩,
    ⟨.freezeDelegate, .none, 2⟩]

/-- The second freeze delegate fills the slot. -/
theorem ofRecords_delegateRecords :
    ∃ slots, ofRecords {} delegatePayloads delegateRecords = .ok slots ∧
      FilledBy {} delegatePayloads delegateRecords slots ∧
      slots.kinds = [.freezeDelegate, .burnDelegate] ∧
      slots.get? .freezeDelegate = some ⟨.none, 2, .freezeDelegate false, rfl⟩ := by
  have h : ofRecords {} delegatePayloads delegateRecords =
      .ok (((empty.insert .owner 0 (.freezeDelegate true)).insert .updateAuthority 4
        .burnDelegate).insert .none 2 (.freezeDelegate false)) := by
    decide +kernel
  exact ⟨_, h, ofRecords_filledBy h, by decide, by decide⟩

end PluginSlots

end DigitalAsset
