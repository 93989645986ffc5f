import DigitalAsset.Proofs.Registry.Slots

/-!
# Two plugins of one kind

The settings say what becomes of a registry with two plugins of one kind: the later one holds, or the
account is malformed.  `PluginSlots.ofRecords_policyLaw` compares the two policies on the same records.
They agree up to the first record whose kind has occurred before.  If all records up to there can be
used then that record is what the stricter policy fails with, even if a later one is malformed; if one
of them cannot be used then both fail alike, a malformed duplicate included.
-/

namespace DigitalAsset

open Traversal

/-! ## The law -/

namespace PluginRecord

/-- The record leads to a plugin of its own kind inside the buffer. -/
def Usable (data : Bytes) (r : PluginRecord) : Prop :=
  r.offset.toNat < data.length ∧
    ∃ plugin, Plugin.reader.value data r.offset.toNat = .ok plugin ∧ plugin.kind = r.kind

/-- Of some records, `second` is the first one whose kind has occurred before.  The kinds before it
being all different, `first` is the only earlier record of its kind. -/
structure FirstRepeat (records before : List PluginRecord) (first second : PluginRecord)
    (after : List PluginRecord) : Prop where
  records_eq : records = before ++ second :: after
  distinct : (before.map (·.kind)).Nodup
  mem : first ∈ before
  kind_eq : first.kind = second.kind

end PluginRecord

/-- How the answers of the two policies hang together. -/
structure PluginSlots.PolicyLaw (data : Bytes) (records : List PluginRecord)
    (lastWins reject : Except Error PluginSlots) : Prop where
  /-- What is not refused has no repeated kind, and is the same under both policies. -/
  accepted : ∀ slots, reject = .ok slots ↔ lastWins = .ok slots ∧
    ∀ before first second after, ¬ PluginRecord.FirstRepeat records before first second after
  /-- The first repeated kind is refused, whatever comes after it. -/
  duplicate : ∀ before first second after,
    PluginRecord.FirstRepeat records before first second after →
    (∀ r ∈ before ++ [second], r.Usable data) →
    reject = .error (.duplicatePlugin second.kind first.offset second.offset)
  /-- Otherwise the policies fail alike. -/
  failed : ∀ e, lastWins = .error e →
    (∀ before first second after,
      PluginRecord.FirstRepeat records before first second after →
      ∃ r ∈ before ++ [second], ¬ r.Usable data) →
    reject = .error e

section

variable {settings : Settings} {data : Bytes} {records : List PluginRecord}

/-! ## Repeated kinds -/

namespace PluginRecord

theorem usable_iff {r : PluginRecord} : r.Usable data ↔ ∃ plugin, r.payload data = .ok plugin := by
  simp only [Usable, payload, readPayload_eq_ok_iff, exists_and_left]

/-- Kinds that are not all different have a first one that is repeated. -/
theorem exists_firstRepeat (h : ¬ (records.map (·.kind)).Nodup) :
    ∃ before first second after, FirstRepeat records before first second after := by
  induction records using List.reverseRecOn with
  | nil => exact absurd List.nodup_nil h
  | append_singleton rest last ih =>
    by_cases hrest : (rest.map (·.kind)).Nodup
    · -- Only the last record can repeat a kind.
      rw [nodup_kinds_concat_iff, not_and_not_right] at h
      obtain ⟨first, hmem, hkind⟩ := h hrest
      exact ⟨rest, first, last, [], rfl, hrest, hmem, hkind⟩
    · obtain ⟨before, first, second, after, hrepeat⟩ := ih hrest
      refine ⟨before, first, second, after ++ [last],
        { hrepeat with records_eq := ?_ }⟩
      rw [hrepeat.records_eq, List.append_assoc, List.cons_append]

theorem FirstRepeat.not_nodup {before after : List PluginRecord} {first second : PluginRecord}
    (h : FirstRepeat records before first second after) : ¬ (records.map (·.kind)).Nodup := by
  intro hkinds
  rw [h.records_eq, List.map_append] at hkinds
  exact List.disjoint_of_nodup_append hkinds (List.mem_map_of_mem h.mem)
    (by simp [h.kind_eq])

/-- A repeated kind among the first of some records is repeated in all of them. -/
theorem FirstRepeat.append {before after more : List PluginRecord} {first second : PluginRecord}
    (h : FirstRepeat records before first second after) :
    FirstRepeat (records ++ more) before first second (after ++ more) :=
  { h with records_eq := by rw [h.records_eq, List.append_assoc, List.cons_append] }

end PluginRecord

/-! ## The two policies -/

namespace PluginSlots

open PluginRecord

variable {before after : List PluginRecord} {first second : PluginRecord} {slots : PluginSlots}
  {e : Error}

theorem attach_reject_of_firstRepeat {policy : DuplicatePolicy}
    (h : FirstRepeat records before first second after)
    (hbefore : ofRecords { settings with duplicatePlugins := policy } data before = .ok slots)
    (husable : second.Usable data) :
    attach .reject data slots second =
      .error (.duplicatePlugin second.kind first.offset second.offset) := by
  refine attach_eq_error_iff.mpr (.inr ⟨rfl, usable_iff.mp husable, first.offset, ?_, rfl⟩)
  rw [← h.kind_eq]
  exact offset?_of_mem hbefore h.distinct h.mem

/-- Records that can be used and are of different kinds fill slots under every policy. -/
theorem exists_ofRecords_of_usable (settings : Settings)
    (husable : ∀ r ∈ records, r.Usable data) (hkinds : (records.map (·.kind)).Nodup) :
    ∃ slots, ofRecords settings data records = .ok slots :=
  exists_ofRecords_iff.mpr ⟨fun r hr => usable_iff.mp (husable r hr), fun _ => hkinds⟩

theorem usable_of_ofRecords (h : ofRecords settings data records = .ok slots) :
    ∀ r ∈ records, r.Usable data :=
  fun r hr => usable_iff.mpr ((exists_ofRecords_iff.mp ⟨slots, h⟩).1 r hr)

/-- Where the later plugin holds, only a payload can be refused. -/
theorem attach_lastWins_eq_error_iff {r : PluginRecord} :
    attach .lastWins data slots r = .error e ↔ r.payload data = .error e := by
  simp [attach_eq_error_iff]

end PluginSlots

end

/-- **The two policies.**  On all records the answers hang together as the law says. -/
theorem PluginSlots.ofRecords_policyLaw (settings : Settings) (data : Bytes)
    (records : List PluginRecord) :
    PolicyLaw data records
      (ofRecords { settings with duplicatePlugins := .lastWins } data records)
      (ofRecords { settings with duplicatePlugins := .reject } data records) where
  accepted := by
    intro slots
    constructor
    · intro hreject
      have hkinds := (exists_ofRecords_iff.mp ⟨slots, hreject⟩).2 rfl
      exact ⟨foldlM_of_step attach_of_reject hreject,
        fun _ _ _ _ hrepeat => hrepeat.not_nodup hkinds⟩
    · rintro ⟨hlastWins, hnone⟩
      have hkinds : (records.map (·.kind)).Nodup := by
        by_contra hrepeated
        obtain ⟨before, first, second, after, hrepeat⟩ :=
          PluginRecord.exists_firstRepeat hrepeated
        exact hnone before first second after hrepeat
      obtain ⟨found, hfound⟩ := exists_ofRecords_of_usable
        { settings with duplicatePlugins := .reject } (usable_of_ofRecords hlastWins) hkinds
      have hsame : found = slots :=
        Except.ok.inj ((foldlM_of_step attach_of_reject hfound).symm.trans hlastWins)
      rw [hfound, hsame]
  duplicate := by
    intro before first second after hrepeat husable
    have hbefore : ∀ r ∈ before, r.Usable data :=
      fun r hr => husable r (List.mem_append_left _ hr)
    have hsecond : second.Usable data :=
      husable second (List.mem_append_right _ List.mem_cons_self)
    obtain ⟨slots, hslots⟩ := exists_ofRecords_of_usable
      { settings with duplicatePlugins := .reject } hbefore hrepeat.distinct
    rw [hrepeat.records_eq]
    exact foldlM_of_failure hslots (attach_reject_of_firstRepeat hrepeat hslots hsecond)
  failed := by
    intro e hlastWins hbroken
    obtain ⟨before, r, after, reached, rfl, hbefore, hattach⟩ :=
      exists_failure_of_foldlM hlastWins
    have hpayload := attach_lastWins_eq_error_iff.mp hattach
    have husable := usable_of_ofRecords hbefore
    -- A kind that is repeated before the broken record would have been found with it.
    have hkinds : (before.map (·.kind)).Nodup := by
      by_contra hrepeated
      obtain ⟨front, first, second, back, hrepeat⟩ := PluginRecord.exists_firstRepeat hrepeated
      obtain ⟨s, hs, hunusable⟩ := hbroken front first second _ hrepeat.append
      apply hunusable
      apply husable
      rw [hrepeat.records_eq, List.append_cons]
      exact List.mem_append_left _ hs
    obtain ⟨slots, hslots⟩ := exists_ofRecords_of_usable
      { settings with duplicatePlugins := .reject } husable hkinds
    exact foldlM_of_failure hslots (attach_eq_error_iff.mpr (.inl hpayload))

/-- The third record points behind the buffer, but the second one has repeated a kind by then. -/
example :
    PluginSlots.ofRecords { duplicatePlugins := .reject } [1, 0, 1, 1]
      [⟨.freezeDelegate, .owner, 0⟩, ⟨.freezeDelegate, .updateAuthority, 2⟩, ⟨.edition, .owner, 64⟩] =
        .error (.duplicatePlugin .freezeDelegate 0 2) := rfl

end DigitalAsset
