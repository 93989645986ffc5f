import DigitalAsset.Proofs.Codec.Exactness

/-!
# Readers take bytes

A count that stands in a buffer can be any number of 32 bits, but an item takes bytes of its own.
`TakesAtLeast n r` says that a successful `r` has taken no fewer than `n` bytes, and `Inside r` that
it began inside the buffer, so that these bytes are really there.

So a list has no more items than it has bytes (`ListItem.add_length_le`), whichever of the lists in
payloads and records it is, and all the lists of a payload fit together into the bytes of the payload
(`Plugin.listBytes_le_encode`, `Adapter.listBytes_le_encode`, and `Exact.listBytes_le_of_read` for
the payload that is read).
-/

namespace DigitalAsset

open Reader

/-! ## Inside the buffer -/

/-- The reader succeeds only where it begins inside the buffer, or at its end. -/
structure Reader.Inside (r : Reader α) : Prop where
  le_length : ∀ {data : Bytes} {pos next : Nat} {a : α},
    r data pos = ⟨.ok a, next⟩ → pos ≤ data.length

namespace Reader

/-- The first of two readers decides where they can begin. -/
theorem Inside.bind {r : Reader α} {f : α → Reader β} (h : Inside r) : Inside (r >>= f) where
  le_length := by
    intro data pos next b hread
    obtain ⟨_, _, hfirst, _⟩ := exists_of_bind_eq_ok hread
    exact h.le_length hfirst

theorem Inside.ofPosition {f : Nat → Reader α} (h : ∀ start, Inside (f start)) :
    Inside (Reader.position >>= f) where
  le_length := fun {_ pos} => (h pos).le_length

theorem inside_primitive (what : String) (parse : Bytes → Except Reason (α × Nat)) :
    Inside (primitive what parse) :=
  ⟨le_length_of_primitive⟩

theorem inside_nat (what : String) (width : Nat) : Inside (nat what width) :=
  inside_primitive what _

theorem inside_u8 (what : String) : Inside (u8 what) := (inside_nat what 1).bind

theorem inside_u32 (what : String) : Inside (u32 what) := (inside_nat what 4).bind

theorem inside_address (what : String) : Inside (address what) :=
  (inside_primitive what _ : Inside (bytes what 32)).bind

theorem inside_option (what : String) (item : Reader α) : Inside (option what item) :=
  .ofPosition fun _ => (inside_u8 what).bind

theorem inside_list (what : String) (item : Reader α) : Inside (list what item) :=
  (inside_u32 what).bind

theorem inside_tagged (what noun : String) (select : UInt8 → Option (Reader α)) :
    Inside (tagged what noun select) :=
  ⟨le_length_of_tagged⟩

end Reader

/-! ## How much is taken -/

/-- A successful reader has taken no fewer than `width` bytes. -/
def TakesAtLeast (width : Nat) (r : Reader α) : Prop := Takes r fun _ bytes => width ≤ bytes.length

/-- Whatever is made of primitives takes the bytes at its position. -/
theorem Composed.takes {r : Reader α} (h : Composed r) : TakesAtLeast 0 r where
  of_ok := by
    intro front rest a next hread
    obtain ⟨bytes, back, hrest, hnext, _⟩ := h.isLocal.takes hread
    exact ⟨bytes, back, hrest, hnext, Nat.zero_le _⟩

namespace TakesAtLeast

variable {m n : Nat}

theorem bind {r : Reader α} {f : α → Reader β} (hr : TakesAtLeast m r)
    (hf : ∀ a, TakesAtLeast n (f a)) : TakesAtLeast (m + n) (r >>= f) := by
  apply Takes.bind hr
  intro a xs hxs
  apply (hf a).imp
  intro b ys hys
  rw [List.length_append]
  exact Nat.add_le_add hxs hys

theorem map {r : Reader α} {f : α → β} (h : TakesAtLeast n r) :
    TakesAtLeast n (r >>= fun a => Pure.pure (f a)) :=
  Takes.map h fun _ _ => id

/-- What takes some bytes takes one. -/
theorem one {r : Reader α} (h : TakesAtLeast (n + 1) r) : TakesAtLeast 1 r :=
  Takes.imp h fun _ _ => Nat.le_trans (Nat.le_add_left 1 n)

/-- It takes them between the position where it began and the end of the buffer. -/
theorem add_le {r : Reader α} (h : TakesAtLeast n r) {data : Bytes} {pos next : Nat} {a : α}
    (hpos : pos ≤ data.length) (hread : r data pos = ⟨.ok a, next⟩) :
    pos + n ≤ next ∧ next ≤ data.length := by
  obtain ⟨hle, hnext, hn⟩ := h.window hpos hread
  have hwidth := List.length_take_le (next - pos) (data.drop pos)
  omega

end TakesAtLeast

/-- What is exact takes written forms. -/
theorem Exact.canonical {r : Reader α} {encode : α → Bytes} {fits : α → Prop}
    (h : Exact r encode fits) : Canonical r encode :=
  h.imp fun _ _ hboth => hboth.2

/-- A reader that takes written forms takes at least as many bytes as each of them has. -/
theorem Canonical.takesAtLeast {r : Reader α} {encode : α → Bytes} {n : Nat}
    (h : Canonical r encode) (hlength : ∀ a, n ≤ (encode a).length) : TakesAtLeast n r := by
  apply Takes.imp h
  rintro a _ rfl
  exact hlength a

namespace Reader

theorem takesAtLeast_u8 (what : String) : TakesAtLeast 1 (u8 what) :=
  (canonical_u8 what).takesAtLeast fun _ => Nat.le_refl 1

theorem takesAtLeast_u16 (what : String) : TakesAtLeast 2 (u16 what) :=
  (canonical_u16 what).takesAtLeast fun n => Nat.le_of_eq (Bytes.length_ofNatLE 2 n.toNat).symm

theorem takesAtLeast_u32 (what : String) : TakesAtLeast 4 (u32 what) :=
  (canonical_u32 what).takesAtLeast fun n => Nat.le_of_eq (Bytes.length_ofNatLE 4 n.toNat).symm

theorem takesAtLeast_u64 (what : String) : TakesAtLeast 8 (u64 what) :=
  (canonical_u64 what).takesAtLeast fun n => Nat.le_of_eq (Bytes.length_ofNatLE 8 n.toNat).symm

theorem takesAtLeast_bool (what : String) : TakesAtLeast 1 (bool what) :=
  (canonical_bool what).takesAtLeast fun _ => Nat.le_refl 1

theorem takesAtLeast_address (what : String) : TakesAtLeast 32 (address what) :=
  (canonical_address what).takesAtLeast fun a => Nat.le_of_eq a.length_eq.symm

theorem takesAtLeast_blob (what : String) : TakesAtLeast 4 (blob what) := by
  apply (exact_blob what).canonical.takesAtLeast
  intro bytes
  rw [Wire.blob, List.length_append, Wire.length_count]
  exact Nat.le_add_right 4 _

theorem takesAtLeast_string (what : String) : TakesAtLeast 4 (string what) := by
  apply (canonical_string what).takesAtLeast
  intro s
  rw [Wire.string, Wire.blob, List.length_append, Wire.length_count]
  exact Nat.le_add_right 4 _

/-- A marker is taken, whatever follows it. -/
theorem takesAtLeast_option (what : String) {item : Reader α} (h : Composed item) :
    TakesAtLeast 1 (option what item) := by
  apply (takes_option what h.takes).imp
  rintro (_ | a) bytes htaken
  · rw [htaken]
    exact Nat.le_refl 1
  · obtain ⟨body, rfl, _⟩ := htaken
    exact Nat.le_add_left 1 body.length

/-- A count is taken, whatever follows it. -/
theorem takesAtLeast_list (what : String) {item : Reader α} (h : Composed item) :
    TakesAtLeast 4 (list what item) := by
  show TakesAtLeast (4 + 0) _
  apply (takesAtLeast_u32 what).bind
  intro count
  exact (composed_repeated h count.toNat).takes

/-- A tag that says everything. -/
theorem takesAtLeast_enum (what noun : String) (ofTag? : UInt8 → Option α) :
    TakesAtLeast 1 (tagged what noun fun tag => (ofTag? tag).map pure) := by
  apply takes_tagged
  intro tag r hr
  obtain ⟨a, _, rfl⟩ := Option.map_eq_some_iff.mp hr
  exact .pure (Nat.le_refl 1)

end Reader

theorem Authority.takesAtLeast_reader : TakesAtLeast 1 Authority.reader := by
  apply Authority.canonical_reader.takesAtLeast
  intro authority
  cases authority with
  | none | owner | updateAuthority => exact Nat.le_refl 1
  | address a => exact Nat.le_add_left 1 a.bytes.length

/-! ## Written lists -/

/-- The bytes that lists of these lengths have at least: four for each count, and one for each
item. -/
def listBytes : (lengths : List Nat) → Nat
  | [] => 0
  | n :: rest => 4 + n + listBytes rest

@[simp] theorem listBytes_nil : listBytes [] = 0 := rfl

@[simp] theorem listBytes_cons (n : Nat) (lengths : List Nat) :
    listBytes (n :: lengths) = 4 + n + listBytes lengths :=
  rfl

@[simp] theorem listBytes_append (xs ys : List Nat) :
    listBytes (xs ++ ys) = listBytes xs + listBytes ys := by
  induction xs with
  | nil => simp
  | cons n rest ih =>
    rw [List.cons_append, listBytes_cons, listBytes_cons, ih]
    omega

/-- A written list has the bytes of its count, of its items and of the lists inside these. -/
theorem Wire.listBytes_le_list {encode : α → Bytes} {inner : α → List Nat} {items : List α}
    (h : ∀ a ∈ items, 1 + listBytes (inner a) ≤ (encode a).length) :
    listBytes (items.length :: items.flatMap inner) ≤ (Wire.list encode items).length := by
  rw [listBytes_cons, Wire.list, List.length_append, Wire.length_count, Nat.add_assoc]
  apply Nat.add_le_add_left
  induction items with
  | nil => exact Nat.le_refl 0
  | cons a rest ih =>
    have hfirst := h a List.mem_cons_self
    have hrest := ih fun b hb => h b (List.mem_cons_of_mem a hb)
    simp only [List.length_cons, List.flatMap_cons, listBytes_append, List.length_append]
    omega

/-- A written list of items that hold no lists themselves. -/
theorem Wire.listBytes_le_flat {encode : α → Bytes} (items : List α)
    (h : ∀ a, 1 ≤ (encode a).length) :
    listBytes [items.length] ≤ (Wire.list encode items).length := by
  have hlist : listBytes (items.length :: items.flatMap fun _ => []) ≤
      (Wire.list encode items).length := Wire.listBytes_le_list fun a _ => h a
  rwa [List.flatMap_eq_nil_iff.mpr fun _ _ => rfl] at hlist

/-! ## Plugins -/

/-- The lengths of the lists in a rule set. -/
def RuleSet.listLengths : RuleSet → List Nat
  | .none => []
  | .allow programs => [programs.length]
  | .deny programs => [programs.length]

/-- The lengths of the lists in a plugin. -/
def Plugin.listLengths : Plugin → List Nat
  | royalties _ creators ruleSet => creators.length :: ruleSet.listLengths
  | updateDelegate delegates => [delegates.length]
  | attributes list => [list.length]
  | verifiedCreators signatures => [signatures.length]
  | autograph signatures => [signatures.length]
  | _ => []

theorem Address.one_le_length (a : Address) : 1 ≤ (Wire.address a).length := by
  rw [Wire.address, a.length_eq]
  decide

theorem Creator.one_le_length (c : Creator) : 1 ≤ c.encode.length :=
  Nat.le_trans c.address.one_le_length (List.prefix_append _ _).length_le

theorem CreatorSignature.one_le_length (s : CreatorSignature) : 1 ≤ s.encode.length :=
  Nat.le_trans s.address.one_le_length (List.prefix_append _ _).length_le

theorem AutographSignature.one_le_length (s : AutographSignature) : 1 ≤ s.encode.length :=
  Nat.le_trans s.address.one_le_length (List.prefix_append _ _).length_le

theorem Attribute.one_le_length (a : Attribute) : 1 ≤ a.encode.length := by
  rw [encode, Wire.string, Wire.blob]
  simp only [List.length_append, Wire.length_count]
  omega

theorem RuleSet.listBytes_le_encode (r : RuleSet) : listBytes r.listLengths ≤ r.encode.length := by
  cases r with
  | none => exact Nat.zero_le _
  | allow programs | deny programs =>
    have hlist := Wire.listBytes_le_flat programs Address.one_le_length
    exact Nat.le_trans hlist (List.suffix_append (Wire.u8 _) _).length_le

/-- The lists of a plugin fit into its written form. -/
theorem Plugin.listBytes_le_encode (p : Plugin) : listBytes p.listLengths ≤ p.encode.length := by
  have hfields : listBytes p.listLengths ≤ p.encodeFields.length := by
    cases p with
    | royalties basisPoints creators ruleSet =>
      have hcreators := Wire.listBytes_le_flat creators Creator.one_le_length
      have hruleSet := ruleSet.listBytes_le_encode
      simp only [listLengths, encodeFields, listBytes_cons, listBytes_nil,
        List.length_append] at hcreators hruleSet ⊢
      omega
    | updateDelegate delegates => exact Wire.listBytes_le_flat delegates Address.one_le_length
    | attributes list => exact Wire.listBytes_le_flat list Attribute.one_le_length
    | verifiedCreators signatures =>
      exact Wire.listBytes_le_flat signatures CreatorSignature.one_le_length
    | autograph signatures =>
      exact Wire.listBytes_le_flat signatures AutographSignature.one_le_length
    | freezeDelegate | burnDelegate | transferDelegate | permanentFreezeDelegate
    | permanentTransferDelegate | permanentBurnDelegate | edition | masterEdition | addBlocker
    | immutableMetadata => exact Nat.zero_le _
  exact Nat.le_trans hfields (List.suffix_append _ _).length_le

/-! ## Adapters -/

/-- The lengths of the lists in the description of an extra account. -/
def ExtraAccount.listLengths (x : ExtraAccount) : List Nat :=
  match x.source with
  | .customPda seeds _ => [seeds.length]
  | _ => []

/-- The lengths of the lists in a hook: its extra accounts, and their seeds. -/
def Hook.listLengths (h : Hook) : List Nat :=
  match h.extraAccounts with
  | none => []
  | some list => list.length :: list.flatMap ExtraAccount.listLengths

/-- The lengths of the lists in an oracle. -/
def Oracle.listLengths (o : Oracle) : List Nat :=
  match o.baseAddressConfig with
  | none => []
  | some x => x.listLengths

/-- The lengths of the lists in an adapter. -/
def Adapter.listLengths : Adapter → List Nat
  | lifecycleHook h => h.listLengths
  | oracle o => o.listLengths
  | linkedLifecycleHook h => h.listLengths
  | appData _ => []
  | linkedAppData _ => []
  | dataSection _ => []

theorem Seed.one_le_length (s : Seed) : 1 ≤ s.encode.length := by
  cases s with
  | wellKnown address => cases address <;> exact Nat.le_refl 1
  | address a => exact Nat.le_add_left 1 _
  | bytes b => exact Nat.le_add_left 1 _

/-- The description of an extra account begins with a tag, which stands before its list of seeds. -/
theorem ExtraAccount.listBytes_le_encode (x : ExtraAccount) :
    1 + listBytes x.listLengths ≤ x.encode.length := by
  obtain ⟨source, flags⟩ := x
  cases source with
  | preconfiguredProgram => exact Nat.le_add_left 1 _
  | preconfigured address => cases address <;> exact Nat.le_add_left 1 _
  | customPda seeds program =>
    have hseeds := Wire.listBytes_le_flat seeds Seed.one_le_length
    simp only [encode, encodeSource, listLengths, Wire.u8, List.length_append,
      List.length_singleton]
    omega
  | address a =>
    simp only [encode, encodeSource, listLengths, listBytes_nil, Wire.u8, List.length_append,
      List.length_singleton]
    omega

theorem Hook.listBytes_le_encode (h : Hook) : listBytes h.listLengths ≤ h.encode.length := by
  obtain ⟨hookedProgram, extraAccounts, dataAuthority, schema⟩ := h
  cases extraAccounts with
  | none => exact Nat.zero_le _
  | some list =>
    have hlist : listBytes (list.length :: list.flatMap ExtraAccount.listLengths) ≤
        (Wire.list ExtraAccount.encode list).length :=
      Wire.listBytes_le_list fun x _ => x.listBytes_le_encode
    simp only [encode, listLengths, Wire.option, List.length_append]
    omega

theorem Oracle.listBytes_le_encode (o : Oracle) : listBytes o.listLengths ≤ o.encode.length := by
  obtain ⟨baseAddress, baseAddressConfig, resultsOffset⟩ := o
  cases baseAddressConfig with
  | none => exact Nat.zero_le _
  | some x =>
    have hx := x.listBytes_le_encode
    simp only [encode, listLengths, Wire.option, List.length_append]
    omega

/-- The lists of an adapter fit into its written form. -/
theorem Adapter.listBytes_le_encode (a : Adapter) : listBytes a.listLengths ≤ a.encode.length := by
  have hfields : listBytes a.listLengths ≤ a.encodeFields.length := by
    cases a with
    | lifecycleHook h | linkedLifecycleHook h => exact h.listBytes_le_encode
    | oracle o => exact o.listBytes_le_encode
    | appData | linkedAppData | dataSection => exact Nat.zero_le _
  exact Nat.le_trans hfields (List.suffix_append _ _).length_le

/-- What is read was written with its lists, so these are no more than the bytes that were taken. -/
theorem Exact.listBytes_le_of_read {r : Reader α} {encode : α → Bytes} {fits : α → Prop}
    {listLengths : α → List Nat} (h : Exact r encode fits)
    (hlists : ∀ a, listBytes (listLengths a) ≤ (encode a).length) {data : Bytes} {pos next : Nat}
    {a : α} (hpos : pos ≤ data.length) (hread : r data pos = ⟨.ok a, next⟩) :
    pos + listBytes (listLengths a) ≤ next := by
  obtain ⟨_, hnext⟩ := h.canonical.drop_eq hpos hread
  rw [hnext]
  exact Nat.add_le_add_left (hlists a) pos

/-! ## Lists that are read -/

namespace Reader

/-- The items in a row before a failure take what each of them takes at least. -/
theorem add_le_of_upTo {n count pos next : Nat} {item : Reader α} {data : Bytes} {items : List α}
    (h : TakesAtLeast n item) (hpos : pos ≤ data.length)
    (hread : upTo item count data pos = ⟨.ok items, next⟩) :
    pos + n * items.length ≤ next ∧ next ≤ data.length := by
  induction count generalizing pos items next with
  | zero =>
    cases hread
    exact ⟨Nat.le_refl _, hpos⟩
  | succ count ih =>
    rcases upTo_succ item count data pos with
      ⟨a, mid, rest, _, hitem, hrest, hstep⟩ | ⟨_, _, _, hstep⟩
    · cases hstep.symm.trans hread
      obtain ⟨hmid, hmidLength⟩ := h.add_le hpos hitem
      obtain ⟨hnext, hlength⟩ := ih hmidLength hrest
      refine ⟨?_, hlength⟩
      rw [List.length_cons, Nat.mul_succ]
      omega
    · cases hstep.symm.trans hread
      exact ⟨Nat.le_refl _, hpos⟩

/-- A list takes four bytes for its count, and what each of its items takes at least. -/
theorem add_le_of_list {n pos next : Nat} {what : String} {item : Reader α} {data : Bytes}
    {items : List α} (h : TakesAtLeast n item)
    (hread : list what item data pos = ⟨.ok items, next⟩) :
    pos + (4 + n * items.length) ≤ next ∧ next ≤ data.length := by
  obtain ⟨count, mid, hcount, hitems⟩ := exists_of_bind_eq_ok hread
  obtain ⟨hmid, hmidLength⟩ :=
    (takesAtLeast_u32 what).add_le ((inside_u32 what).le_length hcount) hcount
  obtain ⟨hnext, hlength⟩ := add_le_of_upTo h hmidLength (upTo_of_repeated hitems)
  omega

end Reader

/-- The readers of the items of all the lists that stand in plugins, adapters and adapter records. -/
inductive Reader.ListItem : {α : Type} → Reader α → Prop
  /-- The creators of royalties. -/
  | creator (key : String) : ListItem (Creator.reader key)
  /-- The programs of a rule set, and the delegates who may update. -/
  | address (what : String) : ListItem (Reader.address what)
  /-- The attributes of an asset. -/
  | trait (key : String) : ListItem (Attribute.reader key)
  /-- The signatures of verified creators. -/
  | signature (key : String) : ListItem (CreatorSignature.reader key)
  /-- The autographs on an asset. -/
  | autograph (key : String) : ListItem (AutographSignature.reader key)
  /-- The accounts that a hook asks for. -/
  | extraAccount : ListItem ExtraAccount.reader
  /-- The seeds of an extra account. -/
  | seed : ListItem Seed.reader
  /-- The lifecycle checks of an adapter record. -/
  | check : ListItem AdapterRecord.checkReader

namespace Reader.ListItem

/-- None of the items is empty. -/
theorem takesAtLeast {item : Reader α} (h : ListItem item) : TakesAtLeast 1 item := by
  cases h with
  | creator key => exact (Creator.canonical_reader key).takesAtLeast Creator.one_le_length
  | address what => exact (takesAtLeast_address what).one
  | trait key => exact (Attribute.exact_reader key).canonical.takesAtLeast Attribute.one_le_length
  | signature key =>
    exact (CreatorSignature.canonical_reader key).takesAtLeast CreatorSignature.one_le_length
  | autograph key =>
    exact (AutographSignature.exact_reader key).canonical.takesAtLeast AutographSignature.one_le_length
  | extraAccount =>
    apply ExtraAccount.exact_reader.canonical.takesAtLeast
    intro x
    exact Nat.le_trans (Nat.le_add_right 1 _) x.listBytes_le_encode
  | seed => exact Seed.exact_reader.canonical.takesAtLeast Seed.one_le_length
  | check =>
    have hread : TakesAtLeast (1 + 0) AdapterRecord.checkReader :=
      (takesAtLeast_enum _ _ _).bind fun _ => (composed_u32 _).takes.map
    exact hread

/-- A list has consumed four bytes for its count and at least one for each of its items, all of them
inside the buffer. -/
theorem add_length_le {item : Reader α} (h : ListItem item) {what : String} {data : Bytes}
    {pos next : Nat} {items : List α} (hread : list what item data pos = ⟨.ok items, next⟩) :
    pos + (4 + items.length) ≤ next ∧ next ≤ data.length := by
  simpa only [Nat.one_mul] using add_le_of_list h.takesAtLeast hread

end Reader.ListItem

/-! ## Markers and registry entries -/

theorem Marker.inside_reader (m : Marker) : Inside m.reader := (inside_u8 _).bind

theorem Marker.takesAtLeast_reader (m : Marker) : TakesAtLeast 1 m.reader :=
  (Marker.canonical_reader m).takesAtLeast fun _ => Nat.le_refl 1

namespace Entry

theorem inside_tagReader (settings : Settings) (ofTag? : UInt8 → Option κ) :
    Inside (tagReader settings ofTag?) :=
  .ofPosition fun _ => (inside_u8 _).bind

/-- The first byte of a tag is taken, however wide an unknown tag is. -/
theorem takesAtLeast_tagReader (settings : Settings) (ofTag? : UInt8 → Option κ) :
    TakesAtLeast 1 (tagReader settings ofTag?) := by
  show TakesAtLeast (1 + 0) _
  apply Takes.ofPosition
  intro start
  apply (takesAtLeast_u8 _).bind
  intro tag
  cases ofTag? tag with
  | some kind => exact (Composed.pure _).takes
  | none => exact (Composed.skip _ _).map.takes

/-- An entry is read as its reader reads it. -/
theorem readAt_eq_ok_iff {reader : Reader (Entry α)} {data : Bytes} {pos next : Nat}
    {entry : Entry α} :
    readAt reader data pos = ⟨.ok entry, next⟩ ↔ reader data pos = ⟨.ok entry, next⟩ := by
  rw [readAt]
  rcases reader data pos with ⟨e | found, last⟩
  · constructor <;> intro h <;> cases h
  · rfl

/-- An entry that can be read is followed by what its reader leaves; only after a failure would the
next entry be looked for at the end of the buffer. -/
theorem read_of_readAt {reader : Reader (Entry α)} {data : Bytes} {pos : Nat} {entry : Entry α}
    (h : (readAt reader data pos).result = .ok entry) :
    reader data pos = ⟨.ok entry, (readAt reader data pos).next⟩ :=
  readAt_eq_ok_iff.mp (by rw [← h])

end Entry

namespace PluginRecord

theorem inside_entryReader (settings : Settings) : Inside (entryReader settings) :=
  (Entry.inside_tagReader settings _).bind

/-- A tag, an authority and an offset. -/
theorem takesAtLeast_entryReader (settings : Settings) : TakesAtLeast 10 (entryReader settings) := by
  show TakesAtLeast (1 + (1 + 8)) _
  apply (Entry.takesAtLeast_tagReader settings _).bind
  intro tag
  apply Authority.takesAtLeast_reader.bind
  intro authority
  exact (takesAtLeast_u64 _).map

end PluginRecord

namespace AdapterRecord

theorem inside_entryReader (settings : Settings) : Inside (entryReader settings) :=
  (Entry.inside_tagReader settings _).bind

/-- A tag, an authority, an offset, and the markers of the checks and of the place of the data. -/
theorem takesAtLeast_entryReader (settings : Settings) : TakesAtLeast 13 (entryReader settings) := by
  show TakesAtLeast (1 + (1 + (1 + (8 + (1 + 1))))) _
  apply (Entry.takesAtLeast_tagReader settings _).bind
  intro tag
  apply Authority.takesAtLeast_reader.bind
  intro authority
  apply (takesAtLeast_option _ composed_checksReader).bind
  intro checks
  apply (takesAtLeast_u64 _).bind
  intro offset
  apply (takesAtLeast_option _ (composed_u64 _)).bind
  intro dataOffset
  exact (takesAtLeast_option _ (composed_u64 _)).map

end AdapterRecord

end DigitalAsset
