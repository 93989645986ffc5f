import DigitalAsset.Proofs.Codec.Composition

/-!
# Only written forms are read

`Canonical r encode` says that a successful `r` has taken exactly the bytes that its answer is written
as.  No byte is ignored, and no value is read from two different byte strings.  It is the converse of
`Reads`, and needs no bound on lengths: a length that was read has 32 bits.

`Takes r P` is the general form, in which the bytes taken and the answer stand in any relation.  The
readers in a row need it, because only the last of them knows the value that all the bytes make.
-/

namespace DigitalAsset

/-- What the reader takes stands in the relation `P` to what it answers. -/
structure Takes (r : Reader α) (P : α → Bytes → Prop) : Prop where
  of_ok : ∀ {front rest : Bytes} {a : α} {next : Nat},
    r (front ++ rest) front.length = ⟨.ok a, next⟩ →
      ∃ bytes back, rest = bytes ++ back ∧ next = front.length + bytes.length ∧ P a bytes

/-- The reader takes the written form of what it answers. -/
def Canonical (r : Reader α) (encode : α → Bytes) : Prop := Takes r fun a bytes => bytes = encode a

/-! ## Running readers in turn -/

namespace Takes

theorem pure {a : α} {P : α → Bytes → Prop} (h : P a []) : Takes (Pure.pure a) P where
  of_ok := by
    intro front rest a' next hread
    cases hread
    exact ⟨[], rest, rfl, rfl, h⟩

theorem fail {e : Error} {P : α → Bytes → Prop} : Takes (Reader.fail e) P where
  of_ok := by
    intro front rest a next hread
    cases hread

theorem imp {r : Reader α} {P Q : α → Bytes → Prop} (h : Takes r P)
    (hPQ : ∀ a bytes, P a bytes → Q a bytes) : Takes r Q where
  of_ok := by
    intro front rest a next hread
    obtain ⟨bytes, back, hrest, hnext, hP⟩ := h.of_ok hread
    exact ⟨bytes, back, hrest, hnext, hPQ a bytes hP⟩

/-- What two readers in a row take stands next to each other. -/
theorem bind {r : Reader α} {f : α → Reader β} {P : α → Bytes → Prop} {Q : β → Bytes → Prop}
    (hr : Takes r P) (hf : ∀ a xs, P a xs → Takes (f a) fun b ys => Q b (xs ++ ys)) :
    Takes (r >>= f) Q where
  of_ok := by
    intro front rest b next hread
    obtain ⟨a, mid, hfirst, hsecond⟩ := Reader.exists_of_bind_eq_ok hread
    obtain ⟨xs, rest, rfl, rfl, hxs⟩ := hr.of_ok hfirst
    -- What the first reader takes belongs to the front of the second.
    rw [← List.append_assoc, ← List.length_append] at hsecond
    obtain ⟨ys, back, rfl, rfl, hys⟩ := (hf a xs hxs).of_ok hsecond
    exact ⟨xs ++ ys, back, by simp, by simp [Nat.add_assoc], hys⟩

theorem map {r : Reader α} {f : α → β} {P : α → Bytes → Prop} {Q : β → Bytes → Prop}
    (h : Takes r P) (hPQ : ∀ a bytes, P a bytes → Q (f a) bytes) :
    Takes (r >>= fun a => Pure.pure (f a)) Q := by
  apply h.bind
  intro a bytes hP
  apply Takes.pure
  rw [List.append_nil]
  exact hPQ a bytes hP

theorem ofPosition {f : Nat → Reader α} {P : α → Bytes → Prop} (h : ∀ start, Takes (f start) P) :
    Takes (Reader.position >>= f) P where
  of_ok := fun {front} => (h front.length).of_ok

/-- In a buffer, what was taken stands at the position where the reader began. -/
theorem exists_taken {r : Reader α} {P : α → Bytes → Prop} (h : Takes r P) {data : Bytes}
    {pos next : Nat} {a : α} (hpos : pos ≤ data.length) (hread : r data pos = ⟨.ok a, next⟩) :
    ∃ bytes, bytes <+: data.drop pos ∧ next = pos + bytes.length ∧ P a bytes := by
  obtain ⟨front, rest, rfl, rfl⟩ := Bytes.exists_front hpos
  obtain ⟨bytes, back, rfl, rfl, hP⟩ := h.of_ok hread
  refine ⟨bytes, ?_, rfl, hP⟩
  rw [List.drop_left]
  exact List.prefix_append bytes back

/-- So it stands between that position and the one where the reader stopped. -/
theorem window {r : Reader α} {P : α → Bytes → Prop} (h : Takes r P) {data : Bytes} {pos next : Nat}
    {a : α} (hpos : pos ≤ data.length) (hread : r data pos = ⟨.ok a, next⟩) :
    pos ≤ next ∧ next ≤ data.length ∧ P a ((data.drop pos).take (next - pos)) := by
  obtain ⟨bytes, hbytes, rfl, hP⟩ := h.exists_taken hpos hread
  refine ⟨Nat.le_add_right _ _, Bytes.add_length_le hpos hbytes, ?_⟩
  rwa [Nat.add_sub_cancel_left, ← List.prefix_iff_eq_take.mp hbytes]

end Takes

namespace Canonical

theorem bind {r : Reader α} {f : α → Reader β} {encode : α → Bytes} {Q : β → Bytes → Prop}
    (hr : Canonical r encode) (hf : ∀ a, Takes (f a) fun b ys => Q b (encode a ++ ys)) :
    Takes (r >>= f) Q := by
  apply Takes.bind hr
  rintro a _ rfl
  exact hf a

theorem map {r : Reader α} {f : α → β} {encode : α → Bytes} {Q : β → Bytes → Prop}
    (h : Canonical r encode) (hQ : ∀ a, Q (f a) (encode a)) :
    Takes (r >>= fun a => Pure.pure (f a)) Q := by
  apply Takes.map h
  rintro a _ rfl
  exact hQ a

/-- In a buffer the written form stands at the place where it was read. -/
theorem drop_eq {r : Reader α} {encode : α → Bytes} (h : Canonical r encode) {data : Bytes}
    {pos next : Nat} {a : α} (hpos : pos ≤ data.length) (hread : r data pos = ⟨.ok a, next⟩) :
    data.drop pos = encode a ++ data.drop next ∧ next = pos + (encode a).length := by
  obtain ⟨hle, hnext, hbytes⟩ := Takes.window h hpos hread
  have hrest : data.drop next = (data.drop pos).drop (next - pos) := by
    rw [List.drop_drop, Nat.add_sub_cancel' hle]
  rw [← hbytes, hrest, List.take_append_drop, List.length_take, List.length_drop]
  exact ⟨rfl, by omega⟩

end Canonical

/-! ## Primitives -/

theorem Bytes.toNatLE_lt (bytes : Bytes) : bytes.toNatLE < 256 ^ bytes.length := by
  have hmod := toNatLE_ofNatLE bytes.length bytes.toNatLE
  rw [ofNatLE_toNatLE] at hmod
  rw [hmod]
  exact Nat.mod_lt _ (Nat.pow_pos (by decide))

namespace Reader

theorem takes_primitive {what : String} {parse : Bytes → Except Reason (α × Nat)}
    {P : α → Bytes → Prop}
    (h : ∀ {rest : Bytes} {a : α} {width : Nat}, parse rest = .ok (a, width) →
      ∃ bytes back, rest = bytes ++ back ∧ width = bytes.length ∧ P a bytes) :
    Takes (primitive what parse) P where
  of_ok := by
    intro front rest a next hread
    have hin : ¬ (front ++ rest).length < front.length := by simp
    rw [primitive, if_neg hin, List.drop_left] at hread
    split at hread
    · rename_i value width hparse
      cases hread
      obtain ⟨bytes, back, rfl, rfl, hP⟩ := h hparse
      exact ⟨bytes, back, rfl, rfl, hP⟩
    · cases hread

theorem takes_bytes (what : String) (width : Nat) :
    Takes (bytes what width) fun answer taken => taken = answer ∧ answer.length = width := by
  apply takes_primitive
  intro rest taken w h
  obtain ⟨hlength, rfl, back, rfl⟩ := takeExactly_eq_ok h
  exact ⟨taken, back, rfl, hlength.symm, rfl, hlength⟩

theorem takes_nat (what : String) (width : Nat) :
    Takes (nat what width) fun n taken => taken = Bytes.ofNatLE width n ∧ n < 256 ^ width := by
  apply takes_primitive
  intro rest n w h
  obtain ⟨⟨taken, _⟩, htaken, hdone⟩ := Traversal.map_eq_ok_iff.mp h
  cases hdone
  obtain ⟨rfl, rfl, back, rfl⟩ := takeExactly_eq_ok htaken
  exact ⟨taken, back, rfl, rfl, taken.ofNatLE_toNatLE.symm, taken.toNatLE_lt⟩

theorem canonical_u8 (what : String) : Canonical (u8 what) Wire.u8 := by
  apply (takes_nat what 1).map
  rintro n _ ⟨rfl, _⟩
  rfl

theorem canonical_u16 (what : String) : Canonical (u16 what) Wire.u16 := by
  apply (takes_nat what 2).map
  rintro n _ ⟨rfl, hn⟩
  rw [Wire.u16, UInt16.toNat_ofNat_of_lt' hn]

theorem canonical_u32 (what : String) : Canonical (u32 what) Wire.u32 := by
  apply (takes_nat what 4).map
  rintro n _ ⟨rfl, hn⟩
  rw [Wire.u32, UInt32.toNat_ofNat_of_lt' hn]

theorem canonical_u64 (what : String) : Canonical (u64 what) Wire.u64 := by
  apply (takes_nat what 8).map
  rintro n _ ⟨rfl, hn⟩
  rw [Wire.u64, UInt64.toNat_ofNat_of_lt' hn]

theorem canonical_address (what : String) : Canonical (address what) Wire.address := by
  apply (takes_bytes what 32).map
  rintro bytes _ ⟨rfl, hlength⟩
  rw [Wire.address, Address.bytes_ofPrefix hlength]

theorem canonical_bool (what : String) : Canonical (bool what) Wire.bool := by
  apply takes_primitive
  rintro (_ | ⟨b, rest⟩) value width h
  · cases h
  · dsimp only at h
    split_ifs at h with hzero hone
    · cases h
      exact ⟨[b], rest, rfl, rfl, by rw [hzero]; rfl⟩
    · cases h
      exact ⟨[b], rest, rfl, rfl, by rw [hone]; rfl⟩

/-- A parsed byte string is the one that was written, and its length has 32 bits. -/
theorem eq_blob_of_lengthPrefixed {rest body : Bytes} {width : Nat}
    (h : lengthPrefixed rest = .ok (body, width)) :
    ∃ back, rest = Wire.blob body ++ back ∧ width = (Wire.blob body).length ∧
      body.length < 2 ^ 32 := by
  obtain ⟨header, back, rfl, hfour, hlength, rfl⟩ := lengthPrefixed_eq_ok h
  have hbound : body.length < 2 ^ 32 := by
    have hheader := header.toNatLE_lt
    rwa [hfour, hlength] at hheader
  have hcount : Wire.count body.length = header := by
    rw [Wire.count, Wire.u32, UInt32.toNat_ofNat_of_lt' hbound, ← hlength, ← hfour,
      Bytes.ofNatLE_toNatLE]
  refine ⟨back, ?_, ?_, hbound⟩
  · rw [Wire.blob, hcount, List.append_assoc]
  · rw [Wire.blob, hcount, List.length_append, hfour]

theorem takes_string (what : String) :
    Takes (string what) fun s bytes => s.utf8ByteSize < 2 ^ 32 ∧ bytes = Wire.string s := by
  apply takes_primitive
  intro rest s width h
  obtain ⟨⟨body, w⟩, hbody, htext⟩ := Traversal.bind_eq_ok_iff.mp h
  obtain ⟨back, rfl, rfl, hlength⟩ := eq_blob_of_lengthPrefixed hbody
  dsimp only at htext
  split at htext
  · rename_i text hdecode
    cases htext
    obtain rfl := Utf8.eq_encode_of_decode hdecode
    exact ⟨_, back, rfl, rfl, hlength, rfl⟩
  · cases htext

theorem canonical_string (what : String) : Canonical (string what) Wire.string :=
  (takes_string what).imp fun _ _ h => h.2

/-! ## Composites -/

/-- A marker says whether there is an item, and then the item follows. -/
theorem takes_option (what : String) {item : Reader α} {P : α → Bytes → Prop}
    (h : Takes item P) :
    Takes (option what item) fun a? bytes =>
      match a? with
      | none => bytes = Wire.u8 0
      | some a => ∃ body, bytes = Wire.u8 1 ++ body ∧ P a body := by
  apply Takes.ofPosition
  intro start
  apply (canonical_u8 what).bind
  intro marker
  -- Only the markers 0 and 1 are read.
  split_ifs with hzero hone
  · rw [hzero]
    exact .pure rfl
  · rw [hone]
    exact h.map fun a body hbody => ⟨body, rfl, hbody⟩
  · exact .fail

theorem canonical_option (what : String) {item : Reader α} {encode : α → Bytes}
    (h : Canonical item encode) : Canonical (option what item) (Wire.option encode) := by
  apply (takes_option what h).imp
  rintro (_ | a) bytes htaken
  · exact htaken
  · obtain ⟨_, rfl, rfl⟩ := htaken
    rfl

/-- A tag is written before what it selects. -/
theorem takes_tagged (what noun : String) {select : UInt8 → Option (Reader α)}
    {P : α → Bytes → Prop}
    (h : ∀ tag, ∀ r ∈ select tag, Takes r fun a bytes => P a (Wire.u8 tag ++ bytes)) :
    Takes (tagged what noun select) P := by
  apply Takes.ofPosition
  intro start
  apply (canonical_u8 what).bind
  intro tag
  cases hselect : select tag with
  | none => exact .fail
  | some r => exact h tag r hselect

end Reader

open Reader

/-! ## Authorities -/

theorem Authority.canonical_reader : Canonical Authority.reader encode := by
  apply takes_tagged
  intro tag r hr
  split_ifs at hr with hnone howner hupdate haddress <;> cases hr
  · rw [hnone]
    exact .pure rfl
  · rw [howner]
    exact .pure rfl
  · rw [hupdate]
    exact .pure rfl
  · rw [haddress]
    exact (canonical_address _).map fun a => rfl

theorem UpdateAuthority.canonical_reader : Canonical UpdateAuthority.reader encode := by
  apply takes_tagged
  intro tag r hr
  split_ifs at hr with hnone haddress hcollection <;> cases hr
  · rw [hnone]
    exact .pure rfl
  · rw [haddress]
    exact (canonical_address _).map fun a => rfl
  · rw [hcollection]
    exact (canonical_address _).map fun a => rfl

/-! ## Base records and headers -/

theorem Marker.canonical_reader (expected : Marker) :
    Canonical expected.reader fun _ => Wire.u8 expected.tag := by
  apply (canonical_u8 _).bind
  intro found
  split_ifs with hfound
  · rw [hfound]
    exact .pure rfl
  · exact .fail

theorem PluginHeader.canonical_reader : Canonical PluginHeader.reader encode := by
  apply (Marker.canonical_reader _).bind
  intro _
  exact (canonical_u64 _).map fun offset => rfl

theorem AssetBase.canonical_reader : Canonical AssetBase.reader encode := by
  apply (Marker.canonical_reader _).bind
  intro _
  apply (canonical_address _).bind
  intro owner
  apply UpdateAuthority.canonical_reader.bind
  intro updateAuthority
  apply (canonical_string _).bind
  intro name
  apply (canonical_string _).bind
  intro uri
  apply (canonical_option _ (canonical_u64 _)).map
  intro seq
  simp only [encode, List.append_assoc]

theorem CollectionBase.canonical_reader : Canonical CollectionBase.reader encode := by
  apply (Marker.canonical_reader _).bind
  intro _
  apply (canonical_address _).bind
  intro updateAuthority
  apply (canonical_string _).bind
  intro name
  apply (canonical_string _).bind
  intro uri
  apply (canonical_u32 _).bind
  intro numMinted
  apply (canonical_u32 _).map
  intro currentSize
  simp only [encode, List.append_assoc]

end DigitalAsset
