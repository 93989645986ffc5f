import DigitalAsset.Codec.Reader
import DigitalAsset.Codec.Wire
import Mathlib.Algebra.Group.Nat.Defs
import Mathlib.Data.List.Forall2

/-!
# What a reader takes for what

`Reads r bytes a` says that the reader `r` takes exactly `bytes` and answers `a`, wherever in a
buffer they stand.  `Yields r bytes P` is the weaker statement for a reader whose answer may depend
on the position: it answers something that `P` holds of.

Every primitive reads its own written form, and the composites read the written form of their parts.
The bound `2 ^ 32` on lengths is the only condition: a longer string or list has no written form.
-/

namespace DigitalAsset

/-- The reader takes `bytes` and answers `a`, whatever stands before and after them. -/
def Reads (r : Reader α) (bytes : Bytes) (a : α) : Prop :=
  ∀ front back : Bytes,
    r (front ++ (bytes ++ back)) front.length = ⟨.ok a, front.length + bytes.length⟩

/-- The reader takes `bytes` and answers something with the property `P`, whatever stands before and
after them. -/
def Yields (r : Reader α) (bytes : Bytes) (P : α → Prop) : Prop :=
  ∀ front back : Bytes, ∃ a,
    r (front ++ (bytes ++ back)) front.length = ⟨.ok a, front.length + bytes.length⟩ ∧ P a

/-- A position inside a buffer divides it. -/
theorem Bytes.exists_front {data : Bytes} {pos : Nat} (h : pos ≤ data.length) :
    ∃ front rest, data = front ++ rest ∧ front.length = pos :=
  ⟨data.take pos, data.drop pos, (List.take_append_drop pos data).symm, List.length_take_of_le h⟩

/-- Bytes that stand at a position inside a buffer end inside it. -/
theorem Bytes.add_length_le {bytes data : Bytes} {pos : Nat} (hpos : pos ≤ data.length)
    (h : bytes <+: data.drop pos) : pos + bytes.length ≤ data.length := by
  have hlength := h.length_le
  rw [List.length_drop] at hlength
  omega

/-! ## Running readers in turn -/

theorem Reader.bind_apply (r : Reader α) (f : α → Reader β) (data : Bytes) (pos : Nat) :
    (r >>= f) data pos =
      match r data pos with
      | ⟨.ok a, next⟩ => f a data next
      | ⟨.error e, next⟩ => ⟨.error e, next⟩ :=
  rfl

/-- After a reader that succeeds the next one starts where it stopped. -/
theorem Reader.bind_of_ok {r : Reader α} {f : α → Reader β} {data : Bytes} {pos next : Nat} {a : α}
    (h : r data pos = ⟨.ok a, next⟩) : (r >>= f) data pos = f a data next := by
  rw [Reader.bind_apply, h]

/-- If two readers in a row succeed then each does, the second from where the first stopped. -/
theorem Reader.exists_of_bind_eq_ok {r : Reader α} {f : α → Reader β} {data : Bytes} {pos next : Nat}
    {b : β} (h : (r >>= f) data pos = ⟨.ok b, next⟩) :
    ∃ a mid, r data pos = ⟨.ok a, mid⟩ ∧ f a data mid = ⟨.ok b, next⟩ := by
  rw [Reader.bind_apply] at h
  split at h
  · rename_i a mid hr
    exact ⟨a, mid, hr, h⟩
  · cases h

namespace Reads

theorem value {r : Reader α} {bytes : Bytes} {a : α} (h : Reads r bytes a) (front back : Bytes) :
    r.value (front ++ (bytes ++ back)) front.length = .ok a := by
  rw [Reader.value, h front back]

theorem yields {r : Reader α} {bytes : Bytes} {a : α} {P : α → Prop} (h : Reads r bytes a)
    (ha : P a) : Yields r bytes P :=
  fun front back => ⟨a, h front back, ha⟩

theorem of_yields_eq {r : Reader α} {bytes : Bytes} {a : α} (h : Yields r bytes (· = a)) :
    Reads r bytes a := by
  intro front back
  obtain ⟨a', hread, rfl⟩ := h front back
  exact hread

theorem pure (a : α) : Reads (Pure.pure a) [] a := fun _ _ => rfl

end Reads

/-- The bytes of two readers in a row stand next to each other. -/
theorem Yields.bind {r : Reader α} {f : α → Reader β} {xs ys : Bytes} {P : α → Prop}
    {Q : β → Prop} (hr : Yields r xs P) (hf : ∀ a, P a → Yields (f a) ys Q) :
    Yields (r >>= f) (xs ++ ys) Q := by
  intro front back
  obtain ⟨a, hra, hPa⟩ := hr front (ys ++ back)
  -- What the first reader took belongs to the front of the second.
  obtain ⟨b, hfb, hQb⟩ := hf a hPa (front ++ xs) back
  refine ⟨b, ?_, hQb⟩
  rw [List.append_assoc, Reader.bind_of_ok hra]
  simpa [List.append_assoc, Nat.add_assoc] using hfb

namespace Reads

theorem bind_yields {r : Reader α} {f : α → Reader β} {xs ys : Bytes} {a : α} {P : β → Prop}
    (hr : Reads r xs a) (hf : Yields (f a) ys P) : Yields (r >>= f) (xs ++ ys) P := by
  apply (hr.yields (P := (· = a)) rfl).bind
  rintro a' rfl
  exact hf

theorem bind {r : Reader α} {f : α → Reader β} {xs ys : Bytes} {a : α} {b : β} (hr : Reads r xs a)
    (hf : Reads (f a) ys b) : Reads (r >>= f) (xs ++ ys) b :=
  of_yields_eq (hr.bind_yields (hf.yields rfl))

/-- Nothing is taken after the first reader. -/
theorem bind_nil {r : Reader α} {f : α → Reader β} {bytes : Bytes} {a : α} {b : β}
    (hr : Reads r bytes a) (hf : Reads (f a) [] b) : Reads (r >>= f) bytes b := by
  simpa using hr.bind hf

theorem map {r : Reader α} {f : α → β} {bytes : Bytes} {a : α} (h : Reads r bytes a) :
    Reads (r >>= fun a => Pure.pure (f a)) bytes (f a) :=
  h.bind_nil (Reads.pure (f a))

/-- A reader that first asks for its position reads what it reads from every position. -/
theorem ofPosition {f : Nat → Reader α} {bytes : Bytes} {a : α} (h : ∀ start, Reads (f start) bytes a) :
    Reads (Reader.position >>= f) bytes a :=
  fun front back => h front.length front back

end Reads

namespace Yields

theorem imp {r : Reader α} {bytes : Bytes} {P Q : α → Prop} (h : Yields r bytes P)
    (hPQ : ∀ a, P a → Q a) : Yields r bytes Q := by
  intro front back
  obtain ⟨a, hread, ha⟩ := h front back
  exact ⟨a, hread, hPQ a ha⟩

theorem ofPosition {f : Nat → Reader α} {bytes : Bytes} {P : α → Prop}
    (h : ∀ start, Yields (f start) bytes P) : Yields (Reader.position >>= f) bytes P :=
  fun front back => h front.length front back

theorem map {r : Reader α} {f : α → β} {bytes : Bytes} {P : α → Prop} {Q : β → Prop}
    (h : Yields r bytes P) (hPQ : ∀ a, P a → Q (f a)) :
    Yields (r >>= fun a => Pure.pure (f a)) bytes Q := by
  simpa using h.bind fun a ha => (Reads.pure (f a)).yields (hPQ a ha)

end Yields

/-! ## Primitives -/

/-- Reading a number that was written gives it back, up to its width. -/
theorem Bytes.toNatLE_ofNatLE (width n : Nat) : (ofNatLE width n).toNatLE = n % 256 ^ width := by
  induction width generalizing n with
  | zero => simp [ofNatLE, toNatLE, Nat.mod_one]
  | succ width ih =>
    rw [ofNatLE, toNatLE, ih, Nat.pow_succ', Nat.mod_mul, UInt8.toNat_ofNat']

/-- A count is written in four bytes. -/
theorem Wire.length_count (n : Nat) : (count n).length = 4 := Bytes.length_ofNatLE 4 _

namespace Reader

theorem takeExactly_append {bytes : Bytes} {width : Nat} (h : bytes.length = width) (back : Bytes) :
    takeExactly width (bytes ++ back) = .ok (bytes, width) := by
  subst h
  simp [takeExactly]

theorem reads_primitive {what : String} {parse : Bytes → Except Reason (α × Nat)} {bytes : Bytes}
    {a : α} (h : ∀ back, parse (bytes ++ back) = .ok (a, bytes.length)) :
    Reads (primitive what parse) bytes a := by
  intro front back
  have hin : ¬ (front ++ (bytes ++ back)).length < front.length := by simp
  rw [primitive, if_neg hin, List.drop_left, h]

theorem reads_bytes (what : String) {bytes : Bytes} {width : Nat} (h : bytes.length = width) :
    Reads (Reader.bytes what width) bytes bytes := by
  apply reads_primitive
  intro back
  rw [takeExactly_append h, h]

theorem reads_nat (what : String) (width n : Nat) :
    Reads (nat what width) (Bytes.ofNatLE width n) (n % 256 ^ width) := by
  apply reads_primitive
  intro back
  rw [takeExactly_append (Bytes.length_ofNatLE width n), Bytes.length_ofNatLE]
  simp only [Except.map, Bytes.toNatLE_ofNatLE]

theorem reads_u8 (what : String) (n : UInt8) : Reads (u8 what) (Wire.u8 n) n := by
  have h := (reads_nat what 1 n.toNat).map (f := UInt8.ofNat)
  have hbytes : Bytes.ofNatLE 1 n.toNat = Wire.u8 n := by simp [Bytes.ofNatLE, Wire.u8]
  rwa [Nat.mod_eq_of_lt (by simpa using n.toNat_lt), UInt8.ofNat_toNat, hbytes] at h

theorem reads_u16 (what : String) (n : UInt16) : Reads (u16 what) (Wire.u16 n) n := by
  have h := (reads_nat what 2 n.toNat).map (f := UInt16.ofNat)
  rwa [Nat.mod_eq_of_lt (by simpa using n.toNat_lt), UInt16.ofNat_toNat] at h

theorem reads_u32 (what : String) (n : UInt32) : Reads (u32 what) (Wire.u32 n) n := by
  have h := (reads_nat what 4 n.toNat).map (f := UInt32.ofNat)
  rwa [Nat.mod_eq_of_lt (by simpa using n.toNat_lt), UInt32.ofNat_toNat] at h

theorem reads_u64 (what : String) (n : UInt64) : Reads (u64 what) (Wire.u64 n) n := by
  have h := (reads_nat what 8 n.toNat).map (f := UInt64.ofNat)
  rwa [Nat.mod_eq_of_lt (by simpa using n.toNat_lt), UInt64.ofNat_toNat] at h

theorem reads_bool (what : String) (b : Bool) : Reads (bool what) (Wire.bool b) b := by
  apply reads_primitive
  intro back
  cases b <;> rfl

theorem reads_address (what : String) (a : Address) : Reads (address what) (Wire.address a) a := by
  have h := (reads_bytes what a.length_eq).map (f := Address.ofPrefix)
  rwa [Address.ofPrefix_bytes] at h

/-- Stepping over bytes takes as many as were asked for. -/
theorem reads_skip (what : String) {bytes : Bytes} {width : Nat} (h : bytes.length = width) :
    Reads (skip what width) bytes () := by
  intro front back
  have hin : ¬ remaining (front ++ (bytes ++ back)) front.length < width := by
    simp [remaining, h]
  rw [skip, if_neg hin, h]

theorem toNat_count {n : Nat} (h : n < 2 ^ 32) : (UInt32.ofNat n).toNat = n :=
  UInt32.toNat_ofNat_of_lt' h

/-- A byte string behind four bytes with its length is parsed, whatever follows. -/
theorem lengthPrefixed_append {header body : Bytes} (hfour : header.length = 4)
    (hlength : header.toNatLE = body.length) (back : Bytes) :
    lengthPrefixed (header ++ (body ++ back)) = .ok (body, 4 + body.length) := by
  have hdrop : (header ++ (body ++ back)).drop 4 = body ++ back := by rw [← hfour, List.drop_left]
  simp only [lengthPrefixed, takeExactly_append hfour, hdrop, hlength, takeExactly_append rfl, bind,
    Except.bind, pure, Except.pure]

theorem lengthPrefixed_blob {bytes : Bytes} (h : bytes.length < 2 ^ 32) (back : Bytes) :
    lengthPrefixed (Wire.blob bytes ++ back) = .ok (bytes, (Wire.blob bytes).length) := by
  have hcount : (Wire.count bytes.length).length = 4 := Wire.length_count _
  have hvalue : (Wire.count bytes.length).toNatLE = bytes.length := by
    rw [Wire.count, Wire.u32, Bytes.toNatLE_ofNatLE, toNat_count h]
    exact Nat.mod_eq_of_lt h
  rw [Wire.blob, List.append_assoc, lengthPrefixed_append hcount hvalue, List.length_append, hcount]

theorem reads_blob (what : String) {bytes : Bytes} (h : bytes.length < 2 ^ 32) :
    Reads (blob what) (Wire.blob bytes) bytes :=
  reads_primitive (lengthPrefixed_blob h)

theorem reads_string (what : String) {s : String} (h : s.utf8ByteSize < 2 ^ 32) :
    Reads (string what) (Wire.string s) s := by
  apply reads_primitive
  intro back
  have hlength : (Utf8.encode s).length < 2 ^ 32 := h
  rw [Wire.string, lengthPrefixed_blob hlength]
  simp only [bind, Except.bind, Utf8.decode_encode]
  rfl

/-! ## Composites -/

/-- An optional value that is read as another value than it is written from. -/
theorem reads_option_map {what : String} {item : Reader β} {encode : α → Bytes} {value : α → β}
    {a? : Option α} (h : ∀ a ∈ a?, Reads item (encode a) (value a)) :
    Reads (option what item) (Wire.option encode a?) (a?.map value) := by
  apply Reads.ofPosition
  intro start
  cases a? with
  | none => exact (reads_u8 what 0).bind_nil (Reads.pure none)
  | some a => exact (reads_u8 what 1).bind (h a rfl).map

theorem reads_option {what : String} {item : Reader α} {encode : α → Bytes} {a? : Option α}
    (h : ∀ a ∈ a?, Reads item (encode a) a) :
    Reads (option what item) (Wire.option encode a?) a? := by
  have hread : Reads (option what item) (Wire.option encode a?) (a?.map id) := reads_option_map h
  rwa [Option.map_id_apply] at hread

/-- A tag and what it selects. -/
theorem reads_tagged {what noun : String} {select : UInt8 → Option (Reader α)} {tag : UInt8}
    {r : Reader α} {bytes : Bytes} {a : α} (hselect : select tag = some r) (h : Reads r bytes a) :
    Reads (tagged what noun select) (Wire.u8 tag ++ bytes) a := by
  apply Reads.ofPosition
  intro start
  apply (reads_u8 what tag).bind
  rw [hselect]
  exact h

/-- A tag that says everything. -/
theorem reads_tagged_pure {what noun : String} {select : UInt8 → Option (Reader α)} {tag : UInt8}
    {a : α} (hselect : select tag = some (pure a)) :
    Reads (tagged what noun select) (Wire.u8 tag) a := by
  simpa using reads_tagged hselect (Reads.pure a)

/-- Items in a row are read one by one, each from its own bytes. -/
theorem yields_repeated {item : Reader β} {encode : α → Bytes} {P : α → β → Prop} {items : List α}
    (h : ∀ a ∈ items, Yields item (encode a) (P a)) :
    Yields (repeated item items.length) (items.flatMap encode) (List.Forall₂ P items) := by
  induction items with
  | nil => exact (Reads.pure []).yields .nil
  | cons a rest ih =>
    apply (h a List.mem_cons_self).bind
    intro b hb
    apply (ih fun c hc => h c (List.mem_cons_of_mem a hc)).map
    intro bs hbs
    exact .cons hb hbs

/-- A list that is read to its end is also read to its end by the reader that may stop early. -/
theorem upTo_of_repeated {item : Reader α} {count : Nat} {data : Bytes} {pos next : Nat}
    {items : List α} (h : repeated item count data pos = ⟨.ok items, next⟩) :
    upTo item count data pos = ⟨.ok items, next⟩ := by
  induction count generalizing pos items with
  | zero => exact h
  | succ count ih =>
    obtain ⟨a, mid, hitem, hrest⟩ := exists_of_bind_eq_ok h
    obtain ⟨rest, last, hrepeated, hdone⟩ := exists_of_bind_eq_ok hrest
    cases hdone
    simp only [upTo, hitem, ih hrepeated]

theorem yields_list (what : String) {item : Reader β} {encode : α → Bytes} {P : α → β → Prop}
    {items : List α} (hlength : items.length < 2 ^ 32)
    (h : ∀ a ∈ items, Yields item (encode a) (P a)) :
    Yields (list what item) (Wire.list encode items) (List.Forall₂ P items) := by
  apply (reads_u32 what (UInt32.ofNat items.length)).bind_yields
  rw [toNat_count hlength]
  exact yields_repeated h

/-- A list whose items are read as other values than they are written from. -/
theorem reads_list_map (what : String) {item : Reader β} {encode : α → Bytes} {value : α → β}
    {items : List α} (hlength : items.length < 2 ^ 32)
    (h : ∀ a ∈ items, Reads item (encode a) (value a)) :
    Reads (list what item) (Wire.list encode items) (items.map value) := by
  have hitems : Yields (list what item) (Wire.list encode items)
      (List.Forall₂ (fun a b => b = value a) items) :=
    yields_list what hlength fun a ha => (h a ha).yields rfl
  intro front back
  obtain ⟨read, hread, hvalues⟩ := hitems front back
  have hsame : items.map value = read := by
    rw [← List.forall₂_eq_eq_eq, List.forall₂_map_left_iff]
    exact hvalues.imp fun a b hab => hab.symm
  rw [hread, hsame]

theorem reads_list (what : String) {item : Reader α} {encode : α → Bytes} {items : List α}
    (hlength : items.length < 2 ^ 32) (h : ∀ a ∈ items, Reads item (encode a) a) :
    Reads (list what item) (Wire.list encode items) items := by
  have hread := reads_list_map what hlength h
  rwa [List.map_id'] at hread

end Reader

end DigitalAsset
