import DigitalAsset.Codec.Layout
import DigitalAsset.Proofs.Codec.Progress

/-!
# Scripts of reading operations

A script runs operations one after the other, each from where the one before it stopped.  An
operation is a layout that reads on from its position: a primitive, or an option or list of
operations (`Layout.Sequential`); what is looked up elsewhere in the buffer is not one.

`Layout.pieces` lists the primitives that an operation reads before it ends or fails.  They stand in a
row (`Piece.Row`), and an operation stops where the last of them does, whether it fails or not.
-/

namespace DigitalAsset

open Reader

/-! ## Moving forward -/

/-- From `pos` to `next` a reader does not move, or it moves forward inside the buffer. -/
def Advances (data : Bytes) (pos next : Nat) : Prop :=
  next = pos ∨ pos ≤ next ∧ next ≤ data.length

namespace Advances

variable {data : Bytes} {pos mid next : Nat}

theorem refl (data : Bytes) (pos : Nat) : Advances data pos pos := .inl rfl

theorem trans (hfirst : Advances data pos mid) (hsecond : Advances data mid next) :
    Advances data pos next := by
  unfold Advances at *
  omega

theorem le (h : Advances data pos next) : pos ≤ next := by
  unfold Advances at h
  omega

/-- Inside the buffer it stays inside. -/
theorem le_length (h : Advances data pos next) (hpos : pos ≤ data.length) : next ≤ data.length := by
  unfold Advances at h
  omega

/-- Beyond the buffer it stays where it is. -/
theorem eq_of_length_lt (h : Advances data pos next) (hpos : data.length < pos) : next = pos := by
  unfold Advances at h
  omega

theorem lt {bound : Nat} (h : Advances data pos next) (hlength : data.length < bound)
    (hpos : pos < bound) : next < bound := by
  unfold Advances at h
  omega

end Advances

theorem Reader.advances_primitive (what : String) {parse : Bytes → Except Reason (α × Nat)}
    (h : LocalParse parse) (data : Bytes) (pos : Nat) :
    Advances data pos (primitive what parse data pos).next := by
  rw [primitive]
  split_ifs with hend
  · exact .refl data pos
  · split
    · rename_i a width hsuccess
      obtain ⟨bytes, back, hrest, rfl, _⟩ := h.takes hsuccess
      have hlength := congrArg List.length hrest
      rw [List.length_drop, List.length_append] at hlength
      exact .inr ⟨Nat.le_add_right _ _, by dsimp only; omega⟩
    · exact .refl data pos

theorem Reader.advances_skip (what : String) (width : Nat) (data : Bytes) (pos : Nat) :
    Advances data pos (skip what width data pos).next := by
  rw [skip, remaining]
  split_ifs with hshort
  · exact .refl data pos
  · -- Nothing can be stepped over anywhere, also beyond the end.
    rcases Nat.eq_zero_or_pos width with rfl | hwidth
    · exact .refl data pos
    · exact .inr ⟨Nat.le_add_right _ _, by dsimp only; omega⟩

/-- Whatever is made of primitives moves forward, also where it fails. -/
theorem Composed.advances {r : Reader α} (h : Composed r) (data : Bytes) (pos : Nat) :
    Advances data pos (r data pos).next := by
  induction h generalizing pos with
  | pure a => exact .refl data pos
  | refuse what offset reason => exact .refl data pos
  | position => exact .refl data pos
  | primitive what hparse => exact advances_primitive what hparse data pos
  | skip what width => exact advances_skip what width data pos
  | @bind _ _ r f _ _ hr hf =>
    have hfirst := hr pos
    rw [bind_apply]
    rcases hread : r data pos with ⟨e | a, mid⟩
    · rwa [hread] at hfirst
    · rw [hread] at hfirst
      exact hfirst.trans (hf a mid)

namespace Reader

/-! ## In one piece -/

/-- A reader that fails has taken nothing. -/
structure InOnePiece (r : Reader α) : Prop where
  next_eq : ∀ {data : Bytes} {pos next : Nat} {e : Error},
    r data pos = ⟨.error e, next⟩ → next = pos

theorem InOnePiece.map {r : Reader α} {f : α → β} (h : InOnePiece r) :
    InOnePiece (r >>= fun a => Pure.pure (f a)) where
  next_eq := by
    intro data pos next e hfails
    rw [bind_apply] at hfails
    split at hfails
    · cases hfails
    · rename_i e' mid hread
      cases hfails
      exact h.next_eq hread

theorem inOnePiece_primitive (what : String) (parse : Bytes → Except Reason (α × Nat)) :
    InOnePiece (primitive what parse) where
  next_eq := by
    intro data pos next e hfails
    rw [primitive] at hfails
    split_ifs at hfails
    · cases hfails
      rfl
    · split at hfails <;> cases hfails
      rfl

theorem inOnePiece_skip (what : String) (width : Nat) : InOnePiece (skip what width) where
  next_eq := by
    intro data pos next e hfails
    rw [skip] at hfails
    split_ifs at hfails <;> cases hfails
    rfl

theorem inOnePiece_nat (what : String) (width : Nat) : InOnePiece (nat what width) :=
  inOnePiece_primitive what _

theorem inOnePiece_u8 (what : String) : InOnePiece (u8 what) := (inOnePiece_nat what 1).map

theorem inOnePiece_u32 (what : String) : InOnePiece (u32 what) := (inOnePiece_nat what 4).map

/-- What becomes of the value does not move the position. -/
theorem next_map (r : Reader α) (f : α → β) (data : Bytes) (pos : Nat) :
    ((r >>= fun a => Pure.pure (f a)) data pos).next = (r data pos).next := by
  rw [bind_apply]
  rcases r data pos with ⟨e | a, next⟩ <;> rfl

end Reader

/-! ## The same bytes, the same value -/

/-- A reader of what it takes wherever that stands, so that its answer depends on nothing else. -/
def Uniform (r : Reader α) : Prop := Takes r fun a bytes => Reads r bytes a

namespace Uniform

theorem pure (a : α) : Uniform (Pure.pure a) := Takes.pure (.pure a)

theorem bind {r : Reader α} {f : α → Reader β} (hr : Uniform r) (hf : ∀ a, Uniform (f a)) :
    Uniform (r >>= f) := by
  apply Takes.bind hr
  intro a xs hxs
  apply (hf a).imp
  intro b ys hys
  exact hxs.bind hys

theorem map {r : Reader α} {f : α → β} (h : Uniform r) :
    Uniform (r >>= fun a => Pure.pure (f a)) :=
  h.bind fun a => .pure (f a)

end Uniform

/-- What is taken is a written form, and every written form is read back. -/
theorem Exact.uniform {r : Reader α} {encode : α → Bytes} {fits : α → Prop} (h : Exact r encode fits)
    (hreads : ∀ a, fits a → Reads r (encode a) a) : Uniform r := by
  apply Takes.imp h
  rintro a _ ⟨hfits, rfl⟩
  exact hreads a hfits

theorem Canonical.uniform {r : Reader α} {encode : α → Bytes} (h : Canonical r encode)
    (hreads : ∀ a, Reads r (encode a) a) : Uniform r := by
  apply Takes.imp h
  rintro a _ rfl
  exact hreads a

namespace Reader

theorem uniform_skip (what : String) (width : Nat) : Uniform (skip what width) where
  of_ok := by
    intro front rest a next h
    obtain ⟨bytes, back, rfl, rfl, hreads⟩ := (local_skip what width).takes h
    have hwidth : bytes.length = width := by
      have hat := hreads front back rfl
      rw [skip] at hat
      split_ifs at hat
      · cases hat
      · injection hat with _ hnext
        exact (Nat.add_left_cancel hnext).symm
    exact ⟨bytes, back, rfl, rfl, reads_skip what hwidth⟩

theorem uniform_option (what : String) {item : Reader α} (h : Uniform item) :
    Uniform (option what item) := by
  apply (takes_option what h).imp
  rintro (_ | a) bytes htaken
  · rw [htaken]
    apply Reads.ofPosition
    intro start
    exact (reads_u8 what 0).bind_nil (.pure none)
  · obtain ⟨body, rfl, hbody⟩ := htaken
    apply Reads.ofPosition
    intro start
    exact (reads_u8 what 1).bind hbody.map

theorem uniform_repeated {item : Reader α} (h : Uniform item) (count : Nat) :
    Uniform (repeated item count) := by
  induction count with
  | zero => exact .pure []
  | succ count ih => exact h.bind fun a => ih.map

theorem uniform_list (what : String) {item : Reader α} (h : Uniform item) :
    Uniform (list what item) :=
  ((canonical_u32 what).uniform (reads_u32 what)).bind fun count => uniform_repeated h count.toNat

end Reader

namespace Layout

/-! ## Operations -/

/-- The layouts that are read, or stepped over, in one piece. -/
inductive Primitive : Layout → Prop
  | u8 (what : String) : Primitive (u8 what)
  | u16 (what : String) : Primitive (u16 what)
  | u32 (what : String) : Primitive (u32 what)
  | u64 (what : String) : Primitive (u64 what)
  | bool (what : String) : Primitive (bool what)
  | string (what : String) : Primitive (string what)
  | blob (what : String) : Primitive (blob what)
  | address (what : String) : Primitive (address what)
  | skip (what : String) (width : Nat) : Primitive (skip what width)

/-- The layouts that read on from their position. -/
inductive Sequential : Layout → Prop
  | primitive {l : Layout} : l.Primitive → Sequential l
  | option (what : String) {item : Layout} : item.Sequential → Sequential (option what item)
  | list (what : String) {item : Layout} : item.Sequential → Sequential (list what item)

theorem Sequential.composed {l : Layout} (h : l.Sequential) : Composed l.reader := by
  induction h with
  | primitive h =>
    cases h with
    | u8 what => exact (composed_u8 what).map
    | u16 what => exact (composed_u16 what).map
    | u32 what => exact (composed_u32 what).map
    | u64 what => exact (composed_u64 what).map
    | bool what => exact (composed_bool what).map
    | string what => exact (composed_string what).map
    | blob what => exact (composed_blob what).map
    | address what => exact (composed_address what).map
    | skip what width => exact (Composed.skip what width).map
  | option what _ ih => exact (composed_option what ih).map
  | list what _ ih => exact (composed_list what ih).map

theorem Sequential.uniform {l : Layout} (h : l.Sequential) : Uniform l.reader := by
  induction h with
  | primitive h =>
    cases h with
    | u8 what => exact ((canonical_u8 what).uniform (reads_u8 what)).map
    | u16 what => exact ((canonical_u16 what).uniform (reads_u16 what)).map
    | u32 what => exact ((canonical_u32 what).uniform (reads_u32 what)).map
    | u64 what => exact ((canonical_u64 what).uniform (reads_u64 what)).map
    | bool what => exact ((canonical_bool what).uniform (reads_bool what)).map
    | string what => exact ((exact_string what).uniform fun _ => reads_string what).map
    | blob what => exact ((exact_blob what).uniform fun _ => reads_blob what).map
    | address what => exact ((canonical_address what).uniform (reads_address what)).map
    | skip what width => exact (uniform_skip what width).map
  | option what _ ih => exact (uniform_option what ih).map
  | list what _ ih => exact (uniform_list what ih).map

theorem Primitive.inOnePiece {l : Layout} (h : l.Primitive) : InOnePiece l.reader := by
  cases h with
  | u8 what | u16 what | u32 what | u64 what => exact (inOnePiece_nat what _).map.map
  | bool what | string what | blob what => exact (inOnePiece_primitive what _).map
  | address what => exact (inOnePiece_primitive what _).map.map
  | skip what width => exact (inOnePiece_skip what width).map

/-- Bytes are stepped over where there are enough of them. -/
theorem reader_skip_eq_ok_iff {what : String} {width : Nat} {data : Bytes} {pos next : Nat}
    {d : Datum} :
    (skip what width).reader data pos = ⟨.ok d, next⟩ ↔
      width ≤ Reader.remaining data pos ∧ d = .skipped ∧ next = pos + width := by
  rw [reader, Reader.bind_apply, Reader.skip]
  split_ifs with hshort
  · constructor
    · intro h
      cases h
    · rintro ⟨hwidth, _⟩
      exact absurd hwidth (Nat.not_le_of_lt hshort)
  · constructor
    · intro h
      cases h
      exact ⟨Nat.le_of_not_lt hshort, rfl, rfl⟩
    · rintro ⟨_, rfl, rfl⟩
      rfl

/-- What is not stepped over begins inside the buffer and takes a byte there. -/
theorem Sequential.skip_or_lt_next {l : Layout} (h : l.Sequential) {data : Bytes} {pos next : Nat}
    {d : Datum} (hread : l.reader data pos = ⟨.ok d, next⟩) :
    (∃ what width, l = skip what width) ∨ pos < next ∧ next ≤ data.length := by
  have htakes : (∃ what width, l = skip what width) ∨
      Inside l.reader ∧ TakesAtLeast 1 l.reader := by
    cases h with
    | primitive h =>
      cases h with
      | u8 what => exact .inr ⟨(inside_u8 what).bind, (takesAtLeast_u8 what).map⟩
      | u16 what => exact .inr ⟨(inside_nat what 2).bind.bind, (takesAtLeast_u16 what).one.map⟩
      | u32 what => exact .inr ⟨(inside_u32 what).bind, (takesAtLeast_u32 what).one.map⟩
      | u64 what => exact .inr ⟨(inside_nat what 8).bind.bind, (takesAtLeast_u64 what).one.map⟩
      | bool what => exact .inr ⟨(inside_primitive what _).bind, (takesAtLeast_bool what).map⟩
      | string what => exact .inr ⟨(inside_primitive what _).bind, (takesAtLeast_string what).one.map⟩
      | blob what => exact .inr ⟨(inside_primitive what _).bind, (takesAtLeast_blob what).one.map⟩
      | address what => exact .inr ⟨(inside_address what).bind, (takesAtLeast_address what).one.map⟩
      | skip what width => exact .inl ⟨what, width, rfl⟩
    | option what hitem =>
      exact .inr ⟨(inside_option what _).bind, (takesAtLeast_option what hitem.composed).map⟩
    | list what hitem =>
      exact .inr ⟨(inside_list what _).bind, (takesAtLeast_list what hitem.composed).one.map⟩
  rcases htakes with hskip | ⟨hinside, htakes⟩
  · exact .inl hskip
  · exact .inr (htakes.add_le (hinside.le_length hread) hread)

/-- An operation that begins beyond the buffer succeeds only if it steps over nothing. -/
theorem Sequential.succeeds_beyond_iff {l : Layout} (h : l.Sequential) {data : Bytes} {pos : Nat}
    (hpos : data.length < pos) :
    (∃ d, (l.reader data pos).result = .ok d) ↔ ∃ what, l = skip what 0 := by
  constructor
  · rintro ⟨d, hresult⟩
    obtain ⟨next, hread⟩ := Reader.value_eq_ok_iff.mp hresult
    have hnext := (h.composed.advances data pos).eq_of_length_lt hpos
    rw [hread] at hnext
    rcases h.skip_or_lt_next hread with ⟨what, width, rfl⟩ | ⟨hlt, _⟩
    · obtain ⟨_, _, rfl⟩ := reader_skip_eq_ok_iff.mp hread
      obtain rfl : width = 0 := Nat.add_eq_left.mp hnext
      exact ⟨what, rfl⟩
    · exact absurd hnext (Nat.ne_of_gt hlt)
  · rintro ⟨what, rfl⟩
    exact ⟨.skipped, rfl⟩

/-- Wherever the bytes between the two positions of a successful operation stand, it answers the same
value. -/
theorem Sequential.same_value {l : Layout} (h : l.Sequential) {data other : Bytes}
    {pos next start : Nat} {d : Datum} (hread : l.reader data pos = ⟨.ok d, next⟩)
    (hsame : (other.drop start).take (next - pos) = (data.drop pos).take (next - pos)) :
    l.reader other start = ⟨.ok d, start + (next - pos)⟩ := by
  rcases h.skip_or_lt_next hread with ⟨what, width, rfl⟩ | ⟨hlt, hnext⟩
  · obtain ⟨hwidth, rfl, rfl⟩ := reader_skip_eq_ok_iff.mp hread
    have hlength := congrArg List.length hsame
    rw [List.length_take, List.length_take, List.length_drop, List.length_drop,
      Nat.add_sub_cancel_left] at hlength
    rw [Reader.remaining] at hwidth
    rw [reader_skip_eq_ok_iff, Reader.remaining, Nat.add_sub_cancel_left]
    exact ⟨by omega, rfl, rfl⟩
  · obtain ⟨bytes, hbytes, rfl, hreads⟩ := h.uniform.exists_taken (by omega) hread
    rw [Nat.add_sub_cancel_left, ← List.prefix_iff_eq_take.mp hbytes] at hsame
    have hother : bytes <+: other.drop start := by
      rw [← hsame]
      exact List.take_prefix _ _
    -- The bytes are not empty, so they can only stand inside the other buffer.
    have hlength := hother.length_le
    rw [List.length_drop] at hlength
    rw [Nat.add_sub_cancel_left]
    exact (hreads.readsAt start).of_isPrefix (by omega) hother

/-! ## The primitives that are read -/

/-- A primitive that was read, from `start` up to `stop`. -/
structure Piece where
  part : Layout
  start : Nat
  stop : Nat
  deriving DecidableEq

/-- The pieces of `count` items in a row, up to the first item that cannot be read. -/
def piecesInRow (item : Reader α) (pieces : Nat → List Piece) (data : Bytes) :
    (count pos : Nat) → List Piece
  | 0, _ => []
  | count + 1, pos =>
    pieces pos ++
      match item data pos with
      | ⟨.ok _, next⟩ => piecesInRow item pieces data count next
      | ⟨.error _, _⟩ => []

/-- The primitives that an operation at `pos` reads before it ends or fails.  A marker is one of them,
also if it is refused. -/
def pieces (data : Bytes) : Layout → (pos : Nat) → List Piece
  | option what item, pos =>
    match Reader.u8 what data pos with
    | ⟨.ok marker, next⟩ =>
      ⟨u8 what, pos, next⟩ :: if marker = 1 then item.pieces data next else []
    | ⟨.error _, _⟩ => []
  | list what item, pos =>
    match Reader.u32 what data pos with
    | ⟨.ok count, first⟩ =>
      ⟨u32 what, pos, first⟩ :: piecesInRow item.reader (item.pieces data) data count.toNat first
    | ⟨.error _, _⟩ => []
  | slice _ _ _, _ | index _ _, _ => []
  | l, pos =>
    match l.reader data pos with
    | ⟨.ok _, next⟩ => [⟨l, pos, next⟩]
    | ⟨.error _, _⟩ => []

namespace Piece

/-- The piece is a primitive, and it is what reading this primitive takes. -/
def Read (data : Bytes) (p : Piece) : Prop :=
  p.part.Primitive ∧ ∃ d, p.part.reader data p.start = ⟨.ok d, p.stop⟩

/-- The sum of the start of the piece and its width has 64 bits. -/
def Unwrapped (p : Piece) : Prop :=
  (UInt64.ofNat p.start + UInt64.ofNat (p.stop - p.start)).toNat = p.stop

/-- Where the last of the pieces stops; where they begin, if there are none. -/
def lastStop (pos : Nat) (ps : List Piece) : Nat := (ps.getLast?.map Piece.stop).getD pos

/-- Pieces that are read one after the other, each from where the one before it stopped. -/
inductive Row (data : Bytes) : (pos : Nat) → List Piece → (next : Nat) → Prop
  | nil (pos : Nat) : Row data pos [] pos
  | cons {p : Piece} {ps : List Piece} {next : Nat} :
    p.Read data → Row data p.stop ps next → Row data p.start (p :: ps) next

theorem Read.advances {data : Bytes} {p : Piece} (h : p.Read data) :
    Advances data p.start p.stop := by
  obtain ⟨hpart, d, hread⟩ := h
  have hnext := (Sequential.primitive hpart).composed.advances data p.start
  rwa [hread] at hnext

namespace Row

variable {data : Bytes} {pos mid next : Nat} {ps qs : List Piece}

theorem singleton {p : Piece} (h : p.Read data) : Row data p.start [p] p.stop := .cons h (.nil _)

theorem append (hfirst : Row data pos ps mid) (hsecond : Row data mid qs next) :
    Row data pos (ps ++ qs) next := by
  induction hfirst with
  | nil => exact hsecond
  | cons hread _ ih => exact .cons hread (ih hsecond)

theorem eq_lastStop (h : Row data pos ps next) : next = lastStop pos ps := by
  induction h with
  | nil => rfl
  | cons hread hrest ih =>
    rw [ih, lastStop, lastStop, List.getLast?_cons, Option.map_some, Option.getD_some,
      Option.getD_map]

/-- Positions of 64 bits are not left by adding the width of a piece. -/
theorem unwrapped (h : Row data pos ps next) (hlength : data.length < 2 ^ 64) (hpos : pos < 2 ^ 64) :
    ∀ p ∈ ps, p.Unwrapped := by
  induction h with
  | nil => simp
  | @cons p ps next hread _ ih =>
    have hstop := hread.advances.lt hlength hpos
    have hle := hread.advances.le
    rintro q (_ | ⟨_, hq⟩)
    · rw [Unwrapped, UInt64.toNat_add, UInt64.toNat_ofNat_of_lt' hpos,
        UInt64.toNat_ofNat_of_lt' (Nat.lt_of_le_of_lt (Nat.sub_le _ _) hstop),
        Nat.add_sub_cancel' hle, Nat.mod_eq_of_lt hstop]
    · exact ih hstop q hq

end Row

end Piece

theorem pieces_of_primitive {l : Layout} (h : l.Primitive) (data : Bytes) (pos : Nat) :
    l.pieces data pos =
      match l.reader data pos with
      | ⟨.ok _, next⟩ => [⟨l, pos, next⟩]
      | ⟨.error _, _⟩ => [] := by
  cases h <;> rfl

theorem Primitive.row {l : Layout} (h : l.Primitive) (data : Bytes) (pos : Nat) :
    Piece.Row data pos (l.pieces data pos) (l.reader data pos).next := by
  rw [pieces_of_primitive h]
  rcases hread : l.reader data pos with ⟨e | d, next⟩
  · obtain rfl := h.inOnePiece.next_eq hread
    exact .nil next
  · have hpiece : Piece.Read data ⟨l, pos, next⟩ := ⟨h, d, hread⟩
    exact .singleton hpiece

theorem row_repeated {item : Reader α} {pieces : Nat → List Piece} {data : Bytes}
    (h : ∀ pos, Piece.Row data pos (pieces pos) (item data pos).next) (count pos : Nat) :
    Piece.Row data pos (piecesInRow item pieces data count pos)
      (Reader.repeated item count data pos).next := by
  induction count generalizing pos with
  | zero => exact .nil pos
  | succ count ih =>
    have hfirst := h pos
    rw [piecesInRow, Reader.repeated, Reader.bind_apply]
    rcases hitem : item data pos with ⟨e | a, next⟩
    · rw [hitem] at hfirst
      simpa using hfirst
    · rw [hitem] at hfirst
      simp only [Reader.next_map]
      exact hfirst.append (ih next)

/-- The pieces of an operation stand in a row between its two positions. -/
theorem Sequential.row {l : Layout} (h : l.Sequential) (data : Bytes) (pos : Nat) :
    Piece.Row data pos (l.pieces data pos) (l.reader data pos).next := by
  induction h generalizing pos with
  | primitive h => exact h.row data pos
  | @option what item _ ih =>
    rw [pieces, reader, Reader.next_map, Reader.option, Reader.bind_apply]
    simp only [Reader.position]
    rw [Reader.bind_apply]
    rcases hmarker : Reader.u8 what data pos with ⟨e | marker, next⟩
    · obtain rfl := (Reader.inOnePiece_u8 what).next_eq hmarker
      exact .nil next
    · have hpiece : Piece.Read data ⟨u8 what, pos, next⟩ :=
        ⟨.u8 what, _, Reader.bind_of_ok hmarker⟩
      dsimp only
      by_cases hone : marker = 1
      · rw [if_pos hone, if_neg (by rw [hone]; decide), if_pos hone, Reader.next_map]
        exact .cons hpiece (ih next)
      · rw [if_neg hone, if_neg hone]
        split_ifs <;> exact .singleton hpiece
  | @list what item _ ih =>
    rw [pieces, reader, Reader.next_map, Reader.list, Reader.bind_apply]
    rcases hcount : Reader.u32 what data pos with ⟨e | count, first⟩
    · obtain rfl := (Reader.inOnePiece_u32 what).next_eq hcount
      exact .nil first
    · have hpiece : Piece.Read data ⟨u32 what, pos, first⟩ :=
        ⟨.u32 what, _, Reader.bind_of_ok hcount⟩
      exact .cons hpiece (row_repeated ih count.toNat first)

/-! ## The law of one operation -/

/-- What every answer `o` to an operation at `pos` satisfies. -/
structure OperationLaw (data : Bytes) (pos : Nat) (l : Layout) (o : Outcome Datum) : Prop where
  /-- The position never decreases. -/
  forward : pos ≤ o.next
  /-- Inside the buffer it stays inside, and the bytes before and behind it are all. -/
  inside : pos ≤ data.length →
    o.next ≤ data.length ∧ o.next + Reader.remaining data o.next = data.length
  /-- Beyond the buffer nothing moves, and nothing succeeds but to step over nothing. -/
  beyond : data.length < pos →
    o.next = pos ∧ ((∃ d, o.result = .ok d) ↔ ∃ what, l = skip what 0)
  /-- A primitive that fails has not moved. -/
  unmoved : l.Primitive → ∀ e, o.result = .error e → o.next = pos
  /-- The primitives that were read stand in a row. -/
  row : Piece.Row data pos (l.pieces data pos) o.next
  /-- The operation stops, whether it fails or not, where the last of them does. -/
  stopped : o.next = Piece.lastStop pos (l.pieces data pos)
  /-- The value is that of the bytes between the two positions, wherever they stand. -/
  determined : ∀ d, o.result = .ok d → ∀ (other : Bytes) (start : Nat),
    (other.drop start).take (o.next - pos) = (data.drop pos).take (o.next - pos) →
      l.reader other start = ⟨.ok d, start + (o.next - pos)⟩
  /-- Positions of 64 bits are added without wrapping around. -/
  unwrapped : data.length < 2 ^ 64 → pos < 2 ^ 64 → ∀ p ∈ l.pieces data pos, p.Unwrapped

theorem Sequential.operationLaw {l : Layout} (h : l.Sequential) (data : Bytes) (pos : Nat) :
    OperationLaw data pos l (l.reader data pos) where
  forward := (h.composed.advances data pos).le
  inside := fun hpos =>
    have hnext := (h.composed.advances data pos).le_length hpos
    ⟨hnext, Nat.add_sub_cancel' hnext⟩
  beyond := fun hpos =>
    ⟨(h.composed.advances data pos).eq_of_length_lt hpos, h.succeeds_beyond_iff hpos⟩
  unmoved := by
    intro hprimitive e hresult
    apply hprimitive.inOnePiece.next_eq (e := e)
    rw [← hresult]
  row := h.row data pos
  stopped := (h.row data pos).eq_lastStop
  determined := by
    intro d hresult other start
    apply h.same_value
    rw [← hresult]
  unwrapped := (h.row data pos).unwrapped

/-! ## Scripts -/

/-- In the run of a script from `pos` on, `P` holds of each operation with the position where it begins
and the answer to it. -/
inductive Steps (P : Nat → Layout → Outcome Datum → Prop) :
    (pos : Nat) → List Layout → List (Outcome Datum) → Prop
  | nil {pos : Nat} : Steps P pos [] []
  | cons {pos : Nat} {l : Layout} {o : Outcome Datum} {ls : List Layout}
    {os : List (Outcome Datum)} :
    P pos l o → Steps P o.next ls os → Steps P pos (l :: ls) (o :: os)

section

variable {data : Bytes} {pos : Nat} {ls : List Layout}

/-- What holds of each operation at a position with the invariant `I` holds throughout a run, if each
operation keeps the invariant. -/
theorem steps_script {I : Nat → Prop} {P : Nat → Layout → Outcome Datum → Prop} (hpos : I pos)
    (hstep : ∀ l ∈ ls, ∀ p, I p → P p l (l.reader data p) ∧ I (l.reader data p).next) :
    Steps P pos ls (script data pos ls) := by
  induction ls generalizing pos with
  | nil => exact .nil
  | cons l ls ih =>
    obtain ⟨hP, hI⟩ := hstep l List.mem_cons_self pos hpos
    exact .cons hP (ih hI fun l' hl' => hstep l' (List.mem_cons_of_mem l hl'))

/-- What holds of all answers. -/
theorem Steps.forall_mem {P : Nat → Layout → Outcome Datum → Prop} {Q : Outcome Datum → Prop}
    {os : List (Outcome Datum)} (h : Steps P pos ls os) (hPQ : ∀ {p l o}, P p l o → Q o) :
    ∀ o ∈ os, Q o := by
  induction h with
  | nil => simp
  | cons hP _ ih => exact List.forall_mem_cons.mpr ⟨hPQ hP, ih⟩

theorem Steps.pairwise_le {os : List (Outcome Datum)}
    (h : Steps (fun p _ o => p ≤ o.next) pos ls os) :
    (pos :: os.map Outcome.next).Pairwise (· ≤ ·) := by
  rw [← List.isChain_iff_pairwise]
  induction h with
  | nil => exact .singleton _
  | cons hle _ ih => exact .cons_cons hle ih

end

/-- What the run of a script on a buffer satisfies. -/
structure ScriptLaw (data : Bytes) (pos : Nat) (ls : List Layout) (os : List (Outcome Datum)) :
    Prop where
  /-- Each operation keeps its law, whatever became of those before it. -/
  operations : Steps (OperationLaw data) pos ls os
  /-- The positions never decrease. -/
  forward : (pos :: os.map Outcome.next).Pairwise (· ≤ ·)
  /-- A run that begins inside the buffer stays inside. -/
  inside : pos ≤ data.length →
    ∀ p ∈ pos :: os.map Outcome.next, p ≤ data.length ∧ p + Reader.remaining data p = data.length
  /-- A run that begins beyond the buffer never moves, and nothing succeeds in it but to step over
  nothing. -/
  beyond : data.length < pos →
    Steps (fun p l o => p = pos ∧ o.next = pos ∧ ((∃ d, o.result = .ok d) ↔ ∃ what, l = skip what 0))
      pos ls os
  /-- No sum of positions and widths wraps around in a run that begins with 64 bits. -/
  unwrapped : data.length < 2 ^ 64 → pos < 2 ^ 64 →
    Steps (fun p l o => o.next < 2 ^ 64 ∧ ∀ piece ∈ l.pieces data p, piece.Unwrapped) pos ls os

/-- **Scripts.**  However operations fail in the course of a script, each of them and the whole run
keep the law of positions. -/
theorem scriptLaw {ls : List Layout} (h : ∀ l ∈ ls, l.Sequential) (data : Bytes) (pos : Nat) :
    ScriptLaw data pos ls (script data pos ls) where
  operations := steps_script (I := fun _ => True) trivial fun l hl p _ =>
    ⟨(h l hl).operationLaw data p, trivial⟩
  forward := Steps.pairwise_le <| steps_script (I := fun _ => True) trivial fun l hl p _ =>
    ⟨((h l hl).operationLaw data p).forward, trivial⟩
  inside := by
    intro hpos
    have hsteps : Steps (fun _ _ o => o.next ≤ data.length) pos ls (script data pos ls) := by
      apply steps_script (I := (· ≤ data.length)) hpos
      intro l hl p hp
      have hnext := (((h l hl).operationLaw data p).inside hp).1
      exact ⟨hnext, hnext⟩
    have hall : ∀ p ∈ pos :: (script data pos ls).map Outcome.next, p ≤ data.length :=
      List.forall_mem_cons.mpr ⟨hpos, List.forall_mem_map.mpr (hsteps.forall_mem id)⟩
    exact fun p hp => ⟨hall p hp, Nat.add_sub_cancel' (hall p hp)⟩
  beyond := by
    intro hpos
    apply steps_script (I := (· = pos)) rfl
    rintro l hl _ rfl
    have hlaw := ((h l hl).operationLaw data _).beyond hpos
    exact ⟨⟨rfl, hlaw⟩, hlaw.1⟩
  unwrapped := by
    intro hlength hpos
    apply steps_script (I := (· < 2 ^ 64)) hpos
    intro l hl p hp
    have hnext := ((h l hl).composed.advances data p).lt hlength hp
    exact ⟨⟨hnext, ((h l hl).operationLaw data p).unwrapped hlength hp⟩, hnext⟩

/-- A tag, a list of options, and bytes to step over. -/
def interrupted : List Layout :=
  [u8 "tag", list "items" (option "item" (u8 "byte")), skip "gap" 1, skip "rest" (2 ^ 64 - 1)]

/-- The second marker is refused after it was read, and the run goes on behind it. -/
theorem scriptLaw_interrupted :
    (script [7, 2, 0, 0, 0, 1, 5, 9, 42] 0 interrupted).map Outcome.next = [1, 8, 9, 9] ∧
      (list "items" (option "item" (u8 "byte"))).pieces [7, 2, 0, 0, 0, 1, 5, 9, 42] 1 =
        [⟨u32 "items", 1, 5⟩, ⟨u8 "item", 5, 6⟩, ⟨u8 "byte", 6, 7⟩, ⟨u8 "item", 7, 8⟩] ∧
      ScriptLaw [7, 2, 0, 0, 0, 1, 5, 9, 42] 0 interrupted
        (script [7, 2, 0, 0, 0, 1, 5, 9, 42] 0 interrupted) := by
  have hsequential : ∀ l ∈ interrupted, l.Sequential := by
    simp only [interrupted, List.forall_mem_cons]
    exact ⟨.primitive (.u8 _), .list _ (.option _ (.primitive (.u8 _))), .primitive (.skip _ _),
      .primitive (.skip _ _), by simp⟩
  exact ⟨by decide +kernel, by decide +kernel, scriptLaw hsequential _ 0⟩

end Layout

end DigitalAsset
