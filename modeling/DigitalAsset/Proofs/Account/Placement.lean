import DigitalAsset.Account.Draft
import DigitalAsset.Proofs.Codec.Reads

/-!
# Where bytes stand

A registry points back to payloads that were written before it.  `StandsAt bytes data offset` says
that an offset is right, and `placed` lists items with the offsets of their payloads.  What is
written one after the other from `start` on stands at these offsets (`StandsAt.of_mem_placed`), and
the records of a placement are the records of the placed items (`Placement.records_ofList`).
-/

namespace DigitalAsset

/-- The bytes stand in a buffer, the first of them at `offset`. -/
def StandsAt (bytes data : Bytes) (offset : Nat) : Prop :=
  ∃ front back, data = front ++ (bytes ++ back) ∧ front.length = offset

/-- A reader finds the value whose bytes stand where it starts. -/
theorem Reads.of_standsAt {r : Reader α} {bytes data : Bytes} {a : α} {offset : Nat}
    (h : Reads r bytes a) (hstands : StandsAt bytes data offset) :
    r data offset = ⟨.ok a, offset + bytes.length⟩ := by
  obtain ⟨front, back, rfl, rfl⟩ := hstands
  exact h front back

namespace StandsAt

variable {xs ys bytes data : Bytes} {offset : Nat}

theorem left (h : StandsAt (xs ++ ys) data offset) : StandsAt xs data offset := by
  obtain ⟨front, back, rfl, hlength⟩ := h
  exact ⟨front, ys ++ back, by rw [List.append_assoc], hlength⟩

theorem right (h : StandsAt (xs ++ ys) data offset) : StandsAt ys data (offset + xs.length) := by
  obtain ⟨front, back, rfl, rfl⟩ := h
  refine ⟨front ++ xs, back, ?_, List.length_append⟩
  rw [List.append_assoc, List.append_assoc]

/-- What stands in a buffer ends in it. -/
theorem add_length_le (h : StandsAt bytes data offset) : offset + bytes.length ≤ data.length := by
  obtain ⟨front, back, rfl, rfl⟩ := h
  rw [List.length_append, List.length_append]
  omega

/-- Cutting out what stands there gives it back. -/
theorem slice (h : StandsAt bytes data offset) (what : String) :
    Reader.slice what data offset bytes.length = .ok bytes := by
  have hend := h.add_length_le
  obtain ⟨front, back, rfl, rfl⟩ := h
  rw [Reader.slice, if_pos hend, List.drop_left, List.take_left]

end StandsAt

/-- Items with the offsets of their payloads, which stand one after the other from `start` on. -/
def placed (payload : α → Bytes) : (start : Nat) → List α → List (Nat × α)
  | _, [] => []
  | start, a :: rest => (start, a) :: placed payload (start + (payload a).length) rest

theorem length_placed (payload : α → Bytes) (start : Nat) (items : List α) :
    (placed payload start items).length = items.length := by
  induction items generalizing start with
  | nil => rfl
  | cons a rest ih => rw [placed, List.length_cons, List.length_cons, ih]

theorem mem_of_mem_placed {payload : α → Bytes} {start : Nat} {items : List α} {x : Nat × α}
    (h : x ∈ placed payload start items) : x.2 ∈ items := by
  induction items generalizing start with
  | nil => cases h
  | cons a rest ih =>
    rcases List.mem_cons.mp h with rfl | hrest
    · exact List.mem_cons_self
    · exact List.mem_cons_of_mem a (ih hrest)

/-- Where all payloads stand in a row, each stands at the offset it is listed with. -/
theorem StandsAt.of_mem_placed {payload : α → Bytes} {data : Bytes} {start : Nat} {items : List α}
    (h : StandsAt (items.flatMap payload) data start) {x : Nat × α}
    (hx : x ∈ placed payload start items) : StandsAt (payload x.2) data x.1 := by
  induction items generalizing start with
  | nil => cases hx
  | cons a rest ih =>
    rw [List.flatMap_cons] at h
    rcases List.mem_cons.mp hx with rfl | hrest
    · exact h.left
    · exact ih h.right hrest

namespace Placement

variable (payload : α → Bytes) (record : Nat → α → Bytes)

theorem payloads_ofList (start : Nat) (items : List α) :
    (ofList payload record start items).payloads = items.flatMap payload := by
  induction items generalizing start with
  | nil => rfl
  | cons a rest ih => rw [ofList, List.flatMap_cons, ih]

theorem records_ofList (start : Nat) (items : List α) :
    (ofList payload record start items).records =
      (placed payload start items).flatMap fun x => record x.1 x.2 := by
  induction items generalizing start with
  | nil => rfl
  | cons a rest ih => rw [ofList, placed, List.flatMap_cons, ih]

end Placement

end DigitalAsset
