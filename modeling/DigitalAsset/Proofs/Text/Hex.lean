import DigitalAsset.Text.Hex
import DigitalAsset.Text.Utf8

/-!
# Hexadecimal round trip

The digits of a byte are ASCII characters, each of which is one byte of a text; `Hex.decode_encode`
says that the text of a byte string is read back.
-/

namespace DigitalAsset

/-- A text of ASCII characters has one byte for each of them. -/
theorem Utf8.encode_ofList_of_ascii {cs : List Char} (h : ∀ c ∈ cs, c.toNat < 128) :
    encode (String.ofList cs) = cs.map Char.toUInt8 := by
  rw [encode, String.toByteArray_ofList, List.utf8Encode, List.data_toByteArray]
  induction cs with
  | nil => rfl
  | cons c rest ih =>
    have hone : c.utf8Size = 1 :=
      Char.utf8Size_eq_one_iff.mpr (UInt32.le_iff_toNat_le.mpr
        (Nat.le_of_lt_succ (h c List.mem_cons_self)))
    rw [List.flatMap_cons, String.utf8EncodeChar_eq_singleton hone, List.map_cons, Char.toUInt8_val]
    exact congrArg (c.toUInt8 :: ·) (ih fun d hd => h d (List.mem_cons_of_mem c hd))

namespace Hex

/-! ## Digits -/

/-- The digits of the numbers below 16 are ASCII characters, and the reader knows their values. -/
theorem digitChar_ascii {n : Nat} (h : n < 16) :
    (Nat.digitChar n).toNat < 128 ∧ digit? (Nat.digitChar n).toUInt8 = some (UInt8.ofNat n) := by
  have hall : ∀ n < 16, (Nat.digitChar n).toNat < 128 ∧
      digit? (Nat.digitChar n).toUInt8 = some (UInt8.ofNat n) := by decide
  exact hall n h

theorem high_lt (b : UInt8) : b.toNat / 16 < 16 := by
  have hbyte := b.toNat_lt
  omega

theorem low_lt (b : UInt8) : b.toNat % 16 < 16 := Nat.mod_lt _ (by decide)

theorem exists_of_mem_byteDigits {b : UInt8} {c : Char} (h : c ∈ byteDigits b) :
    ∃ n < 16, c = Nat.digitChar n := by
  simp only [byteDigits, List.mem_cons, List.not_mem_nil, or_false] at h
  rcases h with rfl | rfl
  · exact ⟨_, high_lt b, rfl⟩
  · exact ⟨_, low_lt b, rfl⟩

/-- A byte is put together from its halves. -/
theorem halves_eq (b : UInt8) :
    16 * UInt8.ofNat (b.toNat / 16) + UInt8.ofNat (b.toNat % 16) = b := by
  have hbyte := b.toNat_lt
  apply UInt8.toNat.inj
  simp only [UInt8.toNat_add, UInt8.toNat_mul, UInt8.toNat_ofNat', UInt8.toNat_ofNat]
  omega

/-! ## Texts -/

/-- The digits of some bytes, each as one byte. -/
def digitBytes (bytes : Bytes) : Bytes := (bytes.flatMap byteDigits).map Char.toUInt8

theorem length_digitBytes (bytes : Bytes) : (digitBytes bytes).length = 2 * bytes.length := by
  induction bytes with
  | nil => rfl
  | cons b rest ih =>
    rw [digitBytes, List.flatMap_cons, List.map_append, List.length_append, ← digitBytes, ih]
    simp only [byteDigits, List.map_cons, List.map_nil, List.length_cons, List.length_nil]
    omega

theorem pairs_digitBytes (i : Nat) (bytes : Bytes) : pairs i (digitBytes bytes) = .ok bytes := by
  induction bytes generalizing i with
  | nil => rfl
  | cons b rest ih =>
    show pairs i ((Nat.digitChar (b.toNat / 16)).toUInt8 ::
      (Nat.digitChar (b.toNat % 16)).toUInt8 :: digitBytes rest) = _
    rw [pairs, (digitChar_ascii (high_lt b)).2, (digitChar_ascii (low_lt b)).2]
    show (pairs (i + 2) (digitBytes rest)).map _ = _
    rw [ih, Except.map, halves_eq]

/-- **Hexadecimal round trip.**  The text of a byte string is read back. -/
theorem decode_encode (bytes : Bytes) : decode (Utf8.encode (encode bytes)) = .ok bytes := by
  have hascii : ∀ c ∈ bytes.flatMap byteDigits, c.toNat < 128 := by
    intro c hc
    obtain ⟨b, _, hc⟩ := List.mem_flatMap.mp hc
    obtain ⟨n, hn, rfl⟩ := exists_of_mem_byteDigits hc
    exact (digitChar_ascii hn).1
  have heven : (digitBytes bytes).length % 2 ≠ 1 := by
    rw [length_digitBytes]
    omega
  rw [encode, Utf8.encode_ofList_of_ascii hascii, ← digitBytes, decode, if_neg heven,
    pairs_digitBytes]

end Hex

end DigitalAsset
