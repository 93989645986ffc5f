import DigitalAsset.Address
import Mathlib.Data.List.TakeWhile
import Mathlib.Data.Nat.Digits.Lemmas

/-!
# Base 58 texts are faithful

`decode?_encode`: a byte string is read back from its base 58 text, zero bytes in front included.
Two addresses with the same text are therefore the same address (`Address.toBase58_injective`).

Digits and bytes are connected with the positional systems of the library: `digitsLE` is
`Nat.digits 58`, `bytesLE` is `Nat.digits 256`, and the folds over digits are `Nat.ofDigits`.
-/

namespace DigitalAsset.Base58

/-! ## Positional systems -/

theorem digitsLE_eq_digits (n : Nat) : digitsLE n = Nat.digits 58 n := by
  induction n using Nat.strong_induction_on with
  | _ n ih =>
    rw [digitsLE]
    split
    · rename_i hzero
      rw [hzero, Nat.digits_zero]
    · rename_i hpos
      rw [Nat.digits_def' (by decide) (by omega), ih (n / 58) (by omega)]

theorem map_toNat_bytesLE (n : Nat) : (bytesLE n).map UInt8.toNat = Nat.digits 256 n := by
  induction n using Nat.strong_induction_on with
  | _ n ih =>
    rw [bytesLE]
    split
    · rename_i hzero
      rw [hzero, Nat.digits_zero, List.map_nil]
    · rename_i hpos
      rw [Nat.digits_def' (by decide) (by omega), List.map_cons, ih (n / 256) (by omega),
        UInt8.toNat_ofNat']

/-- A fold from the most significant digit on is the value of the digits in reverse. -/
theorem foldl_eq_ofDigits (base : Nat) (digits : List Nat) :
    digits.foldl (fun acc d => base * acc + d) 0 = Nat.ofDigits base digits.reverse := by
  rw [Nat.ofDigits_eq_foldr, List.foldr_reverse]
  congr 1
  funext acc d
  exact Nat.add_comm _ _

theorem toNatBE_eq_ofDigits (bytes : Bytes) :
    bytes.toNatBE = Nat.ofDigits 256 (bytes.reverse.map UInt8.toNat) := by
  rw [List.map_reverse, ← foldl_eq_ofDigits, List.foldl_map]
  rfl

/-! ## Digits and characters -/

theorem digit?_digitChar {d : Nat} (h : d < 58) : digit? (digitChar d) = some d := by
  have hall : ∀ d : Fin 58, digit? (digitChar d) = some d.val := by decide
  exact hall ⟨d, h⟩

theorem mapM_digit? {digits : List Nat} (h : ∀ d ∈ digits, d < 58) :
    (digits.map digitChar).mapM digit? = some digits := by
  induction digits with
  | nil => rfl
  | cons d rest ih =>
    have hd := digit?_digitChar (h d List.mem_cons_self)
    have hrest := ih fun c hc => h c (List.mem_cons_of_mem d hc)
    rw [List.map_cons, List.mapM_cons, hd, hrest]
    rfl

/-! ## Zeros in front -/

section Zeros

variable {α : Type} [DecidableEq α]

/-- A list is as many copies of `a` as it begins with, and a rest that begins otherwise. -/
theorem replicate_takeWhile_append_dropWhile (a : α) (l : List α) :
    List.replicate (l.takeWhile (· = a)).length a ++ l.dropWhile (· = a) = l := by
  have hcopies : l.takeWhile (· = a) = List.replicate (l.takeWhile (· = a)).length a := by
    apply List.eq_replicate_of_mem
    intro b hb
    simpa using List.mem_takeWhile_imp hb
  rw [← hcopies, List.takeWhile_append_dropWhile]

theorem length_takeWhile_replicate_append (n : Nat) (a : α) {rest : List α}
    (h : ∀ b ∈ rest.head?, b ≠ a) :
    ((List.replicate n a ++ rest).takeWhile (· = a)).length = n := by
  have hrest : rest.takeWhile (· = a) = [] := by
    cases rest with
    | nil => rfl
    | cons b _ => simp [h b rfl]
  rw [List.takeWhile_append_of_pos (by simp), hrest, List.append_nil, List.length_replicate]

theorem head?_dropWhile_ne (a : α) (l : List α) : ∀ b ∈ (l.dropWhile (· = a)).head?, b ≠ a := by
  intro b hb
  have hnot := List.head?_dropWhile_not (· = a) l
  rw [hb] at hnot
  simpa using hnot

end Zeros

theorem head?_reverse_digits_ne_zero (base n : Nat) :
    ∀ d ∈ (Nat.digits base n).reverse.head?, d ≠ 0 := by
  intro d hd
  rw [List.head?_reverse] at hd
  by_cases hn : n = 0
  · simp [hn] at hd
  · rw [List.getLast?_eq_getLast_of_ne_nil (Nat.digits_ne_nil_iff_ne_zero.mpr hn)] at hd
    cases hd
    exact Nat.getLast_digit_ne_zero base hn

/-! ## The round trip -/

/-- Zero bytes in front do not count for the number. -/
theorem toNatBE_replicate_append (n : Nat) (rest : Bytes) :
    Bytes.toNatBE (List.replicate n 0 ++ rest) = Bytes.toNatBE rest := by
  simp [toNatBE_eq_ofDigits]

/-- The bytes of the number that bytes without zeros in front stand for are these bytes. -/
theorem bytesLE_toNatBE {rest : Bytes} (h : ∀ b ∈ rest.head?, b ≠ 0) :
    bytesLE (Bytes.toNatBE rest) = rest.reverse := by
  apply List.map_injective_iff.mpr fun a b => UInt8.toNat_inj.mp
  rw [map_toNat_bytesLE, toNatBE_eq_ofDigits]
  apply Nat.digits_ofDigits 256 (by decide)
  · intro d hd
    obtain ⟨b, _, rfl⟩ := List.mem_map.mp hd
    exact b.toNat_lt
  · intro hne
    cases rest with
    | nil => exact absurd rfl hne
    | cons b tail =>
      -- The most significant digit is the first byte.
      simp only [List.reverse_cons, List.map_append, List.map_cons, List.map_nil,
        List.getLast_append_singleton]
      exact fun hzero => h b rfl (UInt8.toNat_inj.mp hzero)

/-- A byte string is read back from its text. -/
theorem decode?_encode (bytes : Bytes) : decode? (encode bytes) = some bytes := by
  obtain ⟨zeros, rest, rfl, hrest⟩ : ∃ (zeros : Nat) (rest : Bytes),
      bytes = List.replicate zeros 0 ++ rest ∧ ∀ b ∈ rest.head?, b ≠ 0 :=
    ⟨_, _, (replicate_takeWhile_append_dropWhile 0 bytes).symm, head?_dropWhile_ne 0 bytes⟩
  have hzeros := length_takeWhile_replicate_append zeros (0 : UInt8) hrest
  have hdigits : ∀ d ∈ List.replicate zeros 0 ++ (Nat.digits 58 (Bytes.toNatBE rest)).reverse, d < 58 := by
    intro d hd
    rcases List.mem_append.mp hd with hd | hd
    · rw [List.eq_of_mem_replicate hd]
      decide
    · exact Nat.digits_lt_base (by decide) (List.mem_reverse.mp hd)
  have htext : (encode (List.replicate zeros 0 ++ rest)).toList =
      (List.replicate zeros 0 ++ (Nat.digits 58 (Bytes.toNatBE rest)).reverse).map digitChar := by
    rw [encode, String.toList_ofList, hzeros, toNatBE_replicate_append, digitsLE_eq_digits,
      List.map_append, List.map_replicate]
    rfl
  rw [decode?, htext, mapM_digit? hdigits, Option.map_some]
  simp only [length_takeWhile_replicate_append zeros 0 (head?_reverse_digits_ne_zero 58 _),
    foldl_eq_ofDigits, List.reverse_append, List.reverse_reverse, List.reverse_replicate,
    Nat.ofDigits_append_replicate_zero, Nat.ofDigits_digits, bytesLE_toNatBE hrest]

end DigitalAsset.Base58

namespace DigitalAsset

/-- Two addresses with the same text are the same. -/
theorem Address.toBase58_injective : Function.Injective Address.toBase58 := by
  intro a b h
  have hbytes : some a.bytes = some b.bytes := by
    rw [← Base58.decode?_encode a.bytes, ← Base58.decode?_encode b.bytes]
    exact congrArg Base58.decode? h
  exact Address.ext (Option.some.inj hbytes)

end DigitalAsset
