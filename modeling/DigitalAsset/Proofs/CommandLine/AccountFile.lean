import DigitalAsset.CommandLine.Run
import DigitalAsset.Proofs.Registry.Materialization
import DigitalAsset.Proofs.Text.Hex

/-!
# Account files

What a run makes of its files: `readAccount_of_hex` reads the hexadecimal text of some bytes, and
`address_of_loadCollection` says at which address a collection stands.
-/

namespace DigitalAsset.CommandLine

open Traversal

/-! ## Hexadecimal files -/

theorem trim_ofList {cs : List Char} (h : ∀ c ∈ cs, Blank.isBlank c = false) :
    Blank.trim (String.ofList cs) = String.ofList cs := by
  have hkept {l : List Char} (hl : ∀ c ∈ l, c ∈ cs) : l.dropWhile Blank.isBlank = l := by
    cases l with
    | nil => rfl
    | cons c rest =>
      rw [List.dropWhile_cons_of_neg]
      simp [h c (hl c List.mem_cons_self)]
  rw [Blank.trim, Blank.trimEnd, String.toList_ofList, hkept fun _ hc => hc,
    hkept fun _ hc => List.mem_reverse.mp hc, List.reverse_reverse]

theorem withoutMarks_of_not_mem {cs : List Char} (h : 'x' ∉ cs) : withoutMarks cs = cs := by
  rw [withoutMarks.eq_def]
  split
  · simp at h
  · rfl

/-- The digits of a byte are neither blanks nor marks. -/
theorem byteDigits_plain {b : UInt8} {c : Char} (h : c ∈ Hex.byteDigits b) :
    Blank.isBlank c = false ∧ c ≠ 'x' := by
  have hdigits : ∀ n < 16, Blank.isBlank (Nat.digitChar n) = false ∧ Nat.digitChar n ≠ 'x' := by
    decide
  obtain ⟨n, hn, rfl⟩ := Hex.exists_of_mem_byteDigits h
  exact hdigits n hn

theorem text_of_utf8 {source : File.Source} {path text : String}
    (h : source path = .ok (Utf8.encode text)) : source.text path = .ok text := by
  rw [File.Source.text, h]
  simp only [bind, Except.bind, Utf8.decode_encode]

/-- A file with the hexadecimal text of some bytes is read as these bytes. -/
theorem readAccount_of_hex {source : File.Source} {path : String} {bytes : Bytes}
    (h : source path = .ok (Utf8.encode (Hex.encode bytes))) :
    readAccount source .hex path = .ok bytes := by
  have hplain : ∀ c ∈ bytes.flatMap Hex.byteDigits, Blank.isBlank c = false ∧ c ≠ 'x' := by
    intro c hc
    obtain ⟨b, _, hc⟩ := List.mem_flatMap.mp hc
    exact byteDigits_plain hc
  have htrim : Blank.trim (Hex.encode bytes) = Hex.encode bytes :=
    trim_ofList fun c hc => (hplain c hc).1
  have hmarks : withoutMarks (Hex.encode bytes).toList = (Hex.encode bytes).toList := by
    rw [Hex.encode, String.toList_ofList]
    exact withoutMarks_of_not_mem fun hx => (hplain _ hx).2 rfl
  have hdecode : decodeText path .hex (Hex.encode bytes) = .ok bytes := by
    rw [decodeText, hmarks, String.ofList_toList]
    exact mapError_eq_ok_iff.mpr (Hex.decode_encode bytes)
  refine bind_eq_ok_iff.mpr ⟨_, mapError_eq_ok_iff.mpr (text_of_utf8 h), ?_⟩
  rw [htrim, hdecode]

/-! ## Collections -/

/-- A collection is read exactly if the options name its file, and stands at the address that they
give or else at the one that the asset names. -/
theorem address_of_loadCollection {settings : Settings} {source : File.Source} {options : Options}
    {asset : Asset} {collection : Option Collection}
    (h : loadCollection settings source options asset = .ok collection) :
    collection.map (·.address) = options.collection.map fun _ => collectionAddress options asset := by
  rw [loadCollection] at h
  split at h
  · rename_i hnone
    cases h
    rw [hnone]
    rfl
  · rename_i path hpath
    obtain ⟨bytes, _, h⟩ := bind_eq_ok_iff.mp h
    obtain ⟨supplied, hdecode, h⟩ := bind_eq_ok_iff.mp h
    cases h
    obtain ⟨haddress, _⟩ := Account.decode_eq_ok_iff.mp (mapError_eq_ok_iff.mp hdecode)
    rw [hpath, Option.map_some, Option.map_some, haddress]

end DigitalAsset.CommandLine
