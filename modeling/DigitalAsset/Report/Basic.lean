import DigitalAsset.Json.Basic
import DigitalAsset.Resolution

/-!
# Reports: common parts

The JSON form of addresses, authorities and extra accounts.  An alternative without fields is its
name; one with fields is an object with the name as its only member.
-/

namespace DigitalAsset

open Json

/-- A list of bytes as a list of numbers. -/
def Bytes.toJson (bytes : Bytes) : Json := Json.ofList (fun b => Json.ofNat b.toNat) bytes

/-- An address as the list of its bytes. -/
def Address.toJson (a : Address) : Json := Bytes.toJson a.bytes

/-- An alternative with fields. -/
def Json.variant (name : String) (payload : Json) : Json := object [(name, payload)]

/-- An integer of 64 bits. -/
def Json.ofUInt64 (n : UInt64) : Json := Json.ofNat n.toNat

/-- An integer of 32 bits. -/
def Json.ofUInt32 (n : UInt32) : Json := Json.ofNat n.toNat

/-- The JSON form of an authority. -/
def Authority.toJson : Authority → Json
  | .none => string "none"
  | .owner => string "owner"
  | .updateAuthority => string "updateAuthority"
  | .address a => variant "address" (object [("address", a.toJson)])

/-- The JSON form of an update authority. -/
def UpdateAuthority.toJson : UpdateAuthority → Json
  | .none => string "none"
  | .address a => variant "address" a.toJson
  | .collection a => variant "collection" a.toJson

/-- The JSON form of a schema. -/
def Schema.toJson (s : Schema) : Json := string s.keyName

/-- The members that say what may be done with an account. -/
def AccountFlags.members (flags : AccountFlags) : List (String × Json) :=
  [("isSigner", bool flags.isSigner), ("isWritable", bool flags.isWritable)]

/-- The JSON form of a seed. -/
def Seed.toJson : Seed → Json
  | .wellKnown w => string w.name
  | .address a => variant "address" a.toJson
  | .bytes b => variant "bytes" (Bytes.toJson b)

/-- The name of a source in the JSON form of extra accounts. -/
def AccountSource.keyName : AccountSource → String
  | .preconfiguredProgram => "preconfiguredProgram"
  | .preconfigured .collection => "preconfiguredCollection"
  | .preconfigured .owner => "preconfiguredOwner"
  | .preconfigured .recipient => "preconfiguredRecipient"
  | .preconfigured .asset => "preconfiguredAsset"
  | .customPda .. => "customPda"
  | .address _ => "address"

/-- The members of a source beside the flags. -/
def AccountSource.members : AccountSource → List (String × Json)
  | .preconfiguredProgram => []
  | .preconfigured _ => []
  | .customPda seeds program =>
    [("seeds", Json.ofList Seed.toJson seeds),
      ("customProgramId", Json.ofOption Address.toJson program)]
  | .address a => [("address", a.toJson)]

/-- The JSON form of the description of an extra account. -/
def ExtraAccount.toJson (extra : ExtraAccount) : Json :=
  variant extra.source.keyName (object (extra.source.members ++ extra.flags.members))

/-- The JSON form of a resolved account. -/
def AccountMeta.toJson (account : AccountMeta) : Json :=
  object (("pubkey", account.key.toJson) :: account.flags.members)

end DigitalAsset
