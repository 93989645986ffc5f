import DigitalAsset.Json.Printer
import DigitalAsset.Permission
import DigitalAsset.Report.Accounts

/-!
# Summaries

What a run prints: the derived asset and, as far as they were asked for, the collection, the
resolved extra accounts of an event and the permissions of a principal.
-/

namespace DigitalAsset.CommandLine

/-- What a principal may do with an asset. -/
structure Permissions where
  principal : Address
  canTransfer : Bool
  canBurn : Bool
  canUpdate : Bool
  /-- For each plugin of the derived asset, whether the principal holds it. -/
  pluginAuthority : List (PluginKind × Bool)

/-- What a run prints. -/
structure Summary where
  /-- The asset with all that it takes over from its collection. -/
  asset : Asset
  collection : Option Collection := none
  extraAccounts : Option (List AccountMeta) := none
  permissions : Option Permissions := none

/-- The members of an object by name, in the order of their names. -/
def sortedMembers (members : List (String × Json)) : List (String × Json) :=
  members.foldl (fun ms (name, v) => Json.insertMember ms name v) []

/-- The JSON form of permissions. -/
def Permissions.toJson (p : Permissions) : Json :=
  .object
    [("principal", p.principal.toJson), ("canTransfer", .bool p.canTransfer),
      ("canBurn", .bool p.canBurn), ("canUpdate", .bool p.canUpdate),
      ("pluginAuthority",
        .object (sortedMembers (p.pluginAuthority.map fun (k, b) => (k.keyName, .bool b))))]

/-- A member that is left out if it has no value. -/
def optionalMember (name : String) (f : α → Json) : Option α → List (String × Json)
  | none => []
  | some a => [(name, f a)]

/-- The JSON form of a summary. -/
def Summary.toJson (s : Summary) : Json :=
  .object
    (("asset", Asset.toJson s.asset) ::
      optionalMember "collection" Collection.toJson s.collection ++
      optionalMember "extraAccounts" (Json.ofList AccountMeta.toJson) s.extraAccounts ++
      optionalMember "permissions" Permissions.toJson s.permissions)

/-- The text of a summary. -/
def Summary.render (s : Summary) : String := s.toJson.pretty ++ "\n"

end DigitalAsset.CommandLine
