import DigitalAsset.Codec.Reader
import DigitalAsset.Codec.Wire

/-!
# Authorities

Each plugin and adapter names the authority that may change it.  An asset names its update
authority, which is a fixed address or the collection that the asset belongs to.
-/

namespace DigitalAsset

/-! ## Plugin authorities -/

/-- Who may change a plugin or adapter. -/
inductive Authority where
  /-- Nobody. -/
  | none
  /-- The owner of the asset. -/
  | owner
  /-- The update authority of the asset, or of the collection it belongs to. -/
  | updateAuthority
  /-- A fixed address. -/
  | address (address : Address)
  deriving DecidableEq

namespace Authority

/-- The name of the kind of an authority. -/
def typeName : Authority → String
  | .none => "None"
  | .owner => "Owner"
  | .updateAuthority => "UpdateAuthority"
  | .address _ => "Address"

/-- The fixed address, if the authority is one. -/
def address? : Authority → Option Address
  | .address a => some a
  | _ => Option.none

/-- The text that tells two authorities apart. -/
def identity (authority : Authority) : String :=
  match authority.address? with
  | some a => authority.typeName ++ "-" ++ a.toBase58
  | Option.none => authority.typeName

/-- The reader of an authority. -/
def reader : Reader Authority :=
  Reader.tagged "authority" "authority tag" fun tag =>
    if tag = 0 then some (pure .none)
    else if tag = 1 then some (pure .owner)
    else if tag = 2 then some (pure .updateAuthority)
    else if tag = 3 then some (return .address (← Reader.address "authority.address"))
    else Option.none

/-- The written form of an authority. -/
def encode : Authority → Bytes
  | .none => Wire.u8 0
  | .owner => Wire.u8 1
  | .updateAuthority => Wire.u8 2
  | .address a => Wire.u8 3 ++ Wire.address a

end Authority

/-! ## Update authorities -/

/-- Who may update an asset. -/
inductive UpdateAuthority where
  /-- Nobody. -/
  | none
  /-- A fixed address. -/
  | address (address : Address)
  /-- The update authority of the collection that the asset belongs to. -/
  | collection (address : Address)
  deriving DecidableEq

namespace UpdateAuthority

/-- The collection that an asset with this update authority belongs to. -/
def collection? : UpdateAuthority → Option Address
  | .collection a => some a
  | _ => Option.none

/-- The reader of an update authority. -/
def reader : Reader UpdateAuthority :=
  Reader.tagged "update_authority" "update authority tag" fun tag =>
    if tag = 0 then some (pure .none)
    else if tag = 1 then some (return .address (← Reader.address "update_authority.address"))
    else if tag = 2 then some (return .collection (← Reader.address "update_authority.address"))
    else Option.none

/-- The written form of an update authority. -/
def encode : UpdateAuthority → Bytes
  | .none => Wire.u8 0
  | .address a => Wire.u8 1 ++ Wire.address a
  | .collection a => Wire.u8 2 ++ Wire.address a

end UpdateAuthority

end DigitalAsset
