import DigitalAsset.Address
import DigitalAsset.Adapter.Kind
import DigitalAsset.Json.Reader
import DigitalAsset.Marker
import DigitalAsset.Plugin.Kind
import DigitalAsset.Text.Utf8

/-!
# Errors

`Error` lists what can go wrong when an account is read, derived, resolved or asked for
permissions, and `Reason` what can be wrong with the bytes of one value.  The wording of each is in
one function.  Two of the errors never reach a caller: an unknown registry entry is dropped and data
in a schema that cannot be read stays raw bytes, so `Error.isFatal` is false for them.
-/

namespace DigitalAsset

/-- What is wrong with the bytes, or the seeds, that a value should be made of. -/
inductive Reason where
  /-- The position lies beyond the end of the buffer. -/
  | pastEnd
  /-- The buffer ends before the value does. -/
  | truncated
  /-- Fewer bytes are left than should be skipped. -/
  | endOfBuffer
  /-- The byte is neither 0 nor 1. -/
  | notBool (byte : UInt8)
  /-- The byte is no marker of an optional value. -/
  | notOption (byte : UInt8)
  /-- The bytes of a string are not UTF-8. -/
  | notUtf8 (flaw : Utf8.Flaw)
  /-- The bytes of a JSON value are UTF-8 and no JSON. -/
  | notJson (fault : Json.Fault)
  /-- The byte selects none of the known alternatives. -/
  | unknown (noun : String) (byte : UInt8)
  /-- An offset stored in the buffer points outside it. -/
  | outside (size : Nat)
  /-- A range stored in the buffer reaches beyond its end. -/
  | overrun (length size : Nat)
  /-- The payload is of another kind than its registry record. -/
  | kindMismatch (held recorded : String)
  /-- A value inside the payload cannot be read. -/
  | inPayload (what : String) (offset : Nat) (reason : Reason)
  /-- No bump makes an address of the seeds. -/
  | noBump (seeds : Nat)
  /-- A reason in the caller's own words. -/
  | other (text : String)
  deriving DecidableEq, Repr

/-- The text of a reason. -/
def Reason.message : Reason → String
  | pastEnd => "offset past end of buffer"
  | truncated => "Unexpected length of input"
  | endOfBuffer => "unexpected end of buffer"
  | notBool byte => "Invalid bool representation: " ++ toString byte.toNat
  | notOption byte => "invalid option marker " ++ toString byte.toNat
  | notUtf8 flaw => flaw.message
  | notJson fault => fault.message
  | unknown noun byte => "unknown " ++ noun ++ " " ++ toString byte.toNat
  | outside size => "offset outside buffer of " ++ toString size ++ " bytes"
  | overrun length size =>
    "range of " ++ toString length ++ " bytes exceeds buffer of " ++ toString size ++ " bytes"
  | kindMismatch held recorded =>
    "payload holds " ++ held ++ " but registry record is " ++ recorded
  | inPayload what offset reason =>
    what ++ " at " ++ toString offset ++ ": " ++ reason.message
  | noBump seeds => "no valid bump for " ++ toString seeds ++ " seed(s)"
  | other text => text

/-- Everything that an operation of this library can fail with. -/
inductive Error where
  /-- The value named `what` cannot be read at `offset`. -/
  | decode (what : String) (offset : Nat) (reason : Reason)
  /-- A structure begins with another byte than its marker. -/
  | unexpectedKey (expected : Marker) (found : UInt8)
  /-- A registry entry has a tag that this version does not know. -/
  | unknownRegistryEntry (tag : UInt8) (offset : Nat)
  /-- Two registry records have the same plugin kind. -/
  | duplicatePlugin (kind : PluginKind) (first second : UInt64)
  /-- The asset belongs to another collection than the one supplied. -/
  | collectionMismatch (assetCollection supplied : Address)
  /-- Addresses that are needed to resolve extra accounts were not given. -/
  | missingRequiredInput (inputs : List String)
  /-- No program address can be made of the seeds. -/
  | invalidSeeds (program : Address) (reason : Reason)
  /-- A data section belongs to a lifecycle hook, which cannot carry its data. -/
  | unsupportedLink (hookedProgram : Address)
  /-- Adapter data is in a schema that is not read. -/
  | unsupportedSchema (schema : Schema) (offset : Nat)
  deriving DecidableEq

namespace Error

/-- The text of an error. -/
def message : Error → String
  | decode what offset reason =>
    "Decode error (" ++ what ++ " at offset " ++ toString offset ++ "): " ++ reason.message
  | unexpectedKey expected found =>
    "Unexpected account key: expected " ++ expected.name ++ ", found " ++ toString found.toNat
  | unknownRegistryEntry tag offset =>
    "Unknown registry entry tag " ++ toString tag.toNat ++ " at offset " ++ toString offset
  | duplicatePlugin kind first second =>
    "Duplicate plugin " ++ kind.title ++ " in registry (offsets " ++ toString first.toNat ++
      " and " ++ toString second.toNat ++ ")"
  | collectionMismatch assetCollection supplied =>
    "Collection mismatch: asset belongs to " ++ assetCollection.toBase58 ++ ", got " ++
      supplied.toBase58
  | missingRequiredInput inputs =>
    "Missing required input(s) for extra account resolution: " ++ ", ".intercalate inputs
  | invalidSeeds program reason =>
    "Invalid PDA seeds for program " ++ program.toBase58 ++ ": " ++ reason.message
  | unsupportedLink hookedProgram =>
    "Unsupported data section link to LinkedLifecycleHook " ++ hookedProgram.toBase58
  | unsupportedSchema schema offset =>
    "Unsupported adapter data schema " ++ schema.title ++ " at offset " ++ toString offset ++
      ", returning raw bytes"

/-- The short name of an error's kind. -/
def kindName : Error → String
  | decode .. => "decode"
  | unexpectedKey .. => "unexpected_key"
  | unknownRegistryEntry .. => "unknown_registry_entry"
  | duplicatePlugin .. => "duplicate_plugin"
  | collectionMismatch .. => "collection_mismatch"
  | missingRequiredInput .. => "missing_required_input"
  | invalidSeeds .. => "invalid_seeds"
  | unsupportedLink .. => "unsupported_link"
  | unsupportedSchema .. => "unsupported_schema"

/-- Whether an error ends the operation that meets it. -/
def isFatal : Error → Bool
  | unknownRegistryEntry .. => false
  | unsupportedSchema .. => false
  | _ => true

end Error

end DigitalAsset
