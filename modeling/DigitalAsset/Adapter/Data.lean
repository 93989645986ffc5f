import DigitalAsset.Adapter.Table
import DigitalAsset.Settings.Basic

/-!
# Adapter data

The bytes attached to an adapter are read in its declared schema.  Bytes that should be JSON and are
not stay raw bytes, unless the settings ask for an error.  An empty JSON blob has not been written
yet and counts as no data.

How texts spell JSON values can be chosen.  Where nothing is said it is `Json.parse`.
-/

namespace DigitalAsset

/-- The JSON value that bytes spell in UTF-8. -/
def Json.ofBytes (bytes : Bytes) (spelling : Json.Spelling := Json.parse) : Except Reason Json :=
  match Utf8.decode bytes with
  | .error flaw => .error (.notUtf8 flaw)
  | .ok text =>
    match spelling text with
    | .error fault => .error (.notJson fault)
    | .ok value => .ok value

namespace AdapterData

/-- The name of attached data in errors. -/
def what : String := "adapter data"

/-- The data that bytes found at `offset` hold under a schema. -/
def read (settings : Settings) (schema : Schema) (offset : Nat) (bytes : Bytes)
    (spelling : Json.Spelling := Json.parse) : Except Error (Option AdapterData) :=
  match schema with
  | .binary => .ok (some (binary bytes))
  | .msgPack => .ok (some (binary bytes))
  | .json =>
    if bytes.isEmpty then .ok none
    else
      match Json.ofBytes bytes spelling with
      | .ok value => .ok (some (json value))
      | .error reason =>
        if settings.jsonFallbackToBinary then .ok (some (binary bytes))
        else .error (.decode what offset reason)

end AdapterData

end DigitalAsset
