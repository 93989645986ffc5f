import DigitalAsset.File
import DigitalAsset.Number.Unsigned
import DigitalAsset.Settings.Basic

/-!
# Errors of settings

What can be wrong with settings and with the places that they come from.  An error is told as a
chain of texts, each of which is the cause of the one before.
-/

namespace DigitalAsset

/-- Why there are no settings. -/
inductive Settings.Error where
  /-- The settings file cannot be read. -/
  | unreadable (path : String) (flaw : File.Flaw)
  /-- The settings file is no TOML, or an entry has a value of the wrong kind. -/
  | malformed
  /-- The variable for the width of unknown tags is no number. -/
  | width (flaw : Unsigned.Flaw)
  /-- A text is no duplicate policy. -/
  | unknownPolicy (text : String)
  /-- The variable for the duplicate policy holds none. -/
  | policy (text : String)
  /-- The variable for the treatment of data that is no JSON holds no truth value. -/
  | fallback
  /-- Unknown tags would take no bytes. -/
  | zeroWidth
  deriving DecidableEq, Repr

namespace Settings

/-- The variable for the width of unknown tags. -/
def widthVariable : String := "ASSET_PLUGINS_UNKNOWN_TAG_WIDTH"

/-- The variable for the duplicate policy. -/
def policyVariable : String := "ASSET_PLUGINS_DUPLICATE_PLUGINS"

/-- The variable for the treatment of data that should be JSON and is not. -/
def fallbackVariable : String := "ASSET_PLUGINS_JSON_FALLBACK"

/-- The text for a text that is no duplicate policy. -/
def unknownPolicyMessage (text : String) : String :=
  "unknown duplicate plugin policy '" ++ text ++ "'"

/-- The texts of an error, the cause of each after it. -/
def Error.chain : Error → List String
  | .unreadable path flaw => ["Failed to read config file " ++ path, flaw.message]
  | .malformed => ["Failed to parse TOML config"]
  | .width flaw => ["Invalid " ++ widthVariable ++ ": " ++ flaw.message]
  | .unknownPolicy text => [unknownPolicyMessage text]
  | .policy text => ["Invalid " ++ policyVariable, unknownPolicyMessage text]
  | .fallback =>
    ["Invalid " ++ fallbackVariable ++ ": provided string was not `true` or `false`"]
  | .zeroWidth => ["unknown_tag_width must be > 0"]

/-- Settings have to give unknown tags at least one byte. -/
def validate (s : Settings) : Except Error Unit :=
  if s.unknownTagWidth = 0 then .error .zeroWidth else .ok ()

end Settings

end DigitalAsset
