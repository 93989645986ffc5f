import DigitalAsset.CommandLine.Failure
import DigitalAsset.CommandLine.Options
import DigitalAsset.CommandLine.Summary
import DigitalAsset.Environment.File
import DigitalAsset.Settings.Document
import DigitalAsset.Settings.Environment
import DigitalAsset.Text.Blank

/-!
# Runs

A run loads its settings, reads the accounts, derives the asset, and answers what else it was asked
for.  All that it needs from outside are its arguments, the environment and what reading each path
gives.
-/

namespace DigitalAsset.CommandLine

/-! ## What a run starts from -/

/-- The settings of a file, or the default ones. -/
def baseSettings (source : File.Source) : Option String → Except Failure Settings
  | none => .ok {}
  | some path => (Settings.ofFile source path).mapError (.settingsFile path)

/-- The settings of a run: those of its file, with the environment's overrides. -/
def loadSettings (env : Environment) (source : File.Source) (options : Options) :
    Except Failure Settings := do
  let base ← baseSettings source options.config
  match base.override (env.addDirectory source) with
  | (.ok (), settings) => .ok settings
  | (.error e, _) => .error (.settings e)

/-- A hexadecimal text without any `0x` in front. -/
def withoutMarks : List Char → List Char
  | '0' :: 'x' :: cs => withoutMarks cs
  | cs => cs

/-- The bytes that a text spells in an encoding. -/
def decodeText (path : String) (encoding : Encoding) (text : String) : Except Failure Bytes :=
  match encoding with
  | .base64 => (Base64.decode (Utf8.encode text)).mapError (.notBase64 path)
  | .hex =>
    (Hex.decode (Utf8.encode (String.ofList (withoutMarks text.toList)))).mapError (.notHex path)

/-- The bytes of an account file; blanks around its text do not count. -/
def readAccount (source : File.Source) (encoding : Encoding) (path : String) :
    Except Failure Bytes := do
  let text ← (source.text path).mapError (.unreadable path)
  decodeText path encoding (Blank.trim text)

/-- The asset of a run. -/
def loadAsset (settings : Settings) (source : File.Source) (options : Options) :
    Except Failure Asset := do
  let bytes ← readAccount source options.encoding options.asset
  (Asset.decode settings (options.assetAddress.getD .zero) bytes).mapError (.asset options.asset)

/-- The address of the collection of a run: the one given, or the one that the asset names. -/
def collectionAddress (options : Options) (asset : Asset) : Address :=
  (options.collectionAddress.or asset.collection?).getD .zero

/-- The collection of a run, if it has one. -/
def loadCollection (settings : Settings) (source : File.Source) (options : Options)
    (asset : Asset) : Except Failure (Option Collection) :=
  match options.collection with
  | none => .ok none
  | some path => do
    let bytes ← readAccount source options.encoding path
    let collection ← (Collection.decode settings (collectionAddress options asset) bytes).mapError
      (.collection path)
    return some collection

/-! ## What a run answers -/

/-- The addresses that a run supplies to a resolution. -/
def resolutionInputs (options : Options) (asset : Asset) (collection : Option Collection) :
    Inputs :=
  { asset := asset.address
    owner := asset.base.owner
    collection := (collection.map (·.address)).or asset.collection?
    recipient := options.recipient }

/-- The extra accounts of an event. -/
def resolveEvent (find : AddressSearch) (options : Options) (asset : Asset)
    (collection : Option Collection) (derived : Asset) (event : Event) :
    Except Failure (List AccountMeta) :=
  (resolveLifecycle find event derived.adapters
    (resolutionInputs options asset collection)).mapError (.resolution event)

/-- The permissions of a principal. -/
def permissionsOf (asset : Asset) (collection : Option Collection) (derived : Asset)
    (principal : Address) : Except Error Permissions := do
  let kinds := derived.plugins.kinds
  let held ← asset.pluginAuthorities collection principal kinds
  let canTransfer ← asset.canTransfer collection principal
  let canBurn ← asset.canBurn collection principal
  return {
    principal := principal
    canTransfer := canTransfer
    canBurn := canBurn
    canUpdate := asset.canUpdate collection principal
    pluginAuthority := kinds.zip held }

/-- The answer to a question that may not have been asked. -/
def whenAsked (question : Option α) (answer : α → Except Failure β) : Except Failure (Option β) :=
  match question with
  | none => .ok none
  | some a => (answer a).map some

/-- The summary of an asset and its collection. -/
def summarize (find : AddressSearch) (options : Options) (asset : Asset)
    (collection : Option Collection) : Except Failure Summary := do
  let derived ← (asset.derive collection).mapError .derivation
  let extraAccounts ← whenAsked options.event (resolveEvent find options asset collection derived)
  let permissions ← whenAsked options.principal fun principal =>
    (permissionsOf asset collection derived principal).mapError .permissions
  return {
    asset := derived
    collection := collection
    extraAccounts := extraAccounts
    permissions := permissions }

/-- What a run with given options prints. -/
def execute (find : AddressSearch) (env : Environment) (source : File.Source)
    (options : Options) : Except Failure Summary := do
  let settings ← loadSettings env source options
  let asset ← loadAsset settings source options
  let collection ← loadCollection settings source options asset
  summarize find options asset collection

/-! ## Whole runs -/

/-- How a run ends. -/
inductive Ending where
  /-- With a summary. -/
  | printed (summary : Summary)
  /-- With a failure. -/
  | failed (failure : Failure)
  /-- Before it has begun. -/
  | stopped (stop : Stop)

/-- A run with given arguments. -/
def run (find : AddressSearch) (env : Environment) (source : File.Source)
    (arguments : List String) : Ending :=
  match Options.parse env arguments with
  | .error stop => .stopped stop
  | .ok options =>
    match execute find env source options with
    | .ok summary => .printed summary
    | .error failure => .failed failure

/-- The number that a run ends with: zero if it has answered. -/
def Ending.exitCode : Ending → Nat
  | printed _ => 0
  | failed _ => 1
  | stopped .help => 0
  | stopped .version => 0
  | stopped .misuse => 2

end DigitalAsset.CommandLine
