import DigitalAsset.Error
import DigitalAsset.Settings.Error
import DigitalAsset.Text.Base64
import DigitalAsset.Text.Hex

/-!
# Failures of a run

What ends a run whose options can be read.  A failure is told as a chain of texts, each of which is
the cause of the one before.
-/

namespace DigitalAsset.CommandLine

/-- Why a run prints no summary. -/
inductive Failure where
  /-- There are no settings in a file. -/
  | settingsFile (path : String) (error : Settings.Error)
  /-- The environment spoils the settings. -/
  | settings (error : Settings.Error)
  /-- An account file cannot be read. -/
  | unreadable (path : String) (flaw : File.Flaw)
  /-- An account file is no base 64 text. -/
  | notBase64 (path : String) (flaw : Base64.Flaw)
  /-- An account file is no hexadecimal text. -/
  | notHex (path : String) (flaw : Hex.Flaw)
  /-- The asset file holds no asset. -/
  | asset (path : String) (error : Error)
  /-- The collection file holds no collection. -/
  | collection (path : String) (error : Error)
  /-- The asset does not take over what its collection carries. -/
  | derivation (error : Error)
  /-- The extra accounts of an event are not resolved. -/
  | resolution (event : Event) (error : Error)
  /-- The permissions of a principal are not evaluated. -/
  | permissions (error : Error)
  deriving DecidableEq

namespace Failure

/-- The texts of a failure, the cause of each after it. -/
def chain : Failure → List String
  | settingsFile path error => ("Failed to load config from " ++ path) :: error.chain
  | settings error => error.chain
  | unreadable path flaw => ["Failed to read " ++ path, flaw.message]
  | notBase64 path flaw => [path ++ " is not valid base64", flaw.message]
  | notHex path flaw => [path ++ " is not valid hex", flaw.message]
  | asset path error => ["Failed to decode asset account " ++ path, error.message]
  | collection path error => ["Failed to decode collection account " ++ path, error.message]
  | derivation error => ["Failed to derive asset plugins", error.message]
  | resolution event error =>
    ["Failed to resolve extra accounts for " ++ event.title, error.message]
  | permissions error => [error.message]

/-- A text after a mark, the lines after its first under the text and not under the mark. -/
def hang (mark text : String) : String :=
  let indent := String.ofList ('\n' :: List.replicate mark.length ' ')
  mark ++ indent.intercalate (text.splitOn "\n")

/-- The mark before the cause with a given number: the number takes five places. -/
def numberMark (n : Nat) : String :=
  let digits := toString n
  String.ofList (List.replicate (5 - digits.length) ' ') ++ digits ++ ": "

/-- The causes of a failure, which are numbered if there are several. -/
def causes : List String → List String
  | [cause] => [hang "    " cause]
  | many => many.mapIdx fun n cause => hang (numberMark n) cause

/-- What a run says about a failure. -/
def report (f : Failure) : String :=
  match f.chain with
  | [] => "Error: "
  | [top] => "Error: " ++ top
  | top :: rest => "Error: " ++ top ++ "\n\nCaused by:\n" ++ "\n".intercalate (causes rest)

end Failure

end DigitalAsset.CommandLine
