import DigitalAsset.CommandLine.Run

/-!
# The command

Fetches what a run needs from outside (the environment and the files that its options name), runs
it, and writes what it answers.
-/

namespace DigitalAsset.Command

open CommandLine

/-- The options, one a line. -/
def usage : String := "\n".intercalate [
  "Inspect plugin-bearing asset accounts",
  "",
  "Usage: asset-plugins [OPTIONS] --asset <ASSET>",
  "",
  "Options:",
  "      --asset <ASSET>                            File holding the asset account data",
  "      --asset-address <ASSET_ADDRESS>            Address of the asset account",
  "      --collection <COLLECTION>                  File holding the collection account data",
  "      --collection-address <COLLECTION_ADDRESS>  Address of the collection account",
  "      --encoding <ENCODING>                      Encoding of the files: base64 or hex",
  "      --event <EVENT>                            Resolve extra accounts for this event",
  "      --recipient <RECIPIENT>                    Recipient for extra account resolution",
  "      --principal <PRINCIPAL>                    Evaluate permissions for this principal",
  "  -c, --config <CONFIG>                          Path to decoder configuration file",
  "  -v, --verbose                                  Enable verbose logging",
  "  -h, --help                                     Print help",
  "  -V, --version                                  Print version"]

/-- The name and number of this version. -/
def version : String := "asset-plugins 0.1.0"

/-! ## Reading -/

/-- The bytes of a file.  The system may give the code of a name that is too long negated. -/
def readPath (path : String) : IO (Except File.Flaw Bytes) := do
  if '\x00' ∈ path.toList then return .error .zeroByte
  try
    return .ok (← IO.FS.readBinFile path).toList
  catch
    | .noFileOrDirectory .. => return .error .missing
    | .inappropriateType _ code _ =>
      return .error (if code = 21 then .isDirectory else .notDirectory)
    | .invalidArgument _ code details =>
      return .error (if code = 36 ∨ code = -36 then .nameTooLong else .other details)
    | error => return .error (.other (toString error))

/-- The variables that a run may ask for. -/
def askedVariables : List String :=
  [configVariable, Settings.widthVariable, Settings.policyVariable, Settings.fallbackVariable]

/-- The variables of a block of `NAME=value` texts with zero bytes after them. -/
def blockVariables (block : Bytes) : Environment :=
  (block.splitOn 0).filterMap fun entry =>
    let name := entry.takeWhile (· ≠ 61)
    match Utf8.decode name, Utf8.decode (entry.drop (name.length + 1)) with
    | .ok name, .ok value => if name = "" then none else some (name, value)
    | _, _ => none

/-- The environment: all of it where the system shows it as a file, else what a run may ask for. -/
def readEnvironment : IO Environment := do
  match ← readPath "/proc/self/environ" with
  | .ok block => return blockVariables block
  | .error _ =>
    let values ← askedVariables.mapM fun name => return (← IO.getEnv name).map (name, ·)
    return values.filterMap id

/-- How many directories are searched for a file of variables, from the working directory up. -/
def searchDepth : Nat := 64

/-- The nearest file of variables, `depth` directories being left to search. -/
def readVariables (up : String) : (depth : Nat) → IO (Except File.Flaw Bytes)
  | 0 => return .error .missing
  | depth + 1 => do
    match ← readPath (up ++ Environment.fileName) with
    | .error .missing | .error .isDirectory => readVariables (up ++ "../") depth
    | answer => return answer

/-- What reading each path that options name gives. -/
def readSource (options : Options) : IO File.Source := do
  let paths := options.asset :: options.collection.toList ++ options.config.toList
  let contents ← paths.mapM fun path => return (path, ← readPath path)
  let defaults ← readVariables "" searchDepth
  return fun path =>
    match contents.find? (·.1 = path) with
    | some (_, answer) => answer
    | none => if path = Environment.fileName then defaults else .error .missing

/-! ## Writing -/

/-- Write what a run answers. -/
def writeEnding : Ending → IO Unit
  | .printed summary => IO.print summary.render
  | .failed failure => IO.eprintln failure.report
  | .stopped .help => IO.println usage
  | .stopped .version => IO.println version
  | .stopped .misuse => IO.eprintln usage

end DigitalAsset.Command

/-- Run with given arguments. -/
def main (arguments : List String) : IO UInt32 := do
  let env ← DigitalAsset.Command.readEnvironment
  let source ←
    match DigitalAsset.CommandLine.Options.parse env arguments with
    | .ok options => DigitalAsset.Command.readSource options
    | .error _ => pure fun _ => .error .missing
  let ending :=
    DigitalAsset.CommandLine.run DigitalAsset.ProgramAddress.find env source arguments
  DigitalAsset.Command.writeEnding ending
  return ending.exitCode.toUInt32
