import DigitalAsset.Adapter.Kind
import DigitalAsset.Address
import DigitalAsset.Environment.Basic

/-!
# Command line options

Options stand in any order and each at most once.  One with a value takes it from the next argument
or, after an equality sign, from the same one; options of one letter may stand in one argument.
Arguments that are no options are refused.
-/

namespace DigitalAsset.CommandLine

/-- How the bytes of an account are written in a file. -/
inductive Encoding where
  | base64
  | hex
  deriving DecidableEq, Repr

/-- The encoding with a given name. -/
def Encoding.ofName? (name : String) : Option Encoding :=
  if name = "base64" then some .base64
  else if name = "hex" then some .hex
  else none

/-- What a run is asked to do. -/
structure Options where
  /-- The file of the asset. -/
  asset : String
  assetAddress : Option Address := none
  /-- The file of the collection. -/
  collection : Option String := none
  collectionAddress : Option Address := none
  encoding : Encoding := .base64
  /-- The event to resolve extra accounts for. -/
  event : Option Event := none
  recipient : Option Address := none
  /-- The principal to evaluate permissions for. -/
  principal : Option Address := none
  /-- The settings file. -/
  config : Option String := none
  verbose : Bool := false

/-- Why there are no options. -/
inductive Stop where
  /-- A description of the options was asked for. -/
  | help
  /-- The version was asked for. -/
  | version
  /-- The arguments are no options, or none is where one has to be. -/
  | misuse
  deriving DecidableEq, Repr

/-! ## Collecting options -/

/-- The options that arguments have given so far. -/
structure Given where
  asset : Option String := none
  assetAddress : Option Address := none
  collection : Option String := none
  collectionAddress : Option Address := none
  encoding : Option Encoding := none
  event : Option Event := none
  recipient : Option Address := none
  principal : Option Address := none
  config : Option String := none
  verbose : Bool := false

/-- The value of an option that has none yet, if it can be read. -/
def once (old new : Option α) : Except Stop (Option α) :=
  if old.isNone ∧ new.isSome then .ok new else .error .misuse

/-- A path, which has at least one character. -/
def path? (text : String) : Option String := if text = "" then none else some text

/-- An event. -/
def event? (text : String) : Option Event := (Event.parse text).toOption

/-- Give an option its value. -/
def Given.set (g : Given) (name value : String) : Except Stop Given :=
  match name with
  | "asset" => return { g with asset := ← once g.asset (path? value) }
  | "asset-address" =>
    return { g with assetAddress := ← once g.assetAddress (Address.ofBase58? value) }
  | "collection" => return { g with collection := ← once g.collection (path? value) }
  | "collection-address" =>
    return { g with collectionAddress := ← once g.collectionAddress (Address.ofBase58? value) }
  | "encoding" => return { g with encoding := ← once g.encoding (Encoding.ofName? value) }
  | "event" => return { g with event := ← once g.event (event? value) }
  | "recipient" => return { g with recipient := ← once g.recipient (Address.ofBase58? value) }
  | "principal" => return { g with principal := ← once g.principal (Address.ofBase58? value) }
  | "config" => return { g with config := ← once g.config (path? value) }
  | _ => .error .misuse

/-- Switch an option on that takes no value. -/
def Given.switch (g : Given) (name : String) : Except Stop Given :=
  match name with
  | "verbose" => if g.verbose then .error .misuse else .ok { g with verbose := true }
  | "help" => .error .help
  | "version" => .error .version
  | _ => .error .misuse

/-- Whether an option takes no value. -/
def isSwitch (name : String) : Bool := name = "verbose" || name = "help" || name = "version"

/-! ## Reading arguments -/

/-- Whether an argument can be the value of the option before it. -/
def isValue (argument : String) : Bool := argument = "-" || !argument.startsWith "-"

/-- What an argument of one-letter options asks for. -/
inductive Letters where
  /-- Nothing more. -/
  | done
  /-- The settings file, whose path is the rest of the argument. -/
  | config (path : String)
  /-- The settings file, whose path is the next argument. -/
  | configNext

/-- Read the letters of an argument. -/
def readLetters (g : Given) : List Char → Except Stop (Given × Letters)
  | [] => .ok (g, .done)
  | 'v' :: cs => do readLetters (← g.switch "verbose") cs
  | 'h' :: _ => .error .help
  | 'V' :: _ => .error .version
  | ['c'] => .ok (g, .configNext)
  | 'c' :: '=' :: cs => .ok (g, .config (String.ofList cs))
  | 'c' :: cs => .ok (g, .config (String.ofList cs))
  | _ => .error .misuse

/-- Read arguments.  After `--` no option stands, and nothing else may. -/
def readArguments (g : Given) : List String → Except Stop Given
  | [] => .ok g
  | argument :: rest => do
    match argument.toList with
    | ['-', '-'] => if rest.isEmpty then .ok g else .error .misuse
    | '-' :: '-' :: body =>
      let name := String.ofList (body.takeWhile (· ≠ '='))
      match body.dropWhile (· ≠ '=') with
      | _ :: value => readArguments (← g.set name (String.ofList value)) rest
      | [] =>
        if isSwitch name then readArguments (← g.switch name) rest
        else
          match rest with
          | value :: rest =>
            if isValue value then readArguments (← g.set name value) rest else .error .misuse
          | [] => .error .misuse
    | '-' :: letter :: letters =>
      match ← readLetters g (letter :: letters) with
      | (g, .done) => readArguments g rest
      | (g, .config path) => readArguments (← g.set "config" path) rest
      | (g, .configNext) =>
        match rest with
        | value :: rest =>
          if isValue value then readArguments (← g.set "config" value) rest else .error .misuse
        | [] => .error .misuse
    | _ => .error .misuse

/-- The variable that names the settings file if no option does. -/
def configVariable : String := "ASSET_PLUGINS_CONFIG"

/-- The options that arguments give, the environment standing in for the settings file. -/
def Options.parse (env : Environment) (arguments : List String) : Except Stop Options := do
  let g ← readArguments {} arguments
  let config ← match g.config, env.get? configVariable with
    | none, some value => once none (path? value)
    | config, _ => .ok config
  match g.asset with
  | none => .error .misuse
  | some asset =>
    return {
      asset := asset
      assetAddress := g.assetAddress
      collection := g.collection
      collectionAddress := g.collectionAddress
      encoding := g.encoding.getD .base64
      event := g.event
      recipient := g.recipient
      principal := g.principal
      config := config
      verbose := g.verbose }

end DigitalAsset.CommandLine
