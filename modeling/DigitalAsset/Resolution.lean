import DigitalAsset.Adapter.Table
import DigitalAsset.ProgramAddress

/-!
# Resolution of extra accounts

The adapters that listen to a lifecycle event ask for accounts: first the oracles, then the
lifecycle hooks, then the linked lifecycle hooks.  A hook asks for its own program and then for its
extra accounts.  Resolution goes through all of these requests.  Seeds without a program address end
it at once; addresses that were not supplied are collected, and only if none is missing are there
accounts to answer with.
-/

namespace DigitalAsset

/-! ## Inputs -/

/-- The well-known addresses that are supplied to a resolution. -/
structure Inputs where
  asset : Option Address := none
  collection : Option Address := none
  owner : Option Address := none
  recipient : Option Address := none
  deriving DecidableEq

/-- A well-known address, if it is supplied. -/
def Inputs.get? (inputs : Inputs) : WellKnown → Option Address
  | .asset => inputs.asset
  | .collection => inputs.collection
  | .owner => inputs.owner
  | .recipient => inputs.recipient

/-- An account of an instruction. -/
structure AccountMeta where
  key : Address
  flags : AccountFlags
  deriving DecidableEq

/-- An account that is neither signed nor written. -/
def AccountMeta.readOnly (key : Address) : AccountMeta := ⟨key, ⟨false, false⟩⟩

/-! ## Requests -/

/-- What an adapter asks for: a fixed account that is only read, or an extra account described for
a program. -/
inductive Request where
  | readOnly (key : Address)
  | extra (description : ExtraAccount) (program : Address)
  deriving DecidableEq

/-- The request of an oracle. -/
def Oracle.request (o : Oracle) : Request :=
  match o.baseAddressConfig with
  | some description => .extra description o.baseAddress
  | none => .readOnly o.baseAddress

/-- The requests of a hook. -/
def Hook.requests (h : Hook) : List Request :=
  .readOnly h.hookedProgram :: (h.extraAccounts.getD []).map (.extra · h.hookedProgram)

/-- The payloads of the entries that listen to an event. -/
def listening (event : Event) (entries : List (AttachedAdapter α)) : List α :=
  (entries.filter (·.listensTo event)).map (·.payload)

/-- The requests of all adapters that listen to an event. -/
def AdapterTable.requests (table : AdapterTable) (event : Event) : List Request :=
  (listening event table.oracles).map Oracle.request ++
    (listening event table.lifecycleHooks ++ listening event table.linkedLifecycleHooks).flatMap
      Hook.requests

/-! ## Resolving one request -/

/-- What became of a request: its answer, or the inputs that it lacks. -/
inductive Resolution (α : Type) where
  | found (answer : α)
  | lacking (inputs : List WellKnown)
  deriving DecidableEq

namespace Resolution

/-- The answer, if there is one. -/
def answer? : Resolution α → Option α
  | found a => some a
  | lacking _ => none

/-- The inputs that are lacking. -/
def missing : Resolution α → List WellKnown
  | found _ => []
  | lacking inputs => inputs

/-- The same with another answer made of its own. -/
def map (f : α → β) : Resolution α → Resolution β
  | found a => found (f a)
  | lacking inputs => lacking inputs

end Resolution

namespace Seed

/-- The bytes of a seed, if the address that it refers to is supplied. -/
def bytes? (inputs : Inputs) : Seed → Option Bytes
  | wellKnown w => (inputs.get? w).map (·.bytes)
  | address a => some a.bytes
  | bytes b => some b

/-- The address that a seed refers to and that is not supplied. -/
def missing (inputs : Inputs) : Seed → List WellKnown
  | wellKnown w => if (inputs.get? w).isSome then [] else [w]
  | address _ => []
  | bytes _ => []

end Seed

/-- The seed that begins the seeds of every preconfigured account: `mpl-core`. -/
def preconfiguredSeed : Bytes := "mpl-core".toList.map fun c => UInt8.ofNat c.toNat

/-- The address that a search finds for seeds; it has to find one. -/
def derivedAddress (find : AddressSearch) (seeds : List Bytes) (program : Address) :
    Except Error Address :=
  match find seeds program with
  | some a => .ok a
  | none => .error (.invalidSeeds program (.noBump seeds.length))

namespace AccountSource

/-- The key of an extra account that `program` asks for. -/
def resolve (find : AddressSearch) (inputs : Inputs) (program : Address) :
    AccountSource → Except Error (Resolution Address)
  | .address a => .ok (.found a)
  | .preconfiguredProgram =>
    (derivedAddress find [preconfiguredSeed, program.bytes] program).map .found
  | .preconfigured w =>
    match inputs.get? w with
    | some key => (derivedAddress find [preconfiguredSeed, key.bytes] program).map .found
    | none => .ok (.lacking [w])
  | .customPda seeds custom =>
    let missing := seeds.flatMap (Seed.missing inputs)
    if missing.isEmpty then
      (derivedAddress find (seeds.filterMap (Seed.bytes? inputs)) (custom.getD program)).map .found
    else .ok (.lacking missing)

end AccountSource

/-- The account of a description that `program` asks for. -/
def ExtraAccount.resolve (find : AddressSearch) (inputs : Inputs) (program : Address)
    (extra : ExtraAccount) : Except Error (Resolution AccountMeta) :=
  (extra.source.resolve find inputs program).map (·.map (⟨·, extra.flags⟩))

/-- The account of a request. -/
def Request.resolve (find : AddressSearch) (inputs : Inputs) :
    Request → Except Error (Resolution AccountMeta)
  | .readOnly key => .ok (.found (.readOnly key))
  | .extra description program => description.resolve find inputs program

/-! ## Resolving many -/

/-- The error for lacking inputs: each is named once, in the order in which they were met. -/
def missingError (missing : List WellKnown) : Error :=
  .missingRequiredInput (missing.eraseDups.map WellKnown.name)

/-- The answers of some resolutions, if no input is lacking anywhere. -/
def collectAnswers (resolutions : List (Resolution α)) : Except Error (List α) :=
  let missing := resolutions.flatMap Resolution.missing
  if missing.isEmpty then .ok (resolutions.filterMap Resolution.answer?)
  else .error (missingError missing)

/-- The accounts of some requests. -/
def resolveRequests (find : AddressSearch) (inputs : Inputs) (requests : List Request) :
    Except Error (List AccountMeta) :=
  match requests.mapM (Request.resolve find inputs) with
  | .error e => .error e
  | .ok resolutions => collectAnswers resolutions

/-- The account of one description that `program` asks for. -/
def resolveExtraAccount (find : AddressSearch) (extra : ExtraAccount) (program : Address)
    (inputs : Inputs) : Except Error AccountMeta :=
  match extra.resolve find inputs program with
  | .error e => .error e
  | .ok (.found account) => .ok account
  | .ok (.lacking missing) => .error (missingError missing)

/-- The accounts that the adapters listening to an event ask for. -/
def resolveLifecycle (find : AddressSearch) (event : Event) (table : AdapterTable)
    (inputs : Inputs) : Except Error (List AccountMeta) :=
  resolveRequests find inputs (table.requests event)

end DigitalAsset
