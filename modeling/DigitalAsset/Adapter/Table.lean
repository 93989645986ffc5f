import DigitalAsset.Adapter.Codec
import DigitalAsset.Registry.Checks

/-!
# Adapter tables

An account holds any number of adapters of each kind, each in the order of the registry and with
what its registry record says about it.
-/

namespace DigitalAsset

/-- Data attached to an adapter: raw bytes, or a value read from them. -/
inductive AdapterData where
  | binary (bytes : Bytes)
  | json (value : Json)

/-- An adapter's payload with what its registry record says about it, and its data. -/
structure AttachedAdapter (α : Type) where
  authority : Authority
  offset : UInt64
  checks : Option Checks
  dataOffset : Option UInt64
  dataLength : Option UInt64
  data : Option AdapterData
  payload : α

namespace AttachedAdapter

/-- The same attachment around another payload. -/
def withPayload (entry : AttachedAdapter α) (payload : β) : AttachedAdapter β :=
  { authority := entry.authority
    offset := entry.offset
    checks := entry.checks
    dataOffset := entry.dataOffset
    dataLength := entry.dataLength
    data := entry.data
    payload := payload }

/-- The flags of an adapter for an event, if it listens to it. -/
def checkFor (entry : AttachedAdapter α) (event : Event) : Option CheckResult :=
  entry.checks.bind (·.get? event)

/-- Whether an adapter listens to an event, whatever its flags are. -/
def listensTo (event : Event) (entry : AttachedAdapter α) : Bool := (entry.checkFor event).isSome

end AttachedAdapter

/-- The adapters of an account by kind. -/
structure AdapterTable where
  lifecycleHooks : List (AttachedAdapter Hook)
  oracles : List (AttachedAdapter Oracle)
  appDatas : List (AttachedAdapter AppData)
  linkedLifecycleHooks : List (AttachedAdapter Hook)
  linkedAppDatas : List (AttachedAdapter AppData)
  dataSections : List (AttachedAdapter DataSection)

namespace AdapterTable

/-- A table without adapters. -/
def empty : AdapterTable := ⟨[], [], [], [], [], []⟩

instance : Inhabited AdapterTable := ⟨empty⟩

/-- The table with one more adapter, the last of its kind. -/
def push (table : AdapterTable) (entry : AttachedAdapter Adapter) : AdapterTable :=
  match entry.payload with
  | .lifecycleHook a =>
    { table with lifecycleHooks := table.lifecycleHooks ++ [entry.withPayload a] }
  | .oracle a => { table with oracles := table.oracles ++ [entry.withPayload a] }
  | .appData a => { table with appDatas := table.appDatas ++ [entry.withPayload a] }
  | .linkedLifecycleHook a =>
    { table with linkedLifecycleHooks := table.linkedLifecycleHooks ++ [entry.withPayload a] }
  | .linkedAppData a =>
    { table with linkedAppDatas := table.linkedAppDatas ++ [entry.withPayload a] }
  | .dataSection a => { table with dataSections := table.dataSections ++ [entry.withPayload a] }

/-- Entries of one kind as entries with any adapter. -/
def wrap (make : α → Adapter) (entries : List (AttachedAdapter α)) :
    List (AttachedAdapter Adapter) :=
  entries.map fun e => e.withPayload (make e.payload)

/-- The adapters of a given kind. -/
def ofKind (table : AdapterTable) : AdapterKind → List (AttachedAdapter Adapter)
  | .lifecycleHook => wrap .lifecycleHook table.lifecycleHooks
  | .oracle => wrap .oracle table.oracles
  | .appData => wrap .appData table.appDatas
  | .linkedLifecycleHook => wrap .linkedLifecycleHook table.linkedLifecycleHooks
  | .linkedAppData => wrap .linkedAppData table.linkedAppDatas
  | .dataSection => wrap .dataSection table.dataSections

/-- All adapters, kind by kind. -/
def toList (table : AdapterTable) : List (AttachedAdapter Adapter) :=
  AdapterKind.all.flatMap table.ofKind

/-- The number of adapters. -/
def size (table : AdapterTable) : Nat :=
  table.lifecycleHooks.length + table.oracles.length + table.appDatas.length +
    table.linkedLifecycleHooks.length + table.linkedAppDatas.length + table.dataSections.length

/-- Whether there are no adapters. -/
def isEmpty (table : AdapterTable) : Bool := table.size = 0

/-! ## What pushing does -/

/-- A pushed adapter is the last of its kind, and the other kinds stay as they are. -/
theorem ofKind_push (table : AdapterTable) (entry : AttachedAdapter Adapter) (k : AdapterKind) :
    (table.push entry).ofKind k =
      table.ofKind k ++ if entry.payload.kind = k then [entry] else [] := by
  obtain ⟨authority, offset, checks, dataOffset, dataLength, data, payload⟩ := entry
  cases payload <;> cases k <;>
    simp [push, ofKind, wrap, Adapter.kind, AttachedAdapter.withPayload]

theorem size_push (table : AdapterTable) (entry : AttachedAdapter Adapter) :
    (table.push entry).size = table.size + 1 := by
  unfold push size
  split <;> simp <;> omega

end AdapterTable

end DigitalAsset
