import DigitalAsset.Authority
import DigitalAsset.Registry.Checks
import DigitalAsset.Settings.Basic

/-!
# Registry entries

A registry entry names the kind and the authority of a plugin or adapter and says where its payload
stands.  A later version may write kinds that this one does not know: such an entry is read like
any other, its tag having the width that the settings give, and answered as `Entry.unknown`.
-/

namespace DigitalAsset

/-! ## Records -/

/-- The registry record of a plugin. -/
structure PluginRecord where
  kind : PluginKind
  authority : Authority
  offset : UInt64
  deriving DecidableEq

/-- The registry record of an adapter. -/
structure AdapterRecord where
  kind : AdapterKind
  authority : Authority
  checks : Option Checks
  offset : UInt64
  dataOffset : Option UInt64
  dataLength : Option UInt64
  deriving DecidableEq

/-- A registry entry: a record, or an entry whose tag is unknown. -/
inductive Entry (α : Type) where
  | known (record : α)
  | unknown (tag : UInt8) (offset : Nat)
  deriving DecidableEq

namespace Entry

/-- The record of an entry, if its tag is known. -/
def record? : Entry α → Option α
  | known record => some record
  | unknown .. => none

/-- The record of an entry, or the error that its unknown tag is. -/
def toExcept : Entry α → Except Error α
  | known record => .ok record
  | unknown tag offset => .error (.unknownRegistryEntry tag offset)

end Entry

/-! ## Reading -/

namespace Entry

/-- The name of a tag in errors. -/
def tagName : String := "registry_record.plugin_type"

/-- The reader of a tag; of an unknown one as many bytes are taken as the settings say, and at
least one. -/
def tagReader (settings : Settings) (ofTag? : UInt8 → Option κ) : Reader (Entry κ) := do
  let start ← Reader.position
  let tag ← Reader.u8 tagName
  match ofTag? tag with
  | some kind => return known kind
  | none => do
    Reader.skip tagName (settings.unknownTagWidth - 1)
    return unknown tag start

/-- An entry with another record made of its own. -/
def map (f : α → β) : Entry α → Entry β
  | known a => known (f a)
  | unknown tag offset => unknown tag offset

end Entry

namespace PluginRecord

/-- The reader of the registry entry of a plugin. -/
def entryReader (settings : Settings) : Reader (Entry PluginRecord) := do
  let tag ← Entry.tagReader settings PluginKind.ofTag?
  let authority ← Authority.reader
  let offset ← Reader.u64 "registry_record.offset"
  return tag.map fun kind => ⟨kind, authority, offset⟩

end PluginRecord

namespace AdapterRecord

/-- The reader of one event and its flags. -/
def checkReader : Reader (Event × CheckResult) := do
  let event ← Reader.tagged "lifecycle_event" "lifecycle event" fun tag =>
    (Event.ofTag? tag).map pure
  let flags ← Reader.u32 "external_record.check_result"
  return (event, ⟨flags⟩)

/-- The reader of lifecycle checks. -/
def checksReader : Reader Checks := do
  return Checks.ofList (← Reader.list "external_record.lifecycle_checks" checkReader)

/-- The reader of the registry entry of an adapter. -/
def entryReader (settings : Settings) : Reader (Entry AdapterRecord) := do
  let tag ← Entry.tagReader settings AdapterKind.ofTag?
  let authority ← Authority.reader
  let checks ← Reader.option "external_record.lifecycle_checks" checksReader
  let offset ← Reader.u64 "external_record.offset"
  let dataOffset ← Reader.option "external_record.data_offset" (Reader.u64 "data_offset")
  let dataLength ← Reader.option "external_record.data_len" (Reader.u64 "data_len")
  return tag.map fun kind => ⟨kind, authority, checks, offset, dataOffset, dataLength⟩

end AdapterRecord

/-- The answer of an entry reader; after a failure no later entry can be found, so the position is
the end of the buffer. -/
def Entry.readAt (reader : Reader (Entry α)) (data : Bytes) (pos : Nat) : Outcome (Entry α) :=
  match reader data pos with
  | ⟨.ok entry, next⟩ => ⟨.ok entry, next⟩
  | ⟨.error e, _⟩ => ⟨.error e, data.length⟩

/-- The answers to `count` entries, each read from where the one before it ended. -/
def Entry.readMany (reader : Reader (Entry α)) (data : Bytes) : (pos count : Nat) →
    List (Outcome (Entry α))
  | _, 0 => []
  | pos, count + 1 =>
    let outcome := Entry.readAt reader data pos
    outcome :: Entry.readMany reader data outcome.next count

end DigitalAsset
