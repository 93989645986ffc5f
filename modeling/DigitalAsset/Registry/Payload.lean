import DigitalAsset.Adapter.Data
import DigitalAsset.Plugin.Slots
import DigitalAsset.Registry.Basic

/-!
# Payloads of registry records

Each record points to a payload in the same buffer, which has to be of the record's kind.  The
plugins of an account go into slots (`PluginSlots.ofRecords`), its adapters into a table
(`AdapterTable.ofRecords`).  Both stop at the first record whose payload cannot be used.
-/

namespace DigitalAsset

/-- The error of a payload named `key` that begins at `offset`: what went wrong inside becomes the
reason. -/
def Error.ofPayload (key : String) (offset : UInt64) : Error → Error
  | .decode what pos reason => .decode key offset.toNat (.inPayload what pos reason)
  | e => e

/-- The payload at `offset` that a record of the given kind points to. -/
def readPayload [DecidableEq κ] (reader : Reader α) (kindOf : α → κ) (name : κ → String)
    (kind : κ) (offset : UInt64) (data : Bytes) : Except Error α :=
  match Reader.indexOf (name kind) offset data with
  | .error e => .error e
  | .ok index =>
    match reader.value data index with
    | .error e => .error (e.ofPayload (name kind) offset)
    | .ok payload =>
      if kindOf payload = kind then .ok payload
      else .error (.decode (name kind) index (.kindMismatch (name (kindOf payload)) (name kind)))

/-! ## Plugins -/

/-- The plugin that a record points to. -/
def PluginRecord.payload (data : Bytes) (r : PluginRecord) : Except Error Plugin :=
  readPayload Plugin.reader Plugin.kind PluginKind.keyName r.kind r.offset data

namespace PluginSlots

/-- The slots with the plugin of one more record; a slot that is taken is an error if the policy
says so. -/
def attach (policy : DuplicatePolicy) (data : Bytes) (slots : PluginSlots) (r : PluginRecord) :
    Except Error PluginSlots :=
  match r.payload data with
  | .error e => .error e
  | .ok plugin =>
    match policy, slots.offset? r.kind with
    | .reject, some first => .error (.duplicatePlugin r.kind first r.offset)
    | _, _ => .ok (slots.insert r.authority r.offset plugin)

/-- The slots that the plugins of some records fill. -/
def ofRecords (settings : Settings) (data : Bytes) (records : List PluginRecord) :
    Except Error PluginSlots :=
  records.foldlM (attach settings.duplicatePlugins data) empty

end PluginSlots

/-! ## Adapters -/

namespace AdapterRecord

/-- The adapter that a record points to. -/
def payload (data : Bytes) (r : AdapterRecord) : Except Error Adapter :=
  readPayload Adapter.reader Adapter.kind AdapterKind.typeName r.kind r.offset data

/-- The data that a record attaches to an adapter, if it gives both an offset and a length. -/
def attachedData (settings : Settings) (data : Bytes) (r : AdapterRecord) (adapter : Adapter)
    (spelling : Json.Spelling := Json.parse) : Except Error (Option AdapterData) :=
  match r.dataOffset, r.dataLength with
  | some offset, some length =>
    match Reader.slice r.kind.typeName data offset.toNat length.toNat with
    | .error e => .error e
    | .ok bytes =>
      AdapterData.read settings (adapter.schema?.getD .binary) offset.toNat bytes spelling
  | _, _ => .ok none

/-- The adapter of a record with all that is attached to it. -/
def attached (settings : Settings) (data : Bytes) (r : AdapterRecord)
    (spelling : Json.Spelling := Json.parse) : Except Error (AttachedAdapter Adapter) :=
  match r.payload data with
  | .error e => .error e
  | .ok adapter =>
    match r.attachedData settings data adapter spelling with
    | .error e => .error e
    | .ok attachedData =>
      .ok
        { authority := r.authority
          offset := r.offset
          checks := r.checks
          dataOffset := r.dataOffset
          dataLength := r.dataLength
          data := attachedData
          payload := adapter }

end AdapterRecord

/-- The table of the adapters of some records. -/
def AdapterTable.ofRecords (settings : Settings) (data : Bytes) (records : List AdapterRecord)
    (spelling : Json.Spelling := Json.parse) : Except Error AdapterTable :=
  records.foldlM (fun table r => (r.attached settings data spelling).map table.push)
    AdapterTable.empty

end DigitalAsset
