import DigitalAsset.Codec.Reader

/-!
# Layouts

A layout describes one value of a buffer as data: a primitive, bytes to step over, something to look
up elsewhere in the buffer, or an option or list of a layout.  `Layout.reader` is the reader of the
value described, and `Layout.script` runs several layouts in turn, each from where the one before it
stopped, whether that one failed or not.
-/

namespace DigitalAsset

/-- The description of a value; each part carries the name that its errors give it. -/
inductive Layout where
  | u8 (what : String)
  | u16 (what : String)
  | u32 (what : String)
  | u64 (what : String)
  | bool (what : String)
  | string (what : String)
  | blob (what : String)
  | address (what : String)
  | skip (what : String) (width : Nat)
  | slice (what : String) (offset length : Nat)
  | index (what : String) (offset : UInt64)
  | option (what : String) (item : Layout)
  | list (what : String) (item : Layout)
  deriving DecidableEq, Repr

/-- A value that a layout describes. -/
inductive Datum where
  | nat (n : Nat)
  | bool (b : Bool)
  | string (s : String)
  | blob (bytes : Bytes)
  | address (a : Address)
  | skipped
  | option (item : Option Datum)
  | list (items : List Datum)

namespace Layout

/-- The reader of the value that a layout describes. -/
def reader : Layout → Reader Datum
  | u8 what => do return .nat (← Reader.u8 what).toNat
  | u16 what => do return .nat (← Reader.u16 what).toNat
  | u32 what => do return .nat (← Reader.u32 what).toNat
  | u64 what => do return .nat (← Reader.u64 what).toNat
  | bool what => do return .bool (← Reader.bool what)
  | string what => do return .string (← Reader.string what)
  | blob what => do return .blob (← Reader.blob what)
  | address what => do return .address (← Reader.address what)
  | skip what width => do
    Reader.skip what width
    return .skipped
  | slice what offset length => do
    return .blob (← Reader.lookUp fun data => Reader.slice what data offset length)
  | index what offset => do return .nat (← Reader.lookUp (Reader.indexOf what offset))
  | option what item => do return .option (← Reader.option what item.reader)
  | list what item => do return .list (← Reader.list what item.reader)

/-- The answers to layouts read one after the other. -/
def script (data : Bytes) : (pos : Nat) → List Layout → List (Outcome Datum)
  | _, [] => []
  | pos, l :: ls =>
    let outcome := l.reader data pos
    outcome :: script data outcome.next ls

end Layout

end DigitalAsset
