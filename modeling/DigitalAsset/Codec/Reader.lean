import DigitalAsset.Error

/-!
# Readers

A reader looks at a whole buffer from a position on.  It answers a value or an error, and in both
cases the position where the next reader would start.  A primitive reader takes its bytes in one
piece: if it fails it has taken nothing.  Composite readers run their parts in turn, so a failing
composite keeps what its parts had taken before.

No reader ever moves backwards, and none starts to move once the position lies beyond the end.
-/

namespace DigitalAsset

/-- The answer of a reader: its value or error, and the position after it. -/
structure Outcome (α : Type) where
  result : Except Error α
  next : Nat

/-- A reader of values of type `α`: from a buffer and a position to an answer. -/
def Reader (α : Type) : Type := Bytes → Nat → Outcome α

namespace Reader

/-- Run a reader on a buffer from a position on. -/
def run (r : Reader α) (data : Bytes) (pos : Nat) : Outcome α := r data pos

/-- The value of a reader, its position forgotten. -/
def value (r : Reader α) (data : Bytes) (pos : Nat) : Except Error α := (r data pos).result

instance : Monad Reader where
  pure a := fun _ pos => ⟨.ok a, pos⟩
  bind r f := fun data pos =>
    match r data pos with
    | ⟨.ok a, next⟩ => f a data next
    | ⟨.error e, next⟩ => ⟨.error e, next⟩

/-- The reader that fails where it stands. -/
def fail (e : Error) : Reader α := fun _ pos => ⟨.error e, pos⟩

/-- The current position. -/
def position : Reader Nat := fun _ pos => ⟨.ok pos, pos⟩

/-- The number of bytes from a position to the end of the buffer. -/
def remaining (data : Bytes) (pos : Nat) : Nat := data.length - pos

/-! ## Primitives -/

/-- A primitive value named `what`: `parse` sees the bytes from the position on and answers the
value with the number of bytes it takes. -/
def primitive (what : String) (parse : Bytes → Except Reason (α × Nat)) : Reader α :=
  fun data pos =>
    if data.length < pos then ⟨.error (.decode what pos .pastEnd), pos⟩
    else
      match parse (data.drop pos) with
      | .ok (a, width) => ⟨.ok a, pos + width⟩
      | .error reason => ⟨.error (.decode what pos reason), pos⟩

/-- The first `width` bytes. -/
def takeExactly (width : Nat) (bytes : Bytes) : Except Reason (Bytes × Nat) :=
  let taken := bytes.take width
  if taken.length = width then .ok (taken, width) else .error .truncated

/-- `width` bytes in one piece. -/
def bytes (what : String) (width : Nat) : Reader Bytes := primitive what (takeExactly width)

/-- A number of `width` bytes. -/
def nat (what : String) (width : Nat) : Reader Nat :=
  primitive what fun rest => (takeExactly width rest).map fun (b, w) => (b.toNatLE, w)

/-- An unsigned integer of 8 bits. -/
def u8 (what : String) : Reader UInt8 := do return UInt8.ofNat (← nat what 1)

/-- An unsigned integer of 16 bits. -/
def u16 (what : String) : Reader UInt16 := do return UInt16.ofNat (← nat what 2)

/-- An unsigned integer of 32 bits. -/
def u32 (what : String) : Reader UInt32 := do return UInt32.ofNat (← nat what 4)

/-- An unsigned integer of 64 bits. -/
def u64 (what : String) : Reader UInt64 := do return UInt64.ofNat (← nat what 8)

/-- A truth value: one byte, 0 or 1. -/
def bool (what : String) : Reader Bool :=
  primitive what fun rest =>
    match rest with
    | [] => .error .truncated
    | b :: _ =>
      if b = 0 then .ok (false, 1) else if b = 1 then .ok (true, 1) else .error (.notBool b)

/-- A byte string after its length in 32 bits, in one piece. -/
def lengthPrefixed (rest : Bytes) : Except Reason (Bytes × Nat) := do
  let (header, _) ← takeExactly 4 rest
  let (body, width) ← takeExactly header.toNatLE (rest.drop 4)
  return (body, 4 + width)

/-- A byte string after its length. -/
def blob (what : String) : Reader Bytes := primitive what lengthPrefixed

/-- A string in UTF-8 after its length in bytes. -/
def string (what : String) : Reader String :=
  primitive what fun rest => do
    let (body, width) ← lengthPrefixed rest
    match Utf8.decode body with
    | .ok s => return (s, width)
    | .error flaw => throw (.notUtf8 flaw)

/-- An address. -/
def address (what : String) : Reader Address := do return Address.ofPrefix (← bytes what 32)

/-- Step over `width` bytes without looking at them. -/
def skip (what : String) (width : Nat) : Reader Unit :=
  fun data pos =>
    if remaining data pos < width then ⟨.error (.decode what pos .endOfBuffer), pos⟩
    else ⟨.ok (), pos + width⟩

/-! ## Composites -/

/-- An optional value: a marker byte 0 or 1, and after 1 the value. -/
def option (what : String) (item : Reader α) : Reader (Option α) := do
  let start ← position
  let marker ← u8 what
  if marker = 0 then return none
  else if marker = 1 then return some (← item)
  else fail (.decode what start (.notOption marker))

/-- `count` values in a row. -/
def repeated (item : Reader α) : (count : Nat) → Reader (List α)
  | 0 => pure []
  | count + 1 => do
    let a ← item
    let rest ← repeated item count
    return a :: rest

/-- A list: its length in 32 bits, then its items. -/
def list (what : String) (item : Reader α) : Reader (List α) := do
  let count ← u32 what
  repeated item count.toNat

/-- A value selected by a tag byte named `what`; `noun` names the tag in the error for a byte that
selects nothing. -/
def tagged (what noun : String) (select : UInt8 → Option (Reader α)) : Reader α := do
  let start ← position
  let tag ← u8 what
  match select tag with
  | some r => r
  | none => fail (.decode what start (.unknown noun tag))

/-- Values in a row up to the first that cannot be read, at most `count` of them. -/
def upTo (item : Reader α) : (count : Nat) → Reader (List α)
  | 0 => pure []
  | count + 1 => fun data pos =>
    match item data pos with
    | ⟨.ok a, next⟩ =>
      match upTo item count data next with
      | ⟨.ok rest, last⟩ => ⟨.ok (a :: rest), last⟩
      | ⟨.error e, last⟩ => ⟨.error e, last⟩
    | ⟨.error _, _⟩ => ⟨.ok [], pos⟩

/-! ## Offsets stored in the buffer -/

/-- The reader that looks something up in the whole buffer and stays where it is. -/
def lookUp (find : Bytes → Except Error α) : Reader α := fun data pos => ⟨find data, pos⟩

/-- The position that a stored offset points to; it has to lie inside the buffer. -/
def indexOf (what : String) (offset : UInt64) (data : Bytes) : Except Error Nat :=
  if offset.toNat < data.length then .ok offset.toNat
  else .error (.decode what offset.toNat (.outside data.length))

/-- The `length` bytes from `offset` on; all of them have to lie inside the buffer. -/
def slice (what : String) (data : Bytes) (offset length : Nat) : Except Error Bytes :=
  if offset + length ≤ data.length then .ok ((data.drop offset).take length)
  else .error (.decode what offset (.overrun length data.length))

end Reader

end DigitalAsset
