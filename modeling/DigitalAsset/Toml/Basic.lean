/-!
# TOML documents

A document is a table of named values.  Besides its entries a table remembers what brought it
about, because that decides what may still be added to it: a table written in braces is complete, a
table with a header of its own takes no second header, a table that is only named inside longer
headers may still get one, and a table made by dotted keys grows by dotted keys alone.

`Table.ofStatements?` builds the document from its statements in order; a statement that adds to a
table what may not be added has no place.
-/

namespace DigitalAsset.Toml

/-- What brought a table about. -/
inductive Origin where
  /-- It is written in braces. -/
  | braces
  /-- It has a header of its own. -/
  | header
  /-- It is named on the way to another table's header. -/
  | implied
  /-- It is named on the way to a value's key. -/
  | dotted
  deriving DecidableEq, Repr

/-- A value, or a table, or a list of tables that share a header. -/
inductive Value where
  | string (s : String)
  | integer (n : Int)
  /-- A number with a fraction or an exponent, as written. -/
  | float (text : String)
  | boolean (b : Bool)
  /-- A date, a time of day or both, as written. -/
  | moment (text : String)
  | array (items : List Value)
  | table (origin : Origin) (entries : List (String × Value))
  | tables (items : List (List (String × Value)))

/-- The entries of a table, in the order in which they were added. -/
abbrev Table := List (String × Value)

namespace Table

/-- The value with a given name. -/
def get? (t : Table) (name : String) : Option Value := (t.find? (·.1 = name)).map (·.2)

/-- The table with one more entry. -/
def add (t : Table) (name : String) (v : Value) : Table := t ++ [(name, v)]

/-- The table with another value for a name that it has. -/
def set (t : Table) (name : String) (v : Value) : Table :=
  t.map fun e => if e.1 = name then (name, v) else e

/-- A list with its last item changed. -/
def changeLast (f : Table → Option Table) : List Table → Option (List Table)
  | [] => none
  | [t] => (f t).map ([·])
  | t :: rest => (changeLast f rest).map (t :: ·)

/-! ## Keys -/

/-- The table with a value at a dotted key: `path` are the parts of the key before the last.  A
table on the way must be implied or dotted, and the one that takes the value must be dotted, unless
it is the table itself. -/
def insert? (name : String) (v : Value) : (path : List String) → Table → Option Table
  | [], t => if (t.get? name).isSome then none else some (t.add name v)
  | p :: path, t =>
    match t.get? p with
    | none => (insert? name v path []).map fun u => t.add p (.table .dotted u)
    | some (.table origin u) =>
      if origin = .dotted ∨ (origin = .implied ∧ path ≠ []) then
        (insert? name v path u).map fun u => t.set p (.table origin u)
      else none
    | some (.tables us) =>
      if path = [] then none
      else (changeLast (insert? name v path) us).map fun us => t.set p (.tables us)
    | some _ => none

/-! ## Headers -/

/-- The table with the table at a path changed; a list of tables stands for its last one, and a
table on the way that is not there is implied. -/
def modify? (f : Table → Option Table) : (path : List String) → Table → Option Table
  | [], t => f t
  | p :: path, t =>
    match t.get? p with
    | none => (modify? f path []).map fun u => t.add p (.table .implied u)
    | some (.table origin u) =>
      if origin = .braces then none
      else (modify? f path u).map fun u => t.set p (.table origin u)
    | some (.tables us) => (changeLast (modify? f path) us).map fun us => t.set p (.tables us)
    | some _ => none

/-- The table after the header of a table inside it. -/
def openTable? (name : String) (t : Table) : Option Table :=
  match t.get? name with
  | none => some (t.add name (.table .header []))
  | some (.table .implied u) => some (t.set name (.table .header u))
  | some _ => none

/-- The table after the header of one more table in a list inside it. -/
def openItem? (name : String) (t : Table) : Option Table :=
  match t.get? name with
  | none => some (t.add name (.tables [[]]))
  | some (.tables us) => some (t.set name (.tables (us ++ [[]])))
  | some _ => none

end Table

/-! ## Statements -/

/-- A key: its parts before the last, and the last. -/
structure Key where
  path : List String
  name : String

/-- What one line, or one value over several lines, says. -/
inductive Statement where
  /-- A value for a key. -/
  | pair (key : Key) (value : Value)
  /-- The header of a table. -/
  | table (key : Key)
  /-- The header of one more table in a list. -/
  | item (key : Key)

/-- A document being built: what it holds, and the path of the table that values go to. -/
structure Draft where
  root : Table
  here : List String

/-- The draft after one more statement. -/
def Draft.add (d : Draft) : Statement → Option Draft
  | .pair key v =>
    (d.root.modify? (Table.insert? key.name v key.path) d.here).map fun t => ⟨t, d.here⟩
  | .table key =>
    (d.root.modify? (Table.openTable? key.name) key.path).map fun t =>
      ⟨t, key.path ++ [key.name]⟩
  | .item key =>
    (d.root.modify? (Table.openItem? key.name) key.path).map fun t =>
      ⟨t, key.path ++ [key.name]⟩

/-- The document that statements make, if each has a place. -/
def Table.ofStatements? (statements : List Statement) : Option Table :=
  (statements.foldlM Draft.add ⟨[], []⟩).map (·.root)

/-- The table that is written in braces, if each of its pairs has a place. -/
def Table.ofPairs? (pairs : List (Key × Value)) : Option Table :=
  pairs.foldlM (fun t (k, v) => Table.insert? k.name v k.path t) []

end DigitalAsset.Toml
