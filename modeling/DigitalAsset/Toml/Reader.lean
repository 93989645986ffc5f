import DigitalAsset.Toml.Scalar

/-!
# Reading TOML

`Toml.parse?` reads a document: one statement a line, a value that spans lines counting as one.
Lists and tables in braces may be nested 79 deep, and a key has fewer than 80 parts; the depth that
is left is the measure of the recursion.
-/

namespace DigitalAsset.Toml

open Toml.Parser

/-! ## Keys -/

/-- A character of a key without quotes. -/
def isBare (c : Char) : Bool := c.isAlphanum || c = '-' || c = '_'

/-- A run of bare characters. -/
def bareKey : Parser (List Char) := do
  let cs ← takeWhile isBare
  if cs = [] then failure else return cs

/-- One part of a key, with blanks around it. -/
def keyPart : Parser String := do
  blanks
  let cs ← basicString <|> literalString <|> bareKey
  blanks
  return String.ofList cs

/-- The limit on the parts of a key, and on containers around a value. -/
def depthLimit : Nat := 80

/-- A key. -/
def key : Parser Key := do
  let first ← keyPart
  let rest ← many (do char '.'; keyPart)
  if rest.length + 1 < depthLimit then
    return ⟨(first :: rest).dropLast, rest.getLastD first⟩
  else failure

/-! ## Containers -/

/-- Items with commas between them, or none. -/
def separated (p : Parser α) : Parser (List α) := do
  match ← Parser.optional p with
  | none => return []
  | some a => return a :: (← many (do char ','; p))

/-- The rest of a list after its bracket; a comma may follow the last item. -/
def arrayItems (value : Parser Value) : Parser Value := do
  let vs ← separated do
    gap
    let v ← value
    gap
    return v
  unless vs.isEmpty do
    let _ ← Parser.optional (char ',')
  gap
  char ']'
  return .array vs

/-- A key, an equality sign and a value. -/
def pair (value : Parser Value) : Parser (Key × Value) := do
  let k ← key
  char '='
  blanks
  let v ← value
  blanks
  return (k, v)

/-- The rest of a table after its brace. -/
def tablePairs (value : Parser Value) : Parser Value := do
  let pairs ← separated (pair value)
  blanks
  char '}'
  match Table.ofPairs? pairs with
  | some t => return .table .braces t
  | none => failure

/-- A value; `depth` is one more than the number of containers that may still be opened. -/
def value : (depth : Nat) → Parser Value
  | depth + 2 =>
    scalar <|> (do char '['; arrayItems (value (depth + 1))) <|>
      (do char '{'; tablePairs (value (depth + 1)))
  | _ => scalar

/-! ## Documents -/

/-- A header in brackets: of a table in single ones, of an item of a list in double ones. -/
def header : Parser Statement :=
  (do word "[["; let k ← key; word "]]"; return .item k) <|>
    (do char '['; let k ← key; char ']'; return .table k)

/-- The end of a line, or of the text. -/
def endOfLine : Parser Unit := newline <|> atEnd

/-- One line, with a statement or without. -/
def line : Parser (Option Statement) := do
  blanks
  let statement ← Parser.optional (header <|> (fun (k, v) => .pair k v) <$> pair (value depthLimit))
  blanks
  let _ ← Parser.optional comment
  endOfLine
  return statement

/-- The lines up to the end of the text; `fuel` bounds their number. -/
def lines : (fuel : Nat) → Parser (List Statement)
  | 0 => failure
  | fuel + 1 => do
    if (← get).isEmpty then return []
    let statement ← line
    return statement.toList ++ (← lines fuel)

/-- The characters after a byte order mark. -/
def skipMark : List Char → List Char
  | '\uFEFF' :: cs => cs
  | cs => cs

/-- The document that a text spells. -/
def parse? (text : String) : Option Table := do
  let cs := skipMark text.toList
  let (statements, _) ← lines (cs.length + 1) cs
  Table.ofStatements? statements

end DigitalAsset.Toml
