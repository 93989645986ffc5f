import DigitalAsset.Json.Basic

/-!
# Printing JSON

`Json.compact` prints a value on one line, `Json.pretty` with one item a line, two blanks for each
container around it, and empty containers closed at once.
-/

namespace DigitalAsset.Json

/-- The text of a number. -/
def Number.render : Number → String
  | .int n => toString n
  | .float x => Shortest.render x

/-- A number below 256 as two hexadecimal digits. -/
def hexPair (n : Nat) : List Char := [Nat.digitChar (n / 16), Nat.digitChar (n % 16)]

/-- A character inside a string: quote, backslash and control characters are escaped. -/
def escapedChar (c : Char) : List Char :=
  if c = '"' then ['\\', '"']
  else if c = '\\' then ['\\', '\\']
  else if c = '\n' then ['\\', 'n']
  else if c = '\r' then ['\\', 'r']
  else if c = '\t' then ['\\', 't']
  else if c = '\x08' then ['\\', 'b']
  else if c = '\x0c' then ['\\', 'f']
  else if c.toNat < 0x20 then ['\\', 'u', '0', '0'] ++ hexPair c.toNat
  else [c]

/-- A string between quotes. -/
def quoted (s : String) : String := String.ofList ('"' :: s.toList.flatMap escapedChar ++ ['"'])

mutual

/-- The text of a value on one line. -/
def compact : Json → String
  | null => "null"
  | bool b => if b then "true" else "false"
  | number n => n.render
  | string s => quoted s
  | array xs => "[" ++ ",".intercalate (compactItems xs) ++ "]"
  | object ms => "\x7b" ++ ",".intercalate (compactMembers ms) ++ "\x7d"

/-- The texts of the items of a list. -/
def compactItems : List Json → List String
  | [] => []
  | x :: xs => compact x :: compactItems xs

/-- The texts of the members of an object. -/
def compactMembers : List (String × Json) → List String
  | [] => []
  | (name, x) :: ms => (quoted name ++ ":" ++ compact x) :: compactMembers ms

end

/-- The line break before an item inside `depth` containers. -/
def lineBreak (depth : Nat) : String := String.ofList ('\n' :: List.replicate (2 * depth) ' ')

/-- Items between brackets, one a line; nothing between them if there are none. -/
def block (opening closing : String) (depth : Nat) (items : List String) : String :=
  if items.isEmpty then opening ++ closing
  else
    opening ++ lineBreak (depth + 1) ++ ("," ++ lineBreak (depth + 1)).intercalate items ++
      lineBreak depth ++ closing

mutual

/-- The text of a value inside `depth` containers, one item a line. -/
def prettyAt (depth : Nat) : Json → String
  | null => "null"
  | bool b => if b then "true" else "false"
  | number n => n.render
  | string s => quoted s
  | array xs => block "[" "]" depth (prettyItems (depth + 1) xs)
  | object ms => block "\x7b" "\x7d" depth (prettyMembers (depth + 1) ms)

/-- The texts of the items of a list inside `depth` containers. -/
def prettyItems (depth : Nat) : List Json → List String
  | [] => []
  | x :: xs => prettyAt depth x :: prettyItems depth xs

/-- The texts of the members of an object inside `depth` containers. -/
def prettyMembers (depth : Nat) : List (String × Json) → List String
  | [] => []
  | (name, x) :: ms => (quoted name ++ ": " ++ prettyAt depth x) :: prettyMembers depth ms

end

/-- The text of a value with one item a line. -/
def pretty (v : Json) : String := prettyAt 0 v

end DigitalAsset.Json
