import DigitalAsset.Environment.Basic
import DigitalAsset.File
import DigitalAsset.Text.Alphanumeric
import DigitalAsset.Text.Blank

/-!
# Files of variables

Each line `NAME=value` of the file gives a variable its default.  A name may have the word `export`
before it, a value may be in single or double quotes and go on over the end of a line, and a `#`
after a blank begins a comment.  Outside single quotes `$NAME` and `${NAME}` stand for the
value of a variable, and a backslash takes the meaning from the character after it.

The first line that is malformed ends the reading; the lines before it hold.
-/

namespace DigitalAsset.Environment

open Blank (isBlank)

/-! ## Lines -/

/-- Where a scan along a line stands. -/
inductive Place where
  | plain
  | afterBlank
  | afterBackslash
  | inSingle
  | inSingleAfterBackslash
  | inDouble
  | inDoubleAfterBackslash
  deriving DecidableEq, Repr

/-- The place after a character that has no blank before it. -/
def Place.ofPlain (c : Char) : Place :=
  if isBlank c ∧ c ≠ '\n' ∧ c ≠ '\r' then .afterBlank
  else if c = '\\' then .afterBackslash
  else if c = '"' then .inDouble
  else if c = '\'' then .inSingle
  else .plain

/-- The place after one more character, or nothing if it begins a comment. -/
def Place.step? (c : Char) : Place → Option Place
  | plain => some (.ofPlain c)
  | afterBlank =>
    if c = '#' then none
    else if isBlank c then some .plain
    else some (.ofPlain c)
  | afterBackslash => some .plain
  | inSingle =>
    some (if c = '\\' then .inSingleAfterBackslash else if c = '\'' then .plain else .inSingle)
  | inSingleAfterBackslash => some .inSingle
  | inDouble =>
    some (if c = '\\' then .inDoubleAfterBackslash else if c = '"' then .plain else .inDouble)
  | inDoubleAfterBackslash => some .inDouble

/-- How a scan along a line ends. -/
inductive LineEnd where
  /-- At a place. -/
  | at (place : Place)
  /-- At a comment, before which these characters stand. -/
  | comment (kept : List Char)

/-- Scan along a line; `read` are the characters so far, last first. -/
def scanLine : Place → (read : List Char) → List Char → LineEnd
  | place, _, [] => .at place
  | place, read, c :: cs =>
    match place.step? c with
    | none => .comment read.reverse
    | some place => scanLine place (c :: read) cs

/-- A line without its end. -/
def withoutEnd (cs : List Char) : List Char :=
  match cs.reverse with
  | '\n' :: '\r' :: rest => rest.reverse
  | '\n' :: rest => rest.reverse
  | _ => cs

/-- Join each line that ends inside quotes, after a backslash or after a blank with the next one.
Nothing stands for what cannot be read, and the lines end there. -/
def joinLines : Place → (read : List Char) → List (Option (List Char)) → List (Option (List Char))
  | .plain, _, [] => []
  | _, _, [] => [none]
  | _, _, none :: _ => [none]
  | place, read, some line :: rest =>
    if ((read ++ line).dropWhile isBlank).head? = some '#' then joinLines .plain [] rest
    else
      match scanLine place [] line with
      | .comment kept => some (read ++ kept) :: joinLines .plain [] rest
      | .at .plain => some (withoutEnd (read ++ line)) :: joinLines .plain [] rest
      | .at place => joinLines place (read ++ line) rest

/-- The bytes of lines, each with the line feed at its end. -/
def splitLines : (read : Bytes) → Bytes → List Bytes
  | read, [] => if read.isEmpty then [] else [read.reverse]
  | read, b :: rest =>
    if b = 10 then (b :: read).reverse :: splitLines [] rest else splitLines (b :: read) rest

/-- The characters of a line, if its bytes are UTF-8. -/
def lineText (bytes : Bytes) : Option (List Char) :=
  match Utf8.decode bytes with
  | .ok s => some s.toList
  | .error _ => none

/-- The bytes after a byte order mark. -/
def skipMark : Bytes → Bytes
  | 0xEF :: 0xBB :: 0xBF :: rest => rest
  | bytes => bytes

/-- The lines of a file. -/
def lines (bytes : Bytes) : List (Option (List Char)) :=
  joinLines .plain [] ((splitLines [] (skipMark bytes)).map lineText)

/-! ## Values -/

/-- What the next character of a value is read as. -/
inductive Mode where
  /-- Text, in double quotes or without quotes. -/
  | text
  /-- What a backslash stands before. -/
  | escaped
  /-- Text in single quotes. -/
  | literal
  /-- The name of a variable, in braces or not; `read` are its characters so far, last first. -/
  | name (braced : Bool) (read : List Char)
  /-- Blanks or a comment after the value. -/
  | ended

/-- The value of a variable, which is empty if it is not set; the name is given last character
first. -/
def valueOf (env : Environment) (read : List Char) : List Char :=
  ((env.get? (String.ofList read.reverse)).getD "").toList

/-- What a character after a backslash stands for. -/
def escaped? (c : Char) : Option Char :=
  if c = 'n' then some '\n'
  else if c = '\\' ∨ c = '\'' ∨ c = '"' ∨ c = '$' ∨ c = ' ' then some c
  else none

/-- Read a value: `quoted` tells whether a double quote is open. -/
def readValue (env : Environment) : Mode → (quoted : Bool) → List Char → Option (List Char)
  | .literal, _, [] => none
  | .name true _, _, [] => none
  | .name false read, quoted, [] => if quoted then none else some (valueOf env read)
  | _, quoted, [] => if quoted then none else some []
  | .ended, quoted, c :: cs =>
    if c = ' ' ∨ c = '\t' then readValue env .ended quoted cs
    else if c = '#' then some []
    else none
  | .escaped, quoted, c :: cs =>
    match escaped? c with
    | none => none
    | some d => (readValue env .text quoted cs).map (d :: ·)
  | .literal, quoted, c :: cs =>
    if c = '\'' then readValue env .text quoted cs
    else (readValue env .literal quoted cs).map (c :: ·)
  | .name braced read, quoted, c :: cs =>
    if Alphanumeric.isAlphanumeric c then readValue env (.name braced (c :: read)) quoted cs
    else if braced then
      if c = '}' then (readValue env .text quoted cs).map (valueOf env read ++ ·)
      else readValue env (.name true (c :: read)) quoted cs
    else if c = '{' ∧ read = [] then readValue env (.name true []) quoted cs
    else if c = '$' then
      (readValue env (.name false []) quoted cs).map (valueOf env read ++ ·)
    else (readValue env .text quoted cs).map (valueOf env read ++ c :: ·)
  | .text, quoted, c :: cs =>
    if c = '$' then readValue env (.name false []) quoted cs
    else if c = '\\' then readValue env .escaped quoted cs
    else if c = '"' then readValue env .text (¬ quoted) cs
    else if quoted then (readValue env .text quoted cs).map (c :: ·)
    else if c = '\'' then readValue env .literal quoted cs
    else if c = ' ' ∨ c = '\t' then readValue env .ended quoted cs
    else (readValue env .text quoted cs).map (c :: ·)

/-! ## Definitions -/

/-- Read a name: a letter or an underscore, then letters, digits, underscores and points. -/
def readName (cs : List Char) : Option (String × List Char) :=
  match cs with
  | [] => none
  | c :: _ =>
    if c.isAlpha ∨ c = '_' then
      let isPart := fun d : Char => d.isAlphanum || d = '_' || d = '.'
      some (String.ofList (cs.takeWhile isPart), cs.dropWhile isPart)
    else none

/-- The characters after an equality sign, before which blanks may stand. -/
def afterSign (cs : List Char) : Option (List Char) :=
  match cs.dropWhile isBlank with
  | '=' :: rest => some rest
  | _ => none

/-- Read a name and the sign after it; `export` may stand before the name, and may be a name. -/
def readHead (cs : List Char) : Option (String × List Char) := do
  let (name, rest) ← readName cs
  match afterSign rest with
  | some rest => return (name, rest)
  | none =>
    guard (name = "export")
    let (name, rest) ← readName (rest.dropWhile isBlank)
    return (name, ← afterSign rest)

/-- A line that says nothing, or a variable and its value. -/
def readLine (env : Environment) (line : List Char) : Option (Option (String × String)) := do
  let cs := (Blank.trimEnd line).dropWhile isBlank
  if cs.isEmpty ∨ cs.head? = some '#' then return none
  let (name, rest) ← readHead cs
  let rest := rest.dropWhile isBlank
  if rest.isEmpty ∨ rest.head? = some '#' then return some (name, "")
  return some (name, String.ofList (← readValue env .text false rest))

/-- The environment after the lines of a file, up to the first that is malformed. -/
def addLines (env : Environment) : List (Option (List Char)) → Environment
  | [] => env
  | none :: _ => env
  | some line :: rest =>
    match readLine env line with
    | none => env
    | some none => addLines env rest
    | some (some (name, value)) => addLines (env.default name value) rest

/-- The environment after a file of variables has given its defaults. -/
def addFile (env : Environment) (bytes : Bytes) : Environment := env.addLines (lines bytes)

/-- The name of the file of variables in a directory. -/
def fileName : String := ".env"

/-- The environment after the file of variables in a directory, if there is one. -/
def addDirectory (env : Environment) (source : File.Source) : Environment :=
  match source fileName with
  | .ok bytes => env.addFile bytes
  | .error _ => env

end DigitalAsset.Environment
