import DigitalAsset.Text.Utf8

/-!
# Files

What can go wrong when a file is read, text files, and a directory that is given by its files.  A
path is walked part by part from the directory or from the root of the system, and the first part
that leads nowhere says what is wrong with it.
-/

namespace DigitalAsset.File

/-- Why a path gives no text. -/
inductive Flaw where
  /-- Nothing has this path. -/
  | missing
  /-- The path leads through something that is no directory. -/
  | notDirectory
  /-- The path leads to a directory. -/
  | isDirectory
  /-- The path or the name of a part of it has more bytes than a system allows. -/
  | nameTooLong
  /-- The path holds a zero byte, with which no system can look it up. -/
  | zeroByte
  /-- The bytes of the file are not UTF-8. -/
  | notText
  /-- The file cannot be read for another reason. -/
  | other (message : String)
  deriving DecidableEq, Repr

/-- The text of a flaw. -/
def Flaw.message : Flaw → String
  | .missing => "No such file or directory (os error 2)"
  | .notDirectory => "Not a directory (os error 20)"
  | .isDirectory => "Is a directory (os error 21)"
  | .nameTooLong => "File name too long (os error 36)"
  | .zeroByte => "file name contained an unexpected NUL byte"
  | .notText => "stream did not contain valid UTF-8"
  | .other message => message

/-- What reading each path gives. -/
abbrev Source := String → Except Flaw Bytes

/-- The text of a file. -/
def Source.text (source : Source) (path : String) : Except Flaw String := do
  match Utf8.decode (← source path) with
  | .ok text => .ok text
  | .error _ => .error .notText

/-! ## A directory given by its files -/

/-- The files of a directory, by name. -/
abbrev Directory := List (String × Bytes)

/-- What a path leads to.  Around the directory only what every system has is known. -/
inductive Place where
  /-- The directory that paths start from. -/
  | here
  /-- A directory around it. -/
  | around
  /-- The root of the system. -/
  | root
  /-- A directory at the root. -/
  | system (name : String)
  /-- A file. -/
  | file (bytes : Bytes)

/-- The directories that a system has at its root. -/
def systemDirectories : List String :=
  ["bin", "boot", "dev", "etc", "home", "lib", "media", "mnt", "opt", "proc", "run", "sbin",
    "srv", "sys", "tmp", "usr", "var"]

/-- The directory around a place. -/
def Place.parent : Place → Place
  | .root => .root
  | .system _ => .root
  | _ => .around

/-- What has a given name in a place. -/
def Directory.entry? (d : Directory) : Place → String → Option Place
  | .here, name => (d.find? (·.1 = name)).map fun (_, bytes) => .file bytes
  | .root, name => if name ∈ systemDirectories then some (.system name) else none
  | .system "dev", "null" => some (.file [])
  | _, _ => none

/-- How many bytes the name of a part of a path may have. -/
def nameLimit : Nat := 255

/-- How many bytes a path may have. -/
def pathLimit : Nat := 4095

/-- What one more part of a path leads to; an empty part and a dot lead nowhere else. -/
def Directory.step (d : Directory) (place : Place) (part : String) : Except Flaw Place :=
  match place with
  | .file _ => .error .notDirectory
  | _ =>
    if part = "" ∨ part = "." then .ok place
    else if part = ".." then .ok place.parent
    else if nameLimit < part.utf8ByteSize then .error .nameTooLong
    else
      match d.entry? place part with
      | some next => .ok next
      | none => .error .missing

/-- What a path leads to from the directory. -/
def Directory.place (d : Directory) (path : String) : Except Flaw Place :=
  if '\x00' ∈ path.toList then .error .zeroByte
  else if path = "" then .error .missing
  else if pathLimit < path.utf8ByteSize then .error .nameTooLong
  else (path.splitOn "/").foldlM d.step (if path.startsWith "/" then .root else .here)

/-- What reading a path in a directory gives. -/
def Directory.source (d : Directory) : Source := fun path =>
  match d.place path with
  | .ok (.file bytes) => .ok bytes
  | .ok _ => .error .isDirectory
  | .error flaw => .error flaw

end DigitalAsset.File
