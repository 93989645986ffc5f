import DigitalAsset.Settings.Error
import DigitalAsset.Toml.Reader

/-!
# Settings in a document

A settings file is a TOML document with an entry for each choice.  A choice without an entry is made
as by default, and entries with other names say nothing.
-/

namespace DigitalAsset.Settings

open Toml (Value Table)

/-- A width: an integer that is not negative. -/
def widthOf? : Value → Option Nat
  | .integer n => if 0 ≤ n then some n.toNat else none
  | _ => none

/-- A truth value. -/
def truthOf? : Value → Option Bool
  | .boolean b => some b
  | _ => none

/-- Whether a value holds nothing, as the content of a choice without content does. -/
def isHollow : Value → Bool
  | .table _ entries => entries.isEmpty
  | .array items => items.isEmpty
  | _ => false

/-- A duplicate policy: its name, or a table whose only entry has that name and holds nothing. -/
def policyOf? : Value → Option DuplicatePolicy
  | .string s => DuplicatePolicy.ofName? s
  | .table _ [(name, content)] => if isHollow content then DuplicatePolicy.ofName? name else none
  | _ => none

/-- The choice that an entry makes, which is the default where there is none. -/
def entry (t : Table) (name : String) (read : Value → Option α) (default : α) : Option α :=
  match t.get? name with
  | none => some default
  | some v => read v

/-- The settings that a document describes, if its entries have values of the right kinds. -/
def ofTable? (t : Table) : Option Settings := do
  let plain : Settings := {}
  let width ← entry t "unknown_tag_width" widthOf? plain.unknownTagWidth
  let policy ← entry t "duplicate_plugins" policyOf? plain.duplicatePlugins
  let fallback ← entry t "json_fallback_to_binary" truthOf? plain.jsonFallbackToBinary
  return ⟨width, policy, fallback⟩

/-- The settings that a text describes. -/
def ofText (text : String) : Except Error Settings :=
  match (Toml.parse? text).bind ofTable? with
  | none => .error .malformed
  | some s => (validate s).map fun _ => s

/-- The settings in a file. -/
def ofFile (source : File.Source) (path : String) : Except Error Settings :=
  match source.text path with
  | .error flaw => .error (.unreadable path flaw)
  | .ok text => ofText text

/-- Without a line a document leaves every choice at its default. -/
example : ofText "" = .ok {} := rfl

end DigitalAsset.Settings
