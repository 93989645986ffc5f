/-!
# Settings

The choices that a reader of accounts is given: how wide an unknown registry tag is, what two
plugins of one kind mean, and what becomes of data that should be JSON and is not.
-/

namespace DigitalAsset

/-- What a registry with two plugins of one kind means. -/
inductive DuplicatePolicy where
  /-- The later one holds. -/
  | lastWins
  /-- The account is malformed. -/
  | reject
  deriving DecidableEq, Repr

namespace DuplicatePolicy

/-- The name of a policy. -/
def name : DuplicatePolicy → String
  | lastWins => "last_wins"
  | reject => "reject"

/-- The policy with a given name. -/
def ofName? (text : String) : Option DuplicatePolicy :=
  if text = lastWins.name then some lastWins
  else if text = reject.name then some reject
  else none

@[simp] theorem ofName?_name (p : DuplicatePolicy) : ofName? p.name = some p := by
  cases p <;> decide

end DuplicatePolicy

/-- The choices for reading accounts. -/
structure Settings where
  /-- The number of bytes that an unknown registry tag takes. -/
  unknownTagWidth : Nat := 1
  /-- What two plugins of one kind mean. -/
  duplicatePlugins : DuplicatePolicy := .lastWins
  /-- Whether data that should be JSON and is not stays raw bytes instead of failing. -/
  jsonFallbackToBinary : Bool := true
  deriving DecidableEq, Repr

end DigitalAsset
