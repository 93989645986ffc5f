import DigitalAsset.Number.Shortest

/-!
# JSON values

An integer and a floating-point number are different values, and an object keeps one value per
name, its names in ascending order.
-/

namespace DigitalAsset

/-- A JSON number: an integer as written, or a number that has to be rounded. -/
inductive Json.Number where
  | int (n : Int)
  | float (x : Binary64)
  deriving DecidableEq, Repr

/-- A JSON value. -/
inductive Json where
  | null
  | bool (b : Bool)
  | number (n : Json.Number)
  | string (s : String)
  | array (items : List Json)
  | object (members : List (String × Json))

namespace Json

instance : Inhabited Json := ⟨null⟩

/-- An integer value. -/
def ofInt (n : Int) : Json := number (.int n)

/-- A natural number as a value. -/
def ofNat (n : Nat) : Json := ofInt n

/-- A value or null. -/
def ofOption (f : α → Json) : Option α → Json
  | none => null
  | some a => f a

/-- The list of the values of some items. -/
def ofList (f : α → Json) (items : List α) : Json := array (items.map f)

/-- Members with one more; a name that is there already takes the new value. -/
def insertMember (members : List (String × Json)) (name : String) (value : Json) :
    List (String × Json) :=
  match members with
  | [] => [(name, value)]
  | (n, v) :: rest =>
    if n = name then (name, value) :: rest
    else if name < n then (name, value) :: (n, v) :: rest
    else (n, v) :: insertMember rest name value

/-- The member of an object with a given name. -/
def member? (name : String) : Json → Option Json
  | object members => (members.find? (·.1 = name)).map (·.2)
  | _ => none

end Json

end DigitalAsset
