/-!
# Adapter kinds, data schemas and lifecycle events

An external plugin adapter is one of six kinds.  It may carry data in a declared schema, and it may
listen to lifecycle events of the asset.
-/

namespace DigitalAsset

/-! ## Kinds -/

/-- The kinds of external plugin adapters. -/
inductive AdapterKind where
  | lifecycleHook
  | oracle
  | appData
  | linkedLifecycleHook
  | linkedAppData
  | dataSection
  deriving DecidableEq, Repr

namespace AdapterKind

/-- All kinds in the order of their tags. -/
def all : List AdapterKind :=
  [lifecycleHook, oracle, appData, linkedLifecycleHook, linkedAppData, dataSection]

/-- The byte that stands for a kind in registry records and payloads. -/
def tag : AdapterKind → UInt8
  | lifecycleHook => 0
  | oracle => 1
  | appData => 2
  | linkedLifecycleHook => 3
  | linkedAppData => 4
  | dataSection => 5

/-- The kind that a byte stands for, if this version knows it. -/
def ofTag? (tag : UInt8) : Option AdapterKind := all[tag.toNat]?

/-- The name of a kind, which begins the identities of its adapters. -/
def typeName : AdapterKind → String
  | lifecycleHook => "LifecycleHook"
  | oracle => "Oracle"
  | appData => "AppData"
  | linkedLifecycleHook => "LinkedLifecycleHook"
  | linkedAppData => "LinkedAppData"
  | dataSection => "DataSection"

theorem mem_all (k : AdapterKind) : k ∈ all := by
  cases k <;> decide

@[simp] theorem ofTag?_tag (k : AdapterKind) : ofTag? k.tag = some k := by
  cases k <;> rfl

/-- A byte stands for a kind only if it is the kind's tag. -/
theorem tag_of_ofTag? {tag : UInt8} {k : AdapterKind} (h : ofTag? tag = some k) : k.tag = tag := by
  have hlt : tag.toNat < 6 := by
    unfold ofTag? at h
    exact (List.getElem?_eq_some_iff.mp h).1
  have hall : ∀ n : Fin 6, ∀ k : AdapterKind, all[n.val]? = some k → k.tag.toNat = n.val := by
    decide
  have := hall ⟨tag.toNat, hlt⟩ k h
  exact UInt8.toNat_inj.mp this

end AdapterKind

/-! ## Schemas -/

/-- How the data attached to an adapter is encoded. -/
inductive Schema where
  | binary
  | json
  | msgPack
  deriving DecidableEq, Repr

namespace Schema

/-- The byte that stands for a schema. -/
def tag : Schema → UInt8
  | binary => 0
  | json => 1
  | msgPack => 2

/-- The schema that a byte stands for. -/
def ofTag? (tag : UInt8) : Option Schema :=
  if tag = 0 then some binary
  else if tag = 1 then some json
  else if tag = 2 then some msgPack
  else none

/-- The name of a schema in views. -/
def keyName : Schema → String
  | binary => "binary"
  | json => "json"
  | msgPack => "msgPack"

/-- The name of a schema in error messages. -/
def title (s : Schema) : String := s.keyName.capitalize

@[simp] theorem ofTag?_tag (s : Schema) : ofTag? s.tag = some s := by
  cases s <;> rfl

theorem tag_of_ofTag? {tag : UInt8} {s : Schema} (h : ofTag? tag = some s) : s.tag = tag := by
  unfold ofTag? at h
  split at h
  · cases h; subst tag; rfl
  · split at h
    · cases h; subst tag; rfl
    · split at h
      · cases h; subst tag; rfl
      · cases h

end Schema

/-! ## Lifecycle events -/

/-- The events of an asset's life that adapters can listen to. -/
inductive Event where
  | create
  | transfer
  | burn
  | update
  deriving DecidableEq, Repr

namespace Event

/-- All events in the order of their tags. -/
def all : List Event := [create, transfer, burn, update]

/-- The byte that stands for an event. -/
def tag : Event → UInt8
  | create => 0
  | transfer => 1
  | burn => 2
  | update => 3

/-- The event that a byte stands for. -/
def ofTag? (tag : UInt8) : Option Event := all[tag.toNat]?

/-- The name of an event in views and on the command line. -/
def keyName : Event → String
  | create => "create"
  | transfer => "transfer"
  | burn => "burn"
  | update => "update"

/-- The name of an event in messages. -/
def title (e : Event) : String := e.keyName.capitalize

/-- The event that a text names, upper and lower case alike in ASCII; else the refused name in
lower case. -/
def parse (text : String) : Except String Event :=
  let name := text.map Char.toLower
  match all.find? fun e => e.keyName = name with
  | some e => .ok e
  | none => .error ("unknown lifecycle event '" ++ name ++ "'")

theorem mem_all (e : Event) : e ∈ all := by
  cases e <;> decide

@[simp] theorem ofTag?_tag (e : Event) : ofTag? e.tag = some e := by
  cases e <;> rfl

/-- A byte stands for an event only if it is the event's tag. -/
theorem tag_of_ofTag? {tag : UInt8} {e : Event} (h : ofTag? tag = some e) : e.tag = tag := by
  have hlt : tag.toNat < 4 := by
    unfold ofTag? at h
    exact (List.getElem?_eq_some_iff.mp h).1
  have hall : ∀ n : Fin 4, ∀ e : Event, all[n.val]? = some e → e.tag.toNat = n.val := by
    decide
  have := hall ⟨tag.toNat, hlt⟩ e h
  exact UInt8.toNat_inj.mp this

end Event

end DigitalAsset
