import DigitalAsset.Plugin.Codec

/-!
# Plugin slots

An account has one slot for each plugin kind.  A slot is empty or holds a plugin of its own kind,
with the authority and the payload offset of its registry record.
-/

namespace DigitalAsset

/-- A plugin of a given kind with what its registry record says about it. -/
structure AttachedPlugin (kind : PluginKind) where
  authority : Authority
  offset : UInt64
  plugin : Plugin
  kind_eq : plugin.kind = kind
  deriving DecidableEq

/-- The slots of an account. -/
structure PluginSlots where
  get? : (kind : PluginKind) → Option (AttachedPlugin kind)

namespace PluginSlots

@[ext] theorem ext {a b : PluginSlots} (h : ∀ k, a.get? k = b.get? k) : a = b := by
  cases a
  cases b
  congr
  exact funext h

instance : DecidableEq PluginSlots := fun a b =>
  if h : ∀ k ∈ PluginKind.all, a.get? k = b.get? k then
    isTrue (ext fun k => h k k.mem_all)
  else isFalse fun hab => h fun _ _ => hab ▸ rfl

/-- Empty slots. -/
def empty : PluginSlots := ⟨fun _ => none⟩

instance : Inhabited PluginSlots := ⟨empty⟩

/-- The slots with a plugin put into the slot of its kind. -/
def insert (slots : PluginSlots) (authority : Authority) (offset : UInt64) (plugin : Plugin) :
    PluginSlots :=
  ⟨fun k =>
    if h : plugin.kind = k then some ⟨authority, offset, plugin, h⟩ else slots.get? k⟩

/-- The payload offset of the plugin in a slot. -/
def offset? (slots : PluginSlots) (kind : PluginKind) : Option UInt64 :=
  (slots.get? kind).map (·.offset)

/-- The authority of the plugin in a slot. -/
def authority? (slots : PluginSlots) (kind : PluginKind) : Option Authority :=
  (slots.get? kind).map (·.authority)

/-- The kinds whose slots are taken, in the order of their tags. -/
def kinds (slots : PluginSlots) : List PluginKind :=
  PluginKind.all.filter fun k => (slots.get? k).isSome

/-- The number of slots that are taken. -/
def size (slots : PluginSlots) : Nat := slots.kinds.length

/-- Whether no slot is taken. -/
def isEmpty (slots : PluginSlots) : Bool := slots.size = 0

/-- Whether the slot of a kind holds a freeze delegate that has frozen the asset. -/
def freezes (slots : PluginSlots) (kind : PluginKind) : Bool :=
  match slots.get? kind with
  | some attached => attached.plugin.isFreezing
  | none => false

/-! ## What the operations do to a slot -/

@[simp] theorem get?_empty (k : PluginKind) : empty.get? k = none := rfl

theorem get?_insert_self (slots : PluginSlots) (authority : Authority) (offset : UInt64)
    (plugin : Plugin) :
    (slots.insert authority offset plugin).get? plugin.kind =
      some ⟨authority, offset, plugin, rfl⟩ := by
  simp [insert]

theorem get?_insert_of_ne (slots : PluginSlots) (authority : Authority) (offset : UInt64)
    {plugin : Plugin} {k : PluginKind} (h : plugin.kind ≠ k) :
    (slots.insert authority offset plugin).get? k = slots.get? k := by
  simp [insert, h]

theorem mem_kinds {slots : PluginSlots} {k : PluginKind} :
    k ∈ slots.kinds ↔ (slots.get? k).isSome := by
  simp [kinds, k.mem_all]

end PluginSlots

end DigitalAsset
