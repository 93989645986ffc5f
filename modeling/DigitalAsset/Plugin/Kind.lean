/-!
# Plugin kinds

A first-party plugin is one of fifteen kinds.  The tag of a kind is its place in `PluginKind.all`,
and an account holds at most one plugin of each kind.
-/

namespace DigitalAsset

/-- The kinds of first-party plugins. -/
inductive PluginKind where
  | royalties
  | freezeDelegate
  | burnDelegate
  | transferDelegate
  | updateDelegate
  | permanentFreezeDelegate
  | attributes
  | permanentTransferDelegate
  | permanentBurnDelegate
  | edition
  | masterEdition
  | addBlocker
  | immutableMetadata
  | verifiedCreators
  | autograph
  deriving DecidableEq, Repr

namespace PluginKind

/-- All kinds in the order of their tags. -/
def all : List PluginKind :=
  [royalties, freezeDelegate, burnDelegate, transferDelegate, updateDelegate,
    permanentFreezeDelegate, attributes, permanentTransferDelegate, permanentBurnDelegate, edition,
    masterEdition, addBlocker, immutableMetadata, verifiedCreators, autograph]

/-- The byte that stands for a kind in registry records and payloads. -/
def tag : PluginKind → UInt8
  | royalties => 0
  | freezeDelegate => 1
  | burnDelegate => 2
  | transferDelegate => 3
  | updateDelegate => 4
  | permanentFreezeDelegate => 5
  | attributes => 6
  | permanentTransferDelegate => 7
  | permanentBurnDelegate => 8
  | edition => 9
  | masterEdition => 10
  | addBlocker => 11
  | immutableMetadata => 12
  | verifiedCreators => 13
  | autograph => 14

/-- The kind that a byte stands for, if this version knows it. -/
def ofTag? (tag : UInt8) : Option PluginKind := all[tag.toNat]?

/-- The name of the slot that plugins of a kind go into. -/
def keyName : PluginKind → String
  | royalties => "royalties"
  | freezeDelegate => "freezeDelegate"
  | burnDelegate => "burnDelegate"
  | transferDelegate => "transferDelegate"
  | updateDelegate => "updateDelegate"
  | permanentFreezeDelegate => "permanentFreezeDelegate"
  | attributes => "attributes"
  | permanentTransferDelegate => "permanentTransferDelegate"
  | permanentBurnDelegate => "permanentBurnDelegate"
  | edition => "edition"
  | masterEdition => "masterEdition"
  | addBlocker => "addBlocker"
  | immutableMetadata => "immutableMetadata"
  | verifiedCreators => "verifiedCreators"
  | autograph => "autograph"

/-- The name of a kind in error messages: its key name with a capital letter. -/
def title (k : PluginKind) : String := k.keyName.capitalize

theorem mem_all (k : PluginKind) : k ∈ all := by
  cases k <;> decide

@[simp] theorem ofTag?_tag (k : PluginKind) : ofTag? k.tag = some k := by
  cases k <;> rfl

/-- A byte stands for a kind only if it is the kind's tag. -/
theorem tag_of_ofTag? {tag : UInt8} {k : PluginKind} (h : ofTag? tag = some k) : k.tag = tag := by
  have hlt : tag.toNat < 15 := by
    unfold ofTag? at h
    exact (List.getElem?_eq_some_iff.mp h).1
  have hall : ∀ n : Fin 15, ∀ k : PluginKind, all[n.val]? = some k → k.tag.toNat = n.val := by
    decide
  have := hall ⟨tag.toNat, hlt⟩ k h
  exact UInt8.toNat_inj.mp this

end PluginKind

end DigitalAsset
