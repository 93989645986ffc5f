import DigitalAsset.Adapter.Basic
import DigitalAsset.Proofs.Text.Base58

/-!
# Identities and keys

The identity of an adapter is a text.  `Adapter.key` says what that text stands for: the kind, and
the program, base address, authority or parent that the adapter is attached to.  Two adapters have
the same identity exactly if they have the same key (`Adapter.identity_eq_iff`), so comparing texts
never takes two adapters for one and never overlooks that they are the same.

`Adapter.identity_separates` says it without the key, kind by kind, and of the parents of data
sections as well: these are compared as texts where adapters are merged, and as they are where data is
handed to linked app data.
-/

namespace DigitalAsset

/-! ## Names before a dash -/

theorem append_dash_inj {xs ys xs' ys' : List Char} (hx : '-' ∉ xs) (hx' : '-' ∉ xs')
    (h : xs ++ '-' :: ys = xs' ++ '-' :: ys') : xs = xs' ∧ ys = ys' := by
  induction xs generalizing xs' with
  | nil =>
    cases xs' with
    | nil => exact ⟨rfl, List.tail_eq_of_cons_eq h⟩
    | cons c rest =>
      have hhead : '-' = c := List.head_eq_of_cons_eq h
      exact absurd (hhead ▸ List.mem_cons_self) hx'
  | cons c rest ih =>
    cases xs' with
    | nil =>
      have hhead : c = '-' := List.head_eq_of_cons_eq h
      exact absurd (hhead ▸ List.mem_cons_self) hx
    | cons c' rest' =>
      have hhead : c = c' := List.head_eq_of_cons_eq h
      have htail : rest ++ '-' :: ys = rest' ++ '-' :: ys' := List.tail_eq_of_cons_eq h
      obtain ⟨hrest, hys⟩ := ih (fun hm => hx (List.mem_cons_of_mem c hm))
        (fun hm => hx' (List.mem_cons_of_mem c' hm)) htail
      exact ⟨by rw [hhead, hrest], hys⟩

/-- A name without dashes and the text after its dash are both determined by the whole. -/
theorem dashed_inj {name name' text text' : String} (hn : '-' ∉ name.toList)
    (hn' : '-' ∉ name'.toList) (h : name ++ "-" ++ text = name' ++ "-" ++ text') :
    name = name' ∧ text = text' := by
  have hlist : name.toList ++ '-' :: text.toList = name'.toList ++ '-' :: text'.toList := by
    simpa using congrArg String.toList h
  obtain ⟨hname, htext⟩ := append_dash_inj hn hn' hlist
  exact ⟨String.toList_inj.mp hname, String.toList_inj.mp htext⟩

/-- A name without dashes differs from every text with a dash. -/
theorem ne_dashed {name name' text : String} (hn : '-' ∉ name.toList) :
    name ≠ name' ++ "-" ++ text := by
  intro h
  apply hn
  rw [h]
  simp

/-! ## Authorities and parents -/

theorem Authority.dash_notMem_typeName (a : Authority) : '-' ∉ a.typeName.toList := by
  cases a <;> simp [typeName]

theorem Authority.identity_injective : Function.Injective Authority.identity := by
  intro a b h
  -- Only the name of a fixed address is followed by a dash.
  cases a with
  | none =>
    cases b with
    | none => rfl
    | address y => exact absurd h (ne_dashed (by decide))
    | _ => exact absurd h (by decide)
  | owner =>
    cases b with
    | owner => rfl
    | address y => exact absurd h (ne_dashed (by decide))
    | _ => exact absurd h (by decide)
  | updateAuthority =>
    cases b with
    | updateAuthority => rfl
    | address y => exact absurd h (ne_dashed (by decide))
    | _ => exact absurd h (by decide)
  | address x =>
    cases b with
    | address y =>
      obtain ⟨_, htext⟩ := dashed_inj (dash_notMem_typeName _) (dash_notMem_typeName _) h
      rw [Address.toBase58_injective htext]
    | _ => exact absurd h.symm (ne_dashed (by decide))

namespace LinkedDataKey

/-- The name of the kind that a parent is of. -/
def parentName : LinkedDataKey → String
  | .linkedLifecycleHook _ => "LinkedLifecycleHook"
  | .linkedAppData _ => "LinkedAppData"

/-- The text of the program or authority that a parent is attached to. -/
def parentText : LinkedDataKey → String
  | .linkedLifecycleHook program => program.toBase58
  | .linkedAppData authority => authority.identity

theorem identity_eq (k : LinkedDataKey) : k.identity = k.parentName ++ "-" ++ k.parentText := by
  cases k <;> rfl

theorem dash_notMem_parentName (k : LinkedDataKey) : '-' ∉ k.parentName.toList := by
  cases k <;> simp [parentName]

theorem identity_injective : Function.Injective LinkedDataKey.identity := by
  intro a b h
  rw [identity_eq, identity_eq] at h
  obtain ⟨hname, htext⟩ := dashed_inj a.dash_notMem_parentName b.dash_notMem_parentName h
  cases a with
  | linkedLifecycleHook p =>
    cases b with
    | linkedLifecycleHook q => exact congrArg _ (Address.toBase58_injective htext)
    | linkedAppData q => exact absurd hname (by simp [parentName])
  | linkedAppData p =>
    cases b with
    | linkedLifecycleHook q => exact absurd hname (by simp [parentName])
    | linkedAppData q => exact congrArg _ (Authority.identity_injective htext)

end LinkedDataKey

/-! ## Keys of adapters -/

/-- What an adapter is attached to, kind by kind. -/
inductive AdapterKey where
  | lifecycleHook (hookedProgram : Address)
  | oracle (baseAddress : Address)
  | appData (dataAuthority : Authority)
  | linkedLifecycleHook (hookedProgram : Address)
  | linkedAppData (dataAuthority : Authority)
  | dataSection (parentKey : LinkedDataKey)
  deriving DecidableEq

namespace AdapterKey

/-- The kind of the adapters with a key. -/
def kind : AdapterKey → AdapterKind
  | lifecycleHook _ => .lifecycleHook
  | oracle _ => .oracle
  | appData _ => .appData
  | linkedLifecycleHook _ => .linkedLifecycleHook
  | linkedAppData _ => .linkedAppData
  | dataSection _ => .dataSection

/-- The text of a key. -/
def text : AdapterKey → String
  | lifecycleHook program => program.toBase58
  | oracle base => base.toBase58
  | appData authority => authority.identity
  | linkedLifecycleHook program => program.toBase58
  | linkedAppData authority => authority.identity
  | dataSection parent => parent.identity

theorem eq_of_kind_of_text {a b : AdapterKey} (hkind : a.kind = b.kind) (htext : a.text = b.text) :
    a = b := by
  cases a with
  | lifecycleHook p => cases b with
    | lifecycleHook q => exact congrArg _ (Address.toBase58_injective htext)
    | _ => cases hkind
  | oracle p => cases b with
    | oracle q => exact congrArg _ (Address.toBase58_injective htext)
    | _ => cases hkind
  | appData p => cases b with
    | appData q => exact congrArg _ (Authority.identity_injective htext)
    | _ => cases hkind
  | linkedLifecycleHook p => cases b with
    | linkedLifecycleHook q => exact congrArg _ (Address.toBase58_injective htext)
    | _ => cases hkind
  | linkedAppData p => cases b with
    | linkedAppData q => exact congrArg _ (Authority.identity_injective htext)
    | _ => cases hkind
  | dataSection p => cases b with
    | dataSection q => exact congrArg _ (LinkedDataKey.identity_injective htext)
    | _ => cases hkind

end AdapterKey

theorem AdapterKind.dash_notMem_typeName (k : AdapterKind) : '-' ∉ k.typeName.toList := by
  cases k <;> simp [typeName]

theorem AdapterKind.typeName_injective : Function.Injective AdapterKind.typeName := by
  intro a b
  cases a <;> cases b <;> decide

namespace AdapterKey

/-- The identity that stands for a key: the name of the kind, a dash and the text of the key. -/
def identity (k : AdapterKey) : String := k.kind.typeName ++ "-" ++ k.text

theorem identity_injective : Function.Injective identity := by
  intro a b h
  obtain ⟨hname, htext⟩ := dashed_inj a.kind.dash_notMem_typeName b.kind.dash_notMem_typeName h
  exact eq_of_kind_of_text (AdapterKind.typeName_injective hname) htext

end AdapterKey

namespace Adapter

/-- The key of an adapter. -/
def key : Adapter → AdapterKey
  | lifecycleHook h => .lifecycleHook h.hookedProgram
  | oracle o => .oracle o.baseAddress
  | appData d => .appData d.dataAuthority
  | linkedLifecycleHook h => .linkedLifecycleHook h.hookedProgram
  | linkedAppData d => .linkedAppData d.dataAuthority
  | dataSection s => .dataSection s.parentKey

theorem identity_key (a : Adapter) : a.key.identity = a.identity := by
  cases a <;> rfl

/-- The identity of an adapter stands for its key. -/
theorem identity_eq_iff {a b : Adapter} : a.identity = b.identity ↔ a.key = b.key := by
  rw [← identity_key, ← identity_key, AdapterKey.identity_injective.eq_iff]

end Adapter

namespace LinkedDataKey

/-- The key of the adapter that a data section with this parent belongs to. -/
def adapterKey : LinkedDataKey → AdapterKey
  | linkedLifecycleHook program => .linkedLifecycleHook program
  | linkedAppData authority => .linkedAppData authority

theorem identity_adapterKey (k : LinkedDataKey) : k.adapterKey.identity = k.identity := by
  cases k <;> rfl

/-- The identity of a parent is that of the adapters it is the parent for. -/
theorem identity_eq_iff {k : LinkedDataKey} {a : Adapter} :
    k.identity = a.identity ↔ k.adapterKey = a.key := by
  rw [← identity_adapterKey, ← Adapter.identity_key, AdapterKey.identity_injective.eq_iff]

end LinkedDataKey

/-! ## The same key, kind by kind -/

namespace Adapter

/-- Two adapters are of the same kind and attached to the same program, base address, authority or
parent.  Their schemas, extra accounts and all else may differ. -/
inductive SameKey : Adapter → Adapter → Prop
  | lifecycleHook {h h' : Hook} : h.hookedProgram = h'.hookedProgram →
      SameKey (.lifecycleHook h) (.lifecycleHook h')
  | oracle {o o' : Oracle} : o.baseAddress = o'.baseAddress → SameKey (.oracle o) (.oracle o')
  | appData {d d' : AppData} : d.dataAuthority = d'.dataAuthority →
      SameKey (.appData d) (.appData d')
  | linkedLifecycleHook {h h' : Hook} : h.hookedProgram = h'.hookedProgram →
      SameKey (.linkedLifecycleHook h) (.linkedLifecycleHook h')
  | linkedAppData {d d' : AppData} : d.dataAuthority = d'.dataAuthority →
      SameKey (.linkedAppData d) (.linkedAppData d')
  | dataSection {s s' : DataSection} : s.parentKey = s'.parentKey →
      SameKey (.dataSection s) (.dataSection s')

theorem sameKey_iff {a b : Adapter} : a.SameKey b ↔ a.key = b.key := by
  constructor
  · intro h
    cases h with
    | lifecycleHook h => exact congrArg AdapterKey.lifecycleHook h
    | oracle h => exact congrArg AdapterKey.oracle h
    | appData h => exact congrArg AdapterKey.appData h
    | linkedLifecycleHook h => exact congrArg AdapterKey.linkedLifecycleHook h
    | linkedAppData h => exact congrArg AdapterKey.linkedAppData h
    | dataSection h => exact congrArg AdapterKey.dataSection h
  · intro h
    cases a with
    | lifecycleHook p => cases b with
      | lifecycleHook q => exact .lifecycleHook (AdapterKey.lifecycleHook.inj h)
      | _ => cases h
    | oracle p => cases b with
      | oracle q => exact .oracle (AdapterKey.oracle.inj h)
      | _ => cases h
    | appData p => cases b with
      | appData q => exact .appData (AdapterKey.appData.inj h)
      | _ => cases h
    | linkedLifecycleHook p => cases b with
      | linkedLifecycleHook q => exact .linkedLifecycleHook (AdapterKey.linkedLifecycleHook.inj h)
      | _ => cases h
    | linkedAppData p => cases b with
      | linkedAppData q => exact .linkedAppData (AdapterKey.linkedAppData.inj h)
      | _ => cases h
    | dataSection p => cases b with
      | dataSection q => exact .dataSection (AdapterKey.dataSection.inj h)
      | _ => cases h

/-- **Identities.**  Adapters of whatever kinds have the same identity exactly if they have the same
key.  The parent of a data section has the identity of linked app data exactly if it names the
authority of that data, by which a derivation finds where the data of the section goes. -/
theorem identity_separates :
    (∀ a b : Adapter, a.identity = b.identity ↔ a.SameKey b) ∧
      ∀ (s : DataSection) (d : AppData),
        s.parentKey.identity = (linkedAppData d).identity ↔
          s.parentKey = .linkedAppData d.dataAuthority := by
  refine ⟨fun a b => identity_eq_iff.trans sameKey_iff.symm, ?_⟩
  intro s d
  rw [LinkedDataKey.identity_eq_iff]
  cases s.parentKey with
  | linkedLifecycleHook program => simp [LinkedDataKey.adapterKey, key]
  | linkedAppData authority => simp [LinkedDataKey.adapterKey, key]

end Adapter

end DigitalAsset
