import DigitalAsset.CommandLine.Summary
import DigitalAsset.Proofs.Registry.Slots
import Mathlib.Data.String.Basic

/-!
# The map of plugin authorities

A summary prints, for each plugin of the derived asset, whether the principal holds it, as an object
with the key names of the plugins in ascending order.  `sortedMembers_perm` says that no entry is lost
or merged with another one when the object is made, as long as no two have the same name; and no two
plugins have (`PluginKind.keyName_injective`).
-/

namespace DigitalAsset

/-! ## Members in order -/

namespace Json

/-- The names of the members ascend, so that none stands there twice. -/
def Ascending (members : List (String × Json)) : Prop :=
  members.Pairwise fun first second => first.1 < second.1

theorem insertMember_perm {members : List (String × Json)} {name : String} {value : Json}
    (hnew : ∀ member ∈ members, member.1 ≠ name) :
    (insertMember members name value).Perm ((name, value) :: members) := by
  induction members with
  | nil => exact .refl _
  | cons first rest ih =>
    rw [insertMember, if_neg (hnew first List.mem_cons_self)]
    split
    · exact .refl _
    · have hrest := ih fun member hmember => hnew member (List.mem_cons_of_mem first hmember)
      exact (hrest.cons first).trans (.swap _ _ _)

theorem mem_of_mem_insertMember {members : List (String × Json)} {name : String} {value : Json}
    {member : String × Json} (h : member ∈ insertMember members name value) :
    member = (name, value) ∨ member ∈ members := by
  induction members with
  | nil => exact .inl (List.mem_singleton.mp h)
  | cons first rest ih =>
    rw [insertMember] at h
    split at h
    · exact (List.mem_cons.mp h).imp_right (List.mem_cons_of_mem first)
    · split at h
      · exact List.mem_cons.mp h
      · rcases List.mem_cons.mp h with rfl | hrest
        · exact .inr List.mem_cons_self
        · exact (ih hrest).imp_right (List.mem_cons_of_mem first)

/-- A member is put where its name belongs. -/
theorem ascending_insertMember {members : List (String × Json)} (h : Ascending members)
    (name : String) (value : Json) : Ascending (insertMember members name value) := by
  induction members with
  | nil => exact List.pairwise_singleton _ _
  | cons first rest ih =>
    obtain ⟨hfirst, hrest⟩ := List.pairwise_cons.mp h
    rw [insertMember]
    split
    · rename_i hsame
      exact List.pairwise_cons.mpr ⟨fun member hmember => hsame ▸ hfirst member hmember, hrest⟩
    · rename_i hother
      split
      · rename_i hbefore
        refine List.pairwise_cons.mpr ⟨?_, h⟩
        intro member hmember
        rcases List.mem_cons.mp hmember with rfl | hmember
        · exact hbefore
        · exact lt_trans hbefore (hfirst member hmember)
      · rename_i hbehind
        refine List.pairwise_cons.mpr ⟨?_, ih hrest⟩
        intro member hmember
        rcases mem_of_mem_insertMember hmember with rfl | hmember
        · exact lt_of_le_of_ne (not_lt.mp hbehind) hother
        · exact hfirst member hmember

end Json

namespace CommandLine

theorem ascending_sortedMembers (members : List (String × Json)) :
    Json.Ascending (sortedMembers members) := by
  induction members using List.reverseRecOn with
  | nil => exact List.Pairwise.nil
  | append_singleton rest last ih =>
    rw [sortedMembers, List.foldl_append]
    exact Json.ascending_insertMember ih last.1 last.2

/-- Members with different names are all kept. -/
theorem sortedMembers_perm {members : List (String × Json)} (h : (members.map (·.1)).Nodup) :
    (sortedMembers members).Perm members := by
  induction members using List.reverseRecOn with
  | nil => exact .refl _
  | append_singleton rest last ih =>
    rw [List.map_append, List.nodup_append] at h
    obtain ⟨hrest, _, hlast⟩ := h
    have hperm := ih hrest
    have hnew : ∀ member ∈ sortedMembers rest, member.1 ≠ last.1 := by
      intro member hmember
      exact hlast _ (List.mem_map_of_mem (hperm.subset hmember)) _ (by simp)
    rw [sortedMembers, List.foldl_append]
    exact (Json.insertMember_perm hnew).trans
      ((hperm.cons _).trans (List.perm_append_singleton last rest).symm)

end CommandLine

/-! ## Key names -/

theorem PluginKind.keyName_injective : Function.Injective PluginKind.keyName := by
  have hfound : ∀ k : PluginKind, all.find? (fun other => other.keyName = k.keyName) = some k := by
    intro k
    cases k <;> decide
  intro a b h
  have hsame := hfound a
  rw [h, hfound b] at hsame
  exact (Option.some.inj hsame).symm

namespace CommandLine

/-! ## The printed map -/

/-- The object in which a summary prints whether the principal holds each plugin. -/
def Summary.pluginAuthority? (s : Summary) : Option Json :=
  (s.toJson.member? "permissions").bind (Json.member? "pluginAuthority")

/-- The members of that object. -/
def Permissions.members (p : Permissions) : List (String × Json) :=
  sortedMembers (p.pluginAuthority.map fun (k, b) => (k.keyName, .bool b))

theorem Summary.pluginAuthority?_of_permissions {s : Summary} {p : Permissions}
    (h : s.permissions = some p) : s.pluginAuthority? = some (.object p.members) := by
  have hpermissions : s.toJson.member? "permissions" = some p.toJson := by
    rw [Summary.toJson, h]
    cases s.collection <;> cases s.extraAccounts <;> simp [Json.member?, optionalMember]
  rw [pluginAuthority?, hpermissions]
  simp [Json.member?, Permissions.toJson, Permissions.members]

end CommandLine

end DigitalAsset
