/-!
# Environments

The variables that are set, with their values.  A variable that is set stays as it is when it is set
again.
-/

namespace DigitalAsset

/-- The values of the variables that are set. -/
abbrev Environment := List (String × String)

namespace Environment

/-- The value of a variable. -/
def get? (env : Environment) (name : String) : Option String :=
  (env.find? (·.1 = name)).map (·.2)

/-- Set a variable that is not set yet. -/
def default (env : Environment) (name value : String) : Environment :=
  if (env.get? name).isSome then env else env ++ [(name, value)]

theorem get?_default (env : Environment) (name value n : String) :
    (env.default name value).get? n =
      (env.get? n).or (if name = n then some value else none) := by
  unfold default
  by_cases hn : name = n
  · subst hn
    cases h : env.get? name with
    | some v => simp [h]
    | none =>
      have hf : List.find? (fun e : String × String => decide (e.1 = name)) env = none := by
        simpa [get?] using h
      simp [get?, List.find?_append, hf]
  · rw [if_neg hn, Option.or_none]
    split
    · rfl
    · simp [get?, List.find?_append, hn]

end Environment

end DigitalAsset
