import DigitalAsset.Environment.Basic
import DigitalAsset.Settings.Error

/-!
# Settings in the environment

Three variables override the choices of given settings, one after another; the result is checked
last.  Where a variable holds no choice, the ones before it have already taken effect.
-/

namespace DigitalAsset

namespace Settings

/-- An action that changes settings until it fails. -/
abbrev Update := ExceptT Error (StateM Settings)

/-- A width from a variable. -/
def readWidth (text : String) : Except Error Nat := (Unsigned.parse text).mapError .width

/-- A duplicate policy from a text. -/
def readPolicy (text : String) : Except Error DuplicatePolicy :=
  match DuplicatePolicy.ofName? text with
  | some p => .ok p
  | none => .error (.unknownPolicy text)

/-- A truth value from a variable. -/
def readFallback (text : String) : Except Error Bool :=
  if text = "true" then .ok true
  else if text = "false" then .ok false
  else .error .fallback

/-- Override a choice if its variable is set. -/
def overrideBy (env : Environment) (name : String) (read : String → Except Error α)
    (put : Settings → α → Settings) : Update Unit := do
  match env.get? name with
  | none => pure ()
  | some text =>
    let a ← ExceptT.mk (pure (read text))
    modify fun s => put s a

/-- Override choices by the variables that are set, and check the result. -/
def overrideAll (env : Environment) : Update Unit := do
  overrideBy env widthVariable readWidth fun s n => { s with unknownTagWidth := n }
  overrideBy env policyVariable
    (fun text => (readPolicy text).mapError fun _ => .policy text)
    fun s p => { s with duplicatePlugins := p }
  overrideBy env fallbackVariable readFallback fun s b => { s with jsonFallbackToBinary := b }
  ExceptT.mk (return validate (← get))

/-- The settings after the overrides, and what went wrong. -/
def override (env : Environment) (s : Settings) : Except Error Unit × Settings :=
  (overrideAll env).run s

end Settings

end DigitalAsset
