import DigitalAsset.Adapter.Kind

/-!
# Lifecycle checks

An adapter may declare, for each lifecycle event that it listens to, flags that say whether it may
observe, approve or reject the event.
-/

namespace DigitalAsset

/-- The flags of an adapter for one event. -/
structure CheckResult where
  flags : UInt32
  deriving DecidableEq, Repr

namespace CheckResult

/-- The adapter may observe the event. -/
def canListen (c : CheckResult) : Bool := c.flags &&& 1 != 0

/-- The adapter may approve the event. -/
def canApprove (c : CheckResult) : Bool := c.flags &&& 2 != 0

/-- The adapter may reject the event. -/
def canReject (c : CheckResult) : Bool := c.flags &&& 4 != 0

end CheckResult

/-- The events that an adapter listens to, each with its flags. -/
structure Checks where
  get? : Event → Option CheckResult

namespace Checks

@[ext] theorem ext {a b : Checks} (h : ∀ e, a.get? e = b.get? e) : a = b := by
  cases a
  cases b
  congr
  exact funext h

instance : DecidableEq Checks := fun a b =>
  if h : ∀ e ∈ Event.all, a.get? e = b.get? e then
    isTrue (ext fun e => h e e.mem_all)
  else isFalse fun hab => h fun _ _ => hab ▸ rfl

/-- No event at all. -/
def empty : Checks := ⟨fun _ => none⟩

/-- The checks with one event more, or with new flags for it. -/
def insert (checks : Checks) (event : Event) (result : CheckResult) : Checks :=
  ⟨fun e => if e = event then some result else checks.get? e⟩

/-- The checks of a list of events; of an event listed twice the last flags hold. -/
def ofList (entries : List (Event × CheckResult)) : Checks :=
  entries.foldl (fun checks (event, result) => checks.insert event result) empty

/-- The events with their flags, in the order of the events. -/
def toList (checks : Checks) : List (Event × CheckResult) :=
  Event.all.filterMap fun e => (checks.get? e).map (e, ·)

@[simp] theorem get?_insert (checks : Checks) (event : Event) (result : CheckResult) (e : Event) :
    (checks.insert event result).get? e = if e = event then some result else checks.get? e :=
  rfl

end Checks

end DigitalAsset
