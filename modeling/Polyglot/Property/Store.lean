import Polyglot.Dictionary
import Polyglot.Error
import Polyglot.Panic
import Polyglot.Property.Value
import Polyglot.Text.Record

/-!
# Property stores

A property store keeps values under keys and computes a value the first time it is asked for. A
computation that breaks off leaves its slot empty; an empty slot counts as absent everywhere, and
the next computation under its key fills it.
-/

set_option autoImplicit false

namespace Polyglot

/-- Slots under keys; a slot is empty until a computation has filled it. -/
structure PropertyStore (K : Type) [ValueKind K] where
  slots : Dictionary (Option (PropertyValue K))

/-- What asking for a value that may have to be computed gives: whether the computation ran, the
store afterwards, and the value, a mismatch of kinds, or the panic of the computation. -/
structure Computed (K : Type) [ValueKind K] (kind : K) where
  ran : Bool
  store : PropertyStore K
  value : Except Panic (Except Error (ValueKind.Carrier kind))

namespace PropertyStore

variable {K : Type} [ValueKind K]

/-- The store without slots. -/
def empty : PropertyStore K :=
  ⟨.empty⟩

instance : EmptyCollection (PropertyStore K) :=
  ⟨empty⟩

/-- The value under a key, if the key has a slot that is filled. -/
def find? (store : PropertyStore K) (key : String) : Option (PropertyValue K) :=
  (store.slots.find? key).join

/-- The value read as one of the kind; another kind is an error that names the kind asked for. -/
def read [DecidableEq K] (kind : K) (key : String) (value : PropertyValue K) :
    Except Error (ValueKind.Carrier kind) :=
  match value.as? kind with
  | some content => .ok content
  | none => .error (.propertyType key (ValueKind.name kind))

/-- The value of the given kind under a key, if there is a value. -/
def get? [DecidableEq K] (store : PropertyStore K) (kind : K) (key : String) :
    Except Error (Option (ValueKind.Carrier kind)) :=
  match store.find? key with
  | some value => (read kind key value).map some
  | none => .ok none

/-- The store with the value under the key. -/
def set (store : PropertyStore K) (key : String) (value : PropertyValue K) : PropertyStore K :=
  ⟨store.slots.insert key (some value)⟩

/-- The store without the key. -/
def remove (store : PropertyStore K) (key : String) : PropertyStore K :=
  ⟨store.slots.erase key⟩

/-- The store after an assignment: no value means that the key goes. -/
def assign (store : PropertyStore K) (key : String) : Option (PropertyValue K) → PropertyStore K
  | some value => store.set key value
  | none => store.remove key

/-- Whether there is a value under the key. -/
def contains (store : PropertyStore K) (key : String) : Bool :=
  (store.find? key).isSome

/-- The number of values. -/
def size (store : PropertyStore K) : Nat :=
  (store.slots.entries.filter fun e => e.2.isSome).length

/-- Whether there is no value. -/
def isEmpty (store : PropertyStore K) : Bool :=
  store.size == 0

/-- The value under the key, which is computed and kept if there is none yet. A computation that
breaks off leaves an empty slot. -/
def getOrCompute [DecidableEq K] (store : PropertyStore K) (kind : K) (key : String)
    (compute : Unit → Except Panic (ValueKind.Carrier kind)) : Computed K kind :=
  match store.find? key with
  | some value => ⟨false, store, .ok (read kind key value)⟩
  | none =>
    match compute () with
    | .ok content => ⟨true, store.set key ⟨kind, content⟩, .ok (.ok content)⟩
    | .error panic => ⟨true, ⟨store.slots.insert key none⟩, .error panic⟩

/-- The store as debugging output shows it. -/
def debug (store : PropertyStore K) : String :=
  Text.record "PropertyStore" [("len", Text.decimal store.size)]

/-- An empty store has nothing under any key. -/
@[simp]
theorem find?_empty (key : String) : (empty : PropertyStore K).find? key = none :=
  rfl

/-- To set a value changes what is found under its own key only. -/
theorem find?_set (store : PropertyStore K) (key key' : String) (value : PropertyValue K) :
    (store.set key value).find? key' = if key = key' then some value else store.find? key' := by
  by_cases h : key = key' <;> simp [find?, set, Dictionary.find?_insert, h]

/-- To remove a key changes what is found under this key only. -/
theorem find?_remove (store : PropertyStore K) (key key' : String) :
    (store.remove key).find? key' = if key = key' then none else store.find? key' := by
  by_cases h : key = key' <;> simp [find?, remove, Dictionary.find?_erase, h]

end PropertyStore

/-- The stores of this library. -/
abbrev Properties :=
  PropertyStore PropertyKind

end Polyglot
