import Mathlib.Data.Finmap
import Polyglot.Property.Store

/-!
# Property stores as finite maps

Whoever calls a property store cannot tell it from a finite map that has values under keys. What a
store holds are the values in its slots (`contents`); a slot that a computation left empty when it
broke off holds nothing. Each call answers as a finite map does and leaves what a finite map leaves
(`perform_contents`), and so do calls in any number and order (`serve_contents`).

Computations belong to the caller. They may change what is the caller's own, so whether and how
often a computation runs can be told from what it leaves there.
-/

set_option autoImplicit false

namespace Polyglot

/-- Values under finitely many keys. -/
abbrev PropertyMap (K : Type) [ValueKind K] :=
  Finmap fun _ : String => PropertyValue K

/-! ## What a store holds -/

namespace PropertyStore

variable {K : Type} [ValueKind K]

/-- The slots that are filled, each with its key. -/
def filled (entries : List (String × Option (PropertyValue K))) :
    List ((_ : String) × PropertyValue K) :=
  entries.filterMap fun e => e.2.map fun value => ⟨e.1, value⟩

/-- The keys with a value are among all keys, in their order. -/
theorem keys_filled_sublist (entries : List (String × Option (PropertyValue K))) :
    (filled entries).keys.Sublist (entries.map Prod.fst) := by
  induction entries with
  | nil => exact List.Sublist.refl _
  | cons e es ih =>
      obtain ⟨key, _ | value⟩ := e
      · exact ih.cons key
      · exact ih.cons_cons key

/-- What a store holds: the values in its slots. -/
def contents (store : PropertyStore K) : PropertyMap K where
  entries := filled store.slots.entries
  nodupKeys := Multiset.coe_nodupKeys.2
    ((keys_filled_sublist store.slots.entries).nodup store.slots.nodup)

/-- Among the values is what is found under a key, if it is not empty. -/
theorem dlookup_filled {entries : List (String × Option (PropertyValue K))}
    (hnodup : (entries.map Prod.fst).Nodup) (key : String) :
    (filled entries).dlookup key = (Dictionary.findIn? key entries).join := by
  induction entries with
  | nil => rfl
  | cons e es ih =>
      obtain ⟨key', slot⟩ := e
      rw [List.map_cons, List.nodup_cons] at hnodup
      by_cases hkey : key' = key
      · subst hkey
        cases slot with
        | some value => simp [filled, Dictionary.findIn?]
        | none =>
            -- The slot is empty, and no other one has its key.
            have habsent : key' ∉ (filled es).keys := fun h =>
              hnodup.1 ((keys_filled_sublist es).subset h)
            simpa [filled, Dictionary.findIn?] using List.dlookup_eq_none.2 habsent
      · cases slot <;> simpa [filled, Dictionary.findIn?, hkey, Ne.symm hkey] using ih hnodup.2

/-- The contents have under a key what the store finds there. -/
@[simp]
theorem lookup_contents (store : PropertyStore K) (key : String) :
    store.contents.lookup key = store.find? key :=
  dlookup_filled store.slots.nodup key

/-- An empty store has no contents. -/
@[simp]
theorem contents_empty : (∅ : PropertyStore K).contents = ∅ :=
  rfl

/-- To set a value in a store inserts it into the contents. -/
@[simp]
theorem contents_set (store : PropertyStore K) (key : String) (value : PropertyValue K) :
    (store.set key value).contents = store.contents.insert key value := by
  refine Finmap.ext_lookup fun key' => ?_
  rw [lookup_contents, find?_set]
  split
  · rename_i hkey
    rw [← hkey, Finmap.lookup_insert]
  · rename_i hkey
    rw [Finmap.lookup_insert_of_ne _ (Ne.symm hkey), lookup_contents]

/-- To remove a key from a store erases it from the contents. -/
@[simp]
theorem contents_remove (store : PropertyStore K) (key : String) :
    (store.remove key).contents = store.contents.erase key := by
  refine Finmap.ext_lookup fun key' => ?_
  rw [lookup_contents, find?_remove]
  split
  · rename_i hkey
    rw [← hkey, Finmap.lookup_erase]
  · rename_i hkey
    rw [Finmap.lookup_erase_ne (Ne.symm hkey), lookup_contents]

/-- An empty slot under a key without a value holds nothing. -/
theorem contents_insert_none {store : PropertyStore K} {key : String}
    (habsent : store.find? key = none) :
    (⟨store.slots.insert key none⟩ : PropertyStore K).contents = store.contents := by
  refine Finmap.ext_lookup fun key' => ?_
  rw [lookup_contents, lookup_contents, find?, Dictionary.find?_insert]
  split
  · rename_i hkey
    rw [← hkey, habsent]
    rfl
  · rfl

/-- The contents have exactly the keys that the store says it contains. -/
theorem mem_contents_iff (store : PropertyStore K) (key : String) :
    key ∈ store.contents ↔ store.contains key = true := by
  rw [← Finmap.lookup_isSome, lookup_contents, contains]

/-- Exactly the keys with a value are counted. -/
theorem size_eq_card (store : PropertyStore K) : store.size = store.contents.keys.card := by
  have hcard : store.contents.keys.card = (filled store.slots.entries).length := by
    change (store.contents.entries.map Sigma.fst).card = _
    rw [Multiset.card_map]
    rfl
  rw [hcard, size, filled, List.length_filterMap_eq_countP, List.countP_eq_length_filter]
  simp only [Option.isSome_map]

end PropertyStore

/-! ## Calls -/

/-- A call by a caller with a state of its own. A computation gives a value of its kind or breaks
off, and leaves a state of the caller in either case. -/
inductive PropertyCall (W K : Type) [ValueKind K] where
  | value (key : String)
  | get (kind : K) (key : String)
  | assign (key : String) (value? : Option (PropertyValue K))
  | compute (kind : K) (key : String)
      (computation : W → Except Panic (ValueKind.Carrier kind) × W)
  | remove (key : String)
  | contains (key : String)
  | size
  | clear

/-- What a call is answered. -/
inductive PropertyAnswer (K : Type) [ValueKind K] where
  | done
  | value (value? : Option (PropertyValue K))
  | typed (kind : K) (result : Except Error (Option (ValueKind.Carrier kind)))
  | computed (kind : K) (result : Except Panic (Except Error (ValueKind.Carrier kind)))
  | flag (b : Bool)
  | number (n : Nat)

/-- The answers to calls one after the other, and what they leave of the callee and the caller. -/
def serve {S W K : Type} [ValueKind K]
    (perform : S → W → PropertyCall W K → PropertyAnswer K × S × W) :
    S → W → List (PropertyCall W K) → List (PropertyAnswer K) × S × W
  | s, w, [] => ([], s, w)
  | s, w, call :: calls =>
    let (answer, s', w') := perform s w call
    let (answers, left) := serve perform s' w' calls
    (answer :: answers, left)

variable {W K : Type} [ValueKind K] [DecidableEq K]

namespace PropertyMap

/-- The value as one of the kind, or the error that it is of another. -/
def typed (kind : K) (key : String) (value : PropertyValue K) :
    Except Error (ValueKind.Carrier kind) :=
  if h : value.kind = kind then .ok (h ▸ value.content)
  else .error (.propertyType key (ValueKind.name kind))

/-- A call on a finite map. A computation runs only if nothing is under the key, and its value is
kept if it gives one. -/
def perform (m : PropertyMap K) (w : W) :
    PropertyCall W K → PropertyAnswer K × PropertyMap K × W
  | .value key => (.value (m.lookup key), m, w)
  | .get kind key =>
    match m.lookup key with
    | some value => (.typed kind ((typed kind key value).map some), m, w)
    | none => (.typed kind (.ok none), m, w)
  | .assign key (some value) => (.done, m.insert key value, w)
  | .assign key none => (.done, m.erase key, w)
  | .compute kind key computation =>
    match m.lookup key with
    | some value => (.computed kind (.ok (typed kind key value)), m, w)
    | none =>
      match computation w with
      | (.ok content, w') => (.computed kind (.ok (.ok content)), m.insert key ⟨kind, content⟩, w')
      | (.error panic, w') => (.computed kind (.error panic), m, w')
  | .remove key => (.value (m.lookup key), m.erase key, w)
  | .contains key => (.flag (decide (key ∈ m)), m, w)
  | .size => (.number m.keys.card, m, w)
  | .clear => (.done, ∅, w)

end PropertyMap

namespace PropertyStore

/-- A call on a store. -/
def perform (store : PropertyStore K) (w : W) :
    PropertyCall W K → PropertyAnswer K × PropertyStore K × W
  | .value key => (.value (store.find? key), store, w)
  | .get kind key => (.typed kind (store.get? kind key), store, w)
  | .assign key value? => (.done, store.assign key value?, w)
  | .compute kind key computation =>
    let (outcome, w') := computation w
    let computed := store.getOrCompute kind key fun _ => outcome
    (.computed kind computed.value, computed.store, if computed.ran then w' else w)
  | .remove key => (.value (store.find? key), store.remove key, w)
  | .contains key => (.flag (store.contains key), store, w)
  | .size => (.number store.size, store, w)
  | .clear => (.done, ∅, w)

/-- To read a value by its type is the same in the store and in the finite map. -/
theorem read_eq_typed (kind : K) (key : String) (value : PropertyValue K) :
    read kind key value = PropertyMap.typed kind key value := by
  unfold read PropertyMap.typed PropertyValue.as?
  by_cases h : value.kind = kind <;> simp [h]

/-- A call on a store is answered as on a finite map with its contents, and leaves the same contents
and the same caller. -/
theorem perform_contents (store : PropertyStore K) (w : W) (call : PropertyCall W K) :
    PropertyMap.perform store.contents w call =
      ((store.perform w call).1, (store.perform w call).2.1.contents,
        (store.perform w call).2.2) := by
  cases call with
  | value key => simp [perform, PropertyMap.perform]
  | get kind key =>
      cases h : store.find? key <;>
        simp [perform, PropertyMap.perform, get?, h, read_eq_typed]
  | assign key value? => cases value? <;> simp [perform, PropertyMap.perform, assign]
  | compute kind key computation =>
      cases h : store.find? key with
      | some value => simp [perform, PropertyMap.perform, getOrCompute, h, read_eq_typed]
      | none =>
          rcases houtcome : computation w with ⟨panic | content, w'⟩
          · simp [perform, PropertyMap.perform, getOrCompute, houtcome, h, contents_insert_none h]
          · simp [perform, PropertyMap.perform, getOrCompute, houtcome, h]
  | remove key => simp [perform, PropertyMap.perform]
  | contains key =>
      simp only [perform, PropertyMap.perform, mem_contents_iff, Bool.decide_eq_true]
  | size => simp only [perform, PropertyMap.perform, size_eq_card]
  | clear => simp only [perform, PropertyMap.perform, contents_empty]

/-- A new store holds nothing, and calls in any number and order are answered by a store as they are
by a finite map with its contents: a value that is there is kept until it is replaced or removed, a
value that is not is computed once, and a computation that broke off can be asked for again. What is
left of the contents and of the caller is the same as well. -/
theorem serve_contents :
    (∅ : PropertyStore K).contents = ∅ ∧
      ∀ (calls : List (PropertyCall W K)) (store : PropertyStore K) (w : W),
        serve PropertyMap.perform store.contents w calls =
          ((serve perform store w calls).1, (serve perform store w calls).2.1.contents,
            (serve perform store w calls).2.2) := by
  refine ⟨contents_empty, fun calls => ?_⟩
  induction calls with
  | nil => exact fun store w => rfl
  | cons call calls ih =>
      intro store w
      simp only [serve, perform_contents, ih]

/-- Two of three computations run: one that breaks off and the one after it, but not one for another
kind. -/
example : (serve perform (∅ : Properties) 0
    [.compute PropertyKind.number "k" fun runs => (.error (.ofMessage "broken"), runs + 1),
      .compute PropertyKind.number "k" fun runs => (.ok (42 : Nat), runs + 1),
      .compute PropertyKind.text "k" fun runs => (.ok "other", runs + 1)]).2.2 = 2 :=
  rfl

end PropertyStore

end Polyglot
