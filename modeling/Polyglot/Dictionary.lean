/-!
# Dictionaries

A dictionary maps finitely many texts to values. Its entries stand in the order in which their
keys were first put in, and no key stands twice. Main statements: what is found after an
insertion (`find?_insert`) and after an erasure (`find?_erase`).
-/

set_option autoImplicit false

namespace Polyglot

universe u v

/-- Finitely many keys with a value each. -/
structure Dictionary (α : Type u) where
  entries : List (String × α)
  nodup : (entries.map Prod.fst).Nodup

namespace Dictionary

variable {α : Type u} {β : Type v}

/-- The dictionary without entries. -/
def empty : Dictionary α :=
  ⟨[], List.nodup_nil⟩

instance : EmptyCollection (Dictionary α) :=
  ⟨empty⟩

instance : Inhabited (Dictionary α) :=
  ⟨empty⟩

/-- The keys, in the order in which they came. -/
def keys (d : Dictionary α) : List String :=
  d.entries.map Prod.fst

/-- The keys in the order of their characters' code points. -/
def sortedKeys (d : Dictionary α) : List String :=
  d.keys.mergeSort fun a b => decide (a ≤ b)

/-- The number of keys. -/
def size (d : Dictionary α) : Nat :=
  d.entries.length

/-- The first value under a key in a list of entries. -/
def findIn? (key : String) : List (String × α) → Option α
  | [] => none
  | e :: es => if e.1 = key then some e.2 else findIn? key es

/-- The entries with the value under the key, in the key's old place or at the end. -/
def insertInto (key : String) (value : α) : List (String × α) → List (String × α)
  | [] => [(key, value)]
  | e :: es => if e.1 = key then (key, value) :: es else e :: insertInto key value es

/-- A key that is there keeps its place, and a new one comes last. -/
theorem keys_insertInto (key : String) (value : α) (es : List (String × α)) :
    (insertInto key value es).map Prod.fst =
      if key ∈ es.map Prod.fst then es.map Prod.fst else es.map Prod.fst ++ [key] := by
  induction es with
  | nil => simp [insertInto]
  | cons e es ih =>
    by_cases h : e.1 = key
    · simp [insertInto, h]
    · have h' : ¬key = e.1 := fun heq => h heq.symm
      by_cases hk : key ∈ es.map Prod.fst
      · simp [insertInto, h, ih, hk]
      · simp [insertInto, h, ih, hk, h']

/-- The value under a key. -/
def find? (d : Dictionary α) (key : String) : Option α :=
  findIn? key d.entries

/-- Whether the key has a value. -/
def contains (d : Dictionary α) (key : String) : Bool :=
  (d.find? key).isSome

/-- The dictionary with the value under the key, whether or not the key had one. -/
def insert (d : Dictionary α) (key : String) (value : α) : Dictionary α where
  entries := insertInto key value d.entries
  nodup := by
    rw [keys_insertInto]
    split
    · exact d.nodup
    · rename_i h
      refine List.nodup_append.2 ⟨d.nodup, by simp, ?_⟩
      rintro a ha b hb rfl
      rw [List.mem_singleton] at hb
      exact h (hb ▸ ha)

/-- The dictionary without the key. -/
def erase (d : Dictionary α) (key : String) : Dictionary α where
  entries := d.entries.filter fun e => decide (e.1 ≠ key)
  nodup := d.nodup.sublist (List.filter_sublist.map Prod.fst)

/-- The dictionary with each value replaced by its image. -/
def map (f : α → β) (d : Dictionary α) : Dictionary β where
  entries := d.entries.map fun e => (e.1, f e.2)
  nodup := by
    have h : (d.entries.map fun e => (e.1, f e.2)).map Prod.fst = d.entries.map Prod.fst := by
      simp [Function.comp_def]
    rw [h]
    exact d.nodup

/-- The dictionary of a list of entries; of two with one key the later counts. -/
def ofList (es : List (String × α)) : Dictionary α :=
  es.foldl (fun d e => d.insert e.1 e.2) empty

/-- The empty dictionary has nothing under any key. -/
@[simp]
theorem find?_empty (key : String) : (empty : Dictionary α).find? key = none :=
  rfl

/-- Only the key that is inserted is looked up anew. -/
theorem findIn?_insertInto (key key' : String) (value : α) (es : List (String × α)) :
    findIn? key' (insertInto key value es) = if key = key' then some value
      else findIn? key' es := by
  induction es with
  | nil => simp [insertInto, findIn?]
  | cons e es ih =>
    by_cases h : e.1 = key
    · by_cases h' : key = key' <;> simp [insertInto, findIn?, h, h']
    · by_cases h' : e.1 = key'
      · have hne : ¬key = key' := fun heq => h (h'.trans heq.symm)
        rw [insertInto, if_neg h, findIn?, if_pos h', findIn?, if_pos h', if_neg hne]
      · simp [insertInto, findIn?, h, h', ih]

/-- The inserted value is under its key, and the other keys keep theirs. -/
theorem find?_insert (d : Dictionary α) (key key' : String) (value : α) :
    (d.insert key value).find? key' = if key = key' then some value else d.find? key' :=
  findIn?_insertInto key key' value d.entries

/-- Without the entries of a key only this key is not found any more. -/
theorem findIn?_filter_ne (key key' : String) (es : List (String × α)) :
    findIn? key' (es.filter fun e => decide (e.1 ≠ key)) =
      if key = key' then none else findIn? key' es := by
  induction es with
  | nil => simp [findIn?]
  | cons e es ih =>
    by_cases h : e.1 = key
    · by_cases h' : key = key'
      · subst h'
        simpa [h] using ih
      · simpa [h, findIn?, h'] using ih
    · by_cases h' : key = key'
      · subst h'
        simpa [h, findIn?] using ih
      · by_cases h'' : e.1 = key'
        · subst h''
          have : ¬key = e.1 := fun heq => h heq.symm
          simp [h, findIn?, this]
        · simpa [h, findIn?, h', h''] using ih

/-- The erased key has no value, and the other keys keep theirs. -/
theorem find?_erase (d : Dictionary α) (key key' : String) :
    (d.erase key).find? key' = if key = key' then none else d.find? key' :=
  findIn?_filter_ne key key' d.entries

/-- What is found among changed values is the changed value. -/
theorem findIn?_map (f : α → β) (key : String) (es : List (String × α)) :
    findIn? key (es.map fun e => (e.1, f e.2)) = (findIn? key es).map f := by
  induction es with
  | nil => rfl
  | cons e es ih =>
    rw [List.map_cons, findIn?, findIn?, ih]
    split <;> rfl

/-- The keys keep their values, each replaced by its image. -/
theorem find?_map (f : α → β) (d : Dictionary α) (key : String) :
    (d.map f).find? key = (d.find? key).map f :=
  findIn?_map f key d.entries

/-- A value is found exactly under the keys of the entries. -/
theorem findIn?_isSome_iff (key : String) (es : List (String × α)) :
    (findIn? key es).isSome = true ↔ key ∈ es.map Prod.fst := by
  induction es with
  | nil => simp [findIn?]
  | cons e es ih =>
    by_cases h : e.1 = key
    · simp [findIn?, h]
    · have h' : ¬key = e.1 := fun heq => h heq.symm
      simpa [findIn?, h, h'] using ih

/-- The keys are those that have a value. -/
theorem mem_keys_iff (d : Dictionary α) (key : String) :
    key ∈ d.keys ↔ (d.find? key).isSome = true :=
  (findIn?_isSome_iff key d.entries).symm

end Dictionary

end Polyglot
