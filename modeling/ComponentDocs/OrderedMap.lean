/-!
# Maps in insertion order

An ordered map lists its entries in the order in which their keys were first written. Writing a key
that is present changes its value in place; writing a new key appends it. `alter` is the one writing
operation, and the others are instances of it.

The laws say what `alter` does to the two views of a map: its keys (`keys_alter`) and its values
(`get?_alter_self`, `get?_alter_of_ne`).
-/

set_option autoImplicit false

namespace ComponentDocs

universe u v

/-- A finite map whose entries stand in the order in which their keys were first written. -/
@[ext] structure OrderedMap (κ : Type u) (ν : Type v) where
  entries : List (κ × ν)
  nodup : (entries.map Prod.fst).Nodup
deriving DecidableEq

namespace OrderedMap

variable {κ : Type u} {ν : Type v}

/-- The map without entries. -/
def empty : OrderedMap κ ν :=
  ⟨[], List.nodup_nil⟩

instance : Inhabited (OrderedMap κ ν) := ⟨empty⟩

/-- The keys, in the order in which they were first written. -/
def keys (m : OrderedMap κ ν) : List κ :=
  m.entries.map Prod.fst

/-- The values, in the order of their keys. -/
def values (m : OrderedMap κ ν) : List ν :=
  m.entries.map Prod.snd

/-- The map with the value of each key computed from the key and its present value. -/
def mapEntries {μ : Type v} (g : κ → ν → μ) (m : OrderedMap κ ν) : OrderedMap κ μ :=
  ⟨m.entries.map fun e => (e.1, g e.1 e.2), by rw [List.map_map]; exact m.nodup⟩

/-- Whether the map has no entry. -/
def isEmpty (m : OrderedMap κ ν) : Bool :=
  m.entries.isEmpty

/-- The number of entries. -/
def size (m : OrderedMap κ ν) : Nat :=
  m.entries.length

@[simp] theorem keys_empty : (empty : OrderedMap κ ν).keys = [] := rfl

variable [DecidableEq κ]

/-- The value of a key. -/
def get? (m : OrderedMap κ ν) (k : κ) : Option ν :=
  m.entries.lookup k

/-- Whether a key is present. -/
def contains (m : OrderedMap κ ν) (k : κ) : Bool :=
  (m.get? k).isSome

/-! ## Writing -/

/-- A list of entries with the value of one key computed from its present value, in place when the
key is there and at the end when it is not. -/
def alterEntries (k : κ) (f : Option ν → ν) : List (κ × ν) → List (κ × ν)
  | [] => [(k, f none)]
  | (k', w) :: rest =>
      if k' = k then (k', f (some w)) :: rest else (k', w) :: alterEntries k f rest

/-- Altering an entry appends its key if it is new and keeps the keys otherwise. -/
theorem map_fst_alterEntries (k : κ) (f : Option ν → ν) (es : List (κ × ν)) :
    (alterEntries k f es).map Prod.fst =
      if k ∈ es.map Prod.fst then es.map Prod.fst else es.map Prod.fst ++ [k] := by
  induction es with
  | nil => simp [alterEntries]
  | cons e rest ih =>
      obtain ⟨k', w⟩ := e
      by_cases h : k' = k
      · simp [alterEntries, h]
      · have h' : ¬ k = k' := fun e => h e.symm
        simp only [alterEntries, h, if_false, List.map_cons, ih, List.mem_cons, h', false_or]
        split <;> simp

/-- Altering an entry keeps the keys distinct. -/
theorem nodup_alterEntries (k : κ) (f : Option ν → ν) {es : List (κ × ν)}
    (h : (es.map Prod.fst).Nodup) : ((alterEntries k f es).map Prod.fst).Nodup := by
  rw [map_fst_alterEntries]
  split
  case isTrue => exact h
  case isFalse hk =>
      rw [List.nodup_append]
      refine ⟨h, by simp, ?_⟩
      intro a ha b hb
      rw [List.mem_singleton] at hb
      rintro rfl
      exact hk (hb ▸ ha)

/-- The map with the value of one key computed from its present value. -/
def alter (m : OrderedMap κ ν) (k : κ) (f : Option ν → ν) : OrderedMap κ ν :=
  ⟨alterEntries k f m.entries, nodup_alterEntries k f m.nodup⟩

/-- The map with a value written under a key, in place of an earlier one. -/
def insert (m : OrderedMap κ ν) (k : κ) (w : ν) : OrderedMap κ ν :=
  m.alter k fun _ => w

/-- The map with a value written under a key that has none yet. -/
def insertIfNew (m : OrderedMap κ ν) (k : κ) (w : ν) : OrderedMap κ ν :=
  m.alter k fun old => old.getD w

/-- The map that results from writing the entries one after the other. -/
def ofList (es : List (κ × ν)) : OrderedMap κ ν :=
  es.foldl (fun m e => m.insert e.1 e.2) empty

/-! ## Laws -/

@[simp] theorem get?_empty (k : κ) : (empty : OrderedMap κ ν).get? k = none := rfl

/-- Altering a key appends it if it is new and keeps the keys otherwise. -/
theorem keys_alter (m : OrderedMap κ ν) (k : κ) (f : Option ν → ν) :
    (m.alter k f).keys = if k ∈ m.keys then m.keys else m.keys ++ [k] :=
  map_fst_alterEntries k f m.entries

/-- The altered key has the value computed from its earlier one. -/
@[simp] theorem get?_alter_self (m : OrderedMap κ ν) (k : κ) (f : Option ν → ν) :
    (m.alter k f).get? k = some (f (m.get? k)) := by
  obtain ⟨es, hes⟩ := m
  simp only [alter, get?]
  clear hes
  induction es with
  | nil => simp [alterEntries]
  | cons e rest ih =>
      obtain ⟨k', w⟩ := e
      by_cases h : k' = k
      · subst h; simp [alterEntries]
      · have hb : (k == k') = false := by simpa using fun e => h e.symm
        simp [alterEntries, h, List.lookup_cons, hb, ih]

/-- The other keys keep their values. -/
theorem get?_alter_of_ne (m : OrderedMap κ ν) {k k' : κ} (f : Option ν → ν) (h : k' ≠ k) :
    (m.alter k f).get? k' = m.get? k' := by
  obtain ⟨es, hes⟩ := m
  simp only [alter, get?]
  clear hes
  induction es with
  | nil =>
      have hb : (k' == k) = false := by simpa using h
      simp [alterEntries, List.lookup_cons, hb]
  | cons e rest ih =>
      obtain ⟨j, w⟩ := e
      by_cases hj : j = k
      · subst hj
        have hb : (k' == j) = false := by simpa using h
        simp [alterEntries, List.lookup_cons, hb]
      · simp only [alterEntries, hj, if_false, List.lookup_cons]
        split <;> simp_all

end OrderedMap

end ComponentDocs
