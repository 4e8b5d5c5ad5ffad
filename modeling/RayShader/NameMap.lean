/-!
# Maps from names

A map from names keeps its entries in ascending order of the names, each name once,
and carries the proof. So a map has one representation, and its order is part of its
meaning: the position of a name is its number among the names.
-/

namespace RayShader

/-- A finite map from names to values. -/
structure NameMap (α : Type) where
  /-- The entries. -/
  entries : List (String × α)
  /-- The names ascend. -/
  ascending : entries.Pairwise (·.1 < ·.1)
  deriving DecidableEq

namespace NameMap

variable {α β : Type}

/-- The map without entries. -/
def empty : NameMap α := ⟨[], .nil⟩

instance : Inhabited (NameMap α) := ⟨empty⟩

/-- Puts an entry in its place; an entry of the same name gives way. -/
def insertEntry (name : String) (value : α) : List (String × α) → List (String × α)
  | [] => [(name, value)]
  | (k, v) :: rest =>
    if name < k then (name, value) :: (k, v) :: rest
    else if name = k then (name, value) :: rest
    else (k, v) :: insertEntry name value rest

theorem mem_insertEntry {name : String} {value : α} {entries : List (String × α)} {p : String × α}
    (h : p ∈ insertEntry name value entries) : p = (name, value) ∨ p ∈ entries := by
  induction entries with
  | nil => simpa [insertEntry] using h
  | cons e rest ih =>
    simp only [insertEntry] at h
    split at h
    · simpa using h
    · split at h
      · rcases List.mem_cons.mp h with h | h
        · exact .inl h
        · exact .inr (List.mem_cons_of_mem _ h)
      · rcases List.mem_cons.mp h with h | h
        · exact .inr (h ▸ List.mem_cons_self ..)
        · exact (ih h).imp_right (List.mem_cons_of_mem _)

theorem pairwise_insertEntry {name : String} {value : α} {entries : List (String × α)}
    (h : entries.Pairwise (·.1 < ·.1)) : (insertEntry name value entries).Pairwise (·.1 < ·.1) := by
  induction entries with
  | nil => exact List.pairwise_singleton ..
  | cons e rest ih =>
    obtain ⟨head, tail⟩ := List.pairwise_cons.mp h
    simp only [insertEntry]
    split
    · rename_i lt
      refine List.pairwise_cons.mpr ⟨fun p hp => ?_, h⟩
      rcases List.mem_cons.mp hp with rfl | hp
      · exact lt
      · exact String.lt_trans lt (head p hp)
    · split
      · rename_i eq
        exact List.pairwise_cons.mpr ⟨fun p hp => eq ▸ head p hp, tail⟩
      · rename_i not_lt ne
        refine List.pairwise_cons.mpr ⟨fun p hp => ?_, ih tail⟩
        rcases mem_insertEntry hp with rfl | hp
        · rcases Decidable.em (e.1 < name) with lt | ge
          · exact lt
          · exact absurd (String.le_antisymm (String.not_lt.mp ge) (String.not_lt.mp not_lt)) ne
        · exact head p hp

/-- The map with the value under the name. -/
def insert (m : NameMap α) (name : String) (value : α) : NameMap α :=
  ⟨insertEntry name value m.entries, pairwise_insertEntry m.ascending⟩

/-- The map of a list of entries, of which the last one of each name counts. -/
def ofList (entries : List (String × α)) : NameMap α :=
  entries.foldl (fun m (name, value) => m.insert name value) empty

/-- The names, in ascending order. -/
def names (m : NameMap α) : List String := m.entries.map (·.1)

/-- The values, in the order of their names. -/
def values (m : NameMap α) : List α := m.entries.map (·.2)

/-- The number of entries. -/
def size (m : NameMap α) : Nat := m.entries.length

/-- The value under the name. -/
def get? (m : NameMap α) (name : String) : Option α := m.entries.lookup name

/-- There is a value under the name. -/
def contains (m : NameMap α) (name : String) : Bool := (m.get? name).isSome

/-- The number of the name among the names. -/
def index? (m : NameMap α) (name : String) : Option Nat := m.names.findIdx? (· = name)

/-- The map with every value replaced by one that may depend on its name. -/
def mapValues (m : NameMap α) (f : String → α → β) : NameMap β :=
  ⟨m.entries.map fun (k, v) => (k, f k v), List.pairwise_map.mpr m.ascending⟩

end NameMap

end RayShader
