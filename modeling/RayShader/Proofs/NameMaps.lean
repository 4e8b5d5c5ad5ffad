import RayShader.NameMap
import Mathlib.Data.List.Basic
import Mathlib.Data.List.Perm.Basic
import Mathlib.Data.List.Sort

/-!
# Insertion and look-up in maps from names

A look-up finds what was put in last under the name (`get?_insert`), and a map holds nothing
but what look-ups find (`eq_of_get?`). A map is also the list of its entries: it is made again of
them (`ofList_entries`), since what is put in ascending order comes to stand at the end.
-/

namespace RayShader.NameMap

variable {α : Type} {m m' : NameMap α}

theorem eq_of_entries {m m' : NameMap α} (h : m.entries = m'.entries) : m = m' := by
  cases m
  cases m'
  cases h
  rfl

theorem mapValues_eq_self_iff {f : String → α → α} :
    m.mapValues f = m ↔ ∀ e ∈ m.entries, f e.1 e.2 = e.2 := by
  have entries : m.mapValues f = m ↔ (m.mapValues f).entries = m.entries.map id := by
    rw [List.map_id]
    exact ⟨congrArg NameMap.entries, eq_of_entries⟩
  rw [entries, mapValues, List.map_inj_left]
  simp [Prod.ext_iff]

theorem insertEntry_of_lt {name : String} {value : α} {es : List (String × α)}
    (h : ∀ e ∈ es, e.1 < name) : insertEntry name value es = es ++ [(name, value)] := by
  induction es with
  | nil => rfl
  | cons e es ih =>
    obtain ⟨first, others⟩ := List.forall_mem_cons.mp h
    have not_lt : ¬ name < e.1 := fun lt => String.lt_irrefl _ (String.lt_trans lt first)
    have ne : name ≠ e.1 := fun same => String.lt_irrefl e.1 (same ▸ first)
    rw [insertEntry, if_neg not_lt, if_neg ne, ih others]
    rfl

/-- Putting in entries in ascending order appends them. -/
theorem entries_foldl_insert {m : NameMap α} {es : List (String × α)}
    (h : (m.entries ++ es).Pairwise (·.1 < ·.1)) :
    (es.foldl (fun m (name, value) => m.insert name value) m).entries = m.entries ++ es := by
  induction es generalizing m with
  | nil => simp
  | cons e es ih =>
    have last : (m.insert e.1 e.2).entries = m.entries ++ [e] := by
      apply insertEntry_of_lt
      intro e' he'
      exact (List.pairwise_append.mp h).2.2 e' he' e (by simp)
    rw [List.foldl_cons, ih (by rw [last]; simpa using h), last]
    simp

theorem ofList_entries (m : NameMap α) : ofList m.entries = m := by
  apply eq_of_entries
  exact entries_foldl_insert (m := empty) (by simpa [empty] using m.ascending)

/-- The entries of a map that is made of a list are among those of the list. -/
theorem mem_foldl_insert {m : NameMap α} {es : List (String × α)} {e : String × α}
    (h : e ∈ (es.foldl (fun m (name, value) => m.insert name value) m).entries) :
    e ∈ m.entries ∨ e ∈ es := by
  induction es generalizing m with
  | nil => exact .inl h
  | cons first es ih =>
    rcases ih h with h | h
    · rcases mem_insertEntry h with rfl | h
      · exact .inr (List.mem_cons_self ..)
      · exact .inl h
    · exact .inr (List.mem_cons_of_mem _ h)

theorem nodup_names (m : NameMap α) : m.names.Nodup := by
  rw [List.nodup_iff_pairwise_ne, NameMap.names, List.pairwise_map]
  exact m.ascending.imp fun {p q} (lt : p.1 < q.1) (same : p.1 = q.1) =>
    String.lt_irrefl q.1 (same ▸ lt)

/-! ### Look-up -/

theorem lookup_cons (name k : String) (value : α) (es : List (String × α)) :
    ((name, value) :: es).lookup k = if k = name then some value else es.lookup k := by
  by_cases found : k = name
  · rw [if_pos found, found, List.lookup_cons_self]
  · rw [if_neg found, List.lookup_cons, beq_false_of_ne found]

theorem lookup_insertEntry (name k : String) (value : α) (es : List (String × α)) :
    (insertEntry name value es).lookup k = if k = name then some value else es.lookup k := by
  induction es with
  | nil => exact lookup_cons ..
  | cons e es ih =>
    rw [insertEntry]
    split
    · exact lookup_cons ..
    · split
      · rename_i same
        rw [lookup_cons, lookup_cons, ← same]
        split <;> rfl
      · rename_i other
        rw [lookup_cons, lookup_cons, ih]
        by_cases found : k = e.1
        · have ne : k ≠ name := fun same => other (same.symm.trans found)
          rw [if_pos found, if_neg ne, if_pos found]
        · rw [if_neg found, if_neg found]

theorem get?_insert (m : NameMap α) (name k : String) (value : α) :
    (m.insert name value).get? k = if k = name then some value else m.get? k :=
  lookup_insertEntry ..

/-- What is found is found as well when an entry comes under a new name. -/
theorem get?_insert_of_new {name k : String} {v : α} (new : m.get? name = none) (value : α)
    (found : m.get? k = some v) : (m.insert name value).get? k = some v := by
  have ne : k ≠ name := by
    rintro rfl
    rw [new] at found
    cases found
  rw [get?_insert, if_neg ne, found]

theorem lookup_eq_some_iff {es : List (String × α)} (h : es.Pairwise (·.1 < ·.1)) {k : String}
    {v : α} : es.lookup k = some v ↔ (k, v) ∈ es := by
  induction es with
  | nil => simp
  | cons e es ih =>
    obtain ⟨first, rest⟩ := List.pairwise_cons.mp h
    rw [lookup_cons, List.mem_cons, Prod.ext_iff]
    by_cases found : k = e.1
    · have later : (k, v) ∉ es := fun mem => String.lt_irrefl e.1 (found ▸ first _ mem)
      simp [found, found ▸ later, eq_comm]
    · simp [found, ih rest]

theorem get?_eq_some_iff {k : String} {v : α} : m.get? k = some v ↔ (k, v) ∈ m.entries :=
  lookup_eq_some_iff m.ascending

/-- A map holds nothing but what look-ups find. -/
theorem eq_of_get? (h : ∀ k, m.get? k = m'.get? k) : m = m' := by
  apply eq_of_entries
  have nodup (m : NameMap α) : m.entries.Nodup :=
    m.ascending.imp fun lt same => String.ne_of_lt lt (congrArg Prod.fst same)
  have perm : m.entries.Perm m'.entries := (List.perm_ext_iff_of_nodup (nodup m) (nodup m')).mpr
    fun e => by rw [← Prod.eta e, ← get?_eq_some_iff, ← get?_eq_some_iff, h]
  refine List.Perm.eq_of_pairwise (fun a b _ _ lt gt => ?_) m.ascending m'.ascending perm
  exact absurd (String.lt_trans lt gt) (String.lt_irrefl _)

/-- An entry under a new name comes to the others. -/
theorem length_insertEntry {name : String} {value : α} {es : List (String × α)}
    (h : es.lookup name = none) : (insertEntry name value es).length = es.length + 1 := by
  induction es with
  | nil => rfl
  | cons e es ih =>
    rw [lookup_cons] at h
    split at h
    · cases h
    · rw [insertEntry]
      split
      · rfl
      · rw [List.length_cons, ih h, List.length_cons]

theorem size_insert {name : String} (h : m.get? name = none) (value : α) :
    (m.insert name value).size = m.size + 1 :=
  length_insertEntry h

end RayShader.NameMap
