import RayShader.NameMap
import Mathlib.Data.Finset.Card
import Mathlib.Data.List.Basic
import Mathlib.Data.Set.Function

/-!
# The order of names

Names are compared character by character, and files and programs compare their bytes. The
encoding of characters keeps their order: two encodings differ for the first time at a byte
that is the smaller one in the encoding of the smaller character (`encode_lt`). So both
orders of names are one (`lt_iff_bytes_lt`).

The rank of a name in a set of names is the number of names of the set that are smaller.
Ranks number the names of the set in their order (`bijOn_rank`), and a map from names
numbers its names by their ranks (`index?_eq`), whatever the order was in which they were
put in.
-/

namespace RayShader

/-! ### Bytes -/

namespace Text

variable {s t u : String}

/-- The bytes of a text. -/
def bytes (s : String) : List UInt8 := s.toUTF8.data.toList

theorem bytes_eq (s : String) : bytes s = s.toList.flatMap String.utf8EncodeChar := by
  rw [bytes, String.toUTF8_eq_toByteArray, ← String.utf8Encode_toList, List.utf8Encode,
    List.toList_data_toByteArray]

/-- Numbers in order have what is before their last digits in order, or the last digits. -/
theorem div_mod_lt {n m : Nat} (h : n < m) (base : Nat) :
    n / base < m / base ∨ n / base = m / base ∧ n % base < m % base := by
  rcases Nat.lt_or_eq_of_le (Nat.div_le_div_right (c := base) (Nat.le_of_lt h)) with lt | eq
  · exact .inl lt
  · refine .inr ⟨eq, ?_⟩
    have hn := Nat.div_add_mod n base
    have hm := Nat.div_add_mod m base
    rw [eq] at hn
    omega

/-- Characters in order have encodings in order, whatever comes behind them. -/
theorem encode_lt {a b : Char} (h : a < b) (xs ys : List UInt8) :
    String.utf8EncodeChar a ++ xs < String.utf8EncodeChar b ++ ys := by
  have lt : a.val.toNat < b.val.toNat := h
  have small : b.val.toNat < 0x110000 := by
    have range := b.valid
    rw [UInt32.isValidChar, Nat.isValidChar] at range
    omega
  -- the last six bits count only if all bits before them are equal, and so on upwards
  have last := div_mod_lt lt 64
  have third : a.val.toNat / 64 < b.val.toNat / 64 → _ := fun lt => div_mod_lt lt 64
  have second : a.val.toNat / 64 / 64 < b.val.toNat / 64 / 64 → _ := fun lt => div_mod_lt lt 64
  simp only [Nat.div_div_eq_div_mul, Nat.reduceMul] at last third second
  fun_cases String.utf8EncodeChar a <;> fun_cases String.utf8EncodeChar b
  all_goals
    simp only [List.cons_append, List.nil_append, List.cons_lt_cons_iff, UInt8.lt_iff_toNat_lt,
      ← UInt8.toNat_inj, UInt8.toNat_ofNat', Nat.reducePow]
    simp (disch := omega) only [Nat.mod_eq_of_lt]
    omega

theorem flatMap_encode_lt {cs ds : List Char} (h : cs < ds) :
    cs.flatMap String.utf8EncodeChar < ds.flatMap String.utf8EncodeChar := by
  induction cs generalizing ds with
  | nil =>
    cases ds with
    | nil => exact absurd h (List.not_lt_nil [])
    | cons d ds =>
      obtain ⟨byte, more, starts⟩ := List.exists_cons_of_ne_nil (String.utf8EncodeChar_ne_nil (c := d))
      rw [List.flatMap_cons, starts]
      exact List.nil_lt_cons ..
  | cons c cs ih =>
    cases ds with
    | nil => exact absurd h (List.not_lt_nil _)
    | cons d ds =>
      rw [List.flatMap_cons, List.flatMap_cons]
      rcases List.cons_lt_cons_iff.mp h with lt | ⟨rfl, lt⟩
      · exact encode_lt lt ..
      · exact List.append_left_lt (ih lt)

theorem bytes_lt (h : s < t) : bytes s < bytes t := by
  rw [bytes_eq, bytes_eq]
  exact flatMap_encode_lt h

theorem trichotomy (s t : String) : s < t ∨ s = t ∨ t < s := by
  by_contra! h
  exact h.2.1 (String.le_antisymm h.2.2 h.1)

/-- Texts are in the order of their bytes. -/
theorem lt_iff_bytes_lt : s < t ↔ bytes s < bytes t := by
  refine ⟨bytes_lt, fun h => ?_⟩
  rcases trichotomy s t with lt | rfl | gt
  · exact lt
  · exact absurd h (List.lt_irrefl _)
  · exact absurd (bytes_lt gt) (List.lt_asymm h)

/-! ### Ranks -/

variable {names : Finset String}

/-- The number of names whose bytes come before those of a name. -/
def rank (names : Finset String) (name : String) : Nat :=
  (names.filter fun k => bytes k < bytes name).card

theorem rank_lt_card (h : s ∈ names) : rank names s < names.card := by
  refine Finset.card_lt_card (Finset.filter_ssubset.mpr ⟨s, h, ?_⟩)
  exact List.lt_irrefl _

theorem rank_lt_rank (h : s ∈ names) (lt : bytes s < bytes t) : rank names s < rank names t := by
  refine Finset.card_lt_card (Finset.ssubset_iff_of_subset ?_ |>.mpr ⟨s, ?_, ?_⟩)
  · intro k hk
    obtain ⟨mem, before⟩ := Finset.mem_filter.mp hk
    exact Finset.mem_filter.mpr ⟨mem, List.lt_trans before lt⟩
  · exact Finset.mem_filter.mpr ⟨h, lt⟩
  · exact fun mem => List.lt_irrefl _ (Finset.mem_filter.mp mem).2

/-- Ranks are in the order of the names. -/
theorem rank_lt_rank_iff (hs : s ∈ names) (ht : t ∈ names) :
    rank names s < rank names t ↔ bytes s < bytes t := by
  refine ⟨fun lt => ?_, rank_lt_rank hs⟩
  rcases trichotomy s t with before | rfl | behind
  · exact bytes_lt before
  · exact absurd lt (Nat.lt_irrefl _)
  · exact absurd (rank_lt_rank ht (bytes_lt behind)) (Nat.lt_asymm lt)

theorem rank_injOn (names : Finset String) : Set.InjOn (rank names) names := by
  intro s hs t ht same
  rcases trichotomy s t with before | eq | behind
  · exact absurd same (Nat.ne_of_lt (rank_lt_rank hs (bytes_lt before)))
  · exact eq
  · exact absurd same.symm (Nat.ne_of_lt (rank_lt_rank ht (bytes_lt behind)))

/-- The ranks of the names of a set are the numbers below the size of the set. -/
theorem bijOn_rank (names : Finset String) : Set.BijOn (rank names) names (Set.Iio names.card) := by
  have maps : Set.MapsTo (rank names) names (Finset.range names.card) := fun s hs =>
    Finset.mem_coe.mpr (Finset.mem_range.mpr (rank_lt_card hs))
  have surj := Finset.surjOn_of_injOn_of_card_le (rank names) maps (rank_injOn names)
    (Finset.card_range _).le
  rw [Finset.coe_range] at maps surj
  exact ⟨maps, rank_injOn names, surj⟩

/-- A new name raises the ranks of the names behind it by one. -/
theorem rank_insert (h : s ∉ names) (t : String) :
    rank (insert s names) t = rank names t + if bytes s < bytes t then 1 else 0 := by
  rw [rank, Finset.filter_insert]
  split
  · rw [Finset.card_insert_of_notMem fun mem => h (Finset.mem_filter.mp mem).1]
    rfl
  · rfl

end Text

/-! ### Numbers in a map -/

namespace NameMap

variable {α : Type} {m : NameMap α}

theorem mem_names_insertEntry {name k : String} {value : α} {es : List (String × α)} :
    k ∈ (insertEntry name value es).map (·.1) ↔ k = name ∨ k ∈ es.map (·.1) := by
  induction es with
  | nil => simp [insertEntry]
  | cons e es ih =>
    rw [insertEntry]
    split
    · simp
    · split
      · rename_i eq
        simp [eq]
      · rw [List.map_cons, List.mem_cons, ih, List.map_cons, List.mem_cons]
        exact or_left_comm

/-- The set of the names of a map. -/
def nameSet (m : NameMap α) : Finset String := m.names.toFinset

theorem nameSet_insert (m : NameMap α) (name : String) (value : α) :
    (m.insert name value).nameSet = Insert.insert name m.nameSet := by
  ext k
  rw [nameSet, nameSet, List.mem_toFinset, Finset.mem_insert, List.mem_toFinset]
  exact mem_names_insertEntry

theorem names_pairwise (m : NameMap α) : m.names.Pairwise (· < ·) :=
  List.pairwise_map.mpr m.ascending

theorem nodup_of_pairwise {ks : List String} (h : ks.Pairwise (· < ·)) : ks.Nodup :=
  h.imp String.ne_of_lt

theorem card_nameSet (m : NameMap α) : m.nameSet.card = m.size := by
  rw [nameSet, List.toFinset_card_of_nodup (nodup_of_pairwise m.names_pairwise), names,
    List.length_map, size]

/-- In ascending names a name stands behind as many as are smaller. -/
theorem findIdx?_eq_countP {ks : List String} (h : ks.Pairwise (· < ·)) {name : String}
    (mem : name ∈ ks) : ks.findIdx? (· = name) = some (ks.countP (· < name)) := by
  induction ks with
  | nil => cases mem
  | cons k ks ih =>
    obtain ⟨first, others⟩ := List.pairwise_cons.mp h
    rcases Decidable.em (k = name) with rfl | ne
    · have none_before : ∀ k' ∈ k :: ks, ¬ decide (k' < k) = true := by
        intro k' hk'
        rcases List.mem_cons.mp hk' with rfl | hk'
        · simp
        · simpa using String.lt_asymm (first k' hk')
      rw [List.countP_eq_zero.mpr none_before]
      simp [List.findIdx?_cons]
    · have later : name ∈ ks := (List.mem_cons.mp mem).resolve_left (Ne.symm ne)
      rw [List.findIdx?_cons, List.countP_cons, ih others later]
      simp [ne, first name later]

/-- A map numbers its names by their ranks. -/
theorem index?_eq (m : NameMap α) (name : String) :
    m.index? name = if name ∈ m.nameSet then some (Text.rank m.nameSet name) else none := by
  rw [index?]
  split
  · rename_i inside
    have mem : name ∈ m.names := List.mem_toFinset.mp inside
    have smaller : (m.names.filter fun k => k < name).Nodup :=
      (nodup_of_pairwise m.names_pairwise).filter _
    rw [findIdx?_eq_countP m.names_pairwise mem, Text.rank, nameSet, List.countP_eq_length_filter,
      ← List.toFinset_card_of_nodup smaller, List.toFinset_filter]
    simp only [decide_eq_true_eq, Text.lt_iff_bytes_lt]
  · rename_i outside
    have absent : name ∉ m.names := fun mem => outside (List.mem_toFinset.mpr mem)
    rw [List.findIdx?_eq_none_iff]
    intro k mem
    exact decide_eq_false fun same => absent (same ▸ mem)

end NameMap

end RayShader
