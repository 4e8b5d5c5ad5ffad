import RayShader.Technique.Features
import RayShader.Proofs.Template
import Mathlib.Data.List.Forall2
import Mathlib.Tactic.IntervalCases

/-!
# The text of a set of features

The text of a set names every bit of it: those with a name by that name, and the others
together in base sixteen. It is read as the union of what its parts name, which is the set
again (`Features.ofText?_text`), whatever the word of 32 bits.

The parts have neither blanks nor bars in them, so the text falls into these parts, with
blanks around them that the reader takes off.
-/

namespace RayShader

namespace Text

/-! ### Splitting and trimming -/

theorem splitAt_eq_splitOn (separator : Char) (cs : List Char) :
    splitAt separator cs = cs.splitOn separator := by
  induction cs with
  | nil => rfl
  | cons c cs ih =>
    rw [splitAt, ih, List.splitOn_eq_splitOnP, List.splitOn_eq_splitOnP,
      List.splitOnP_cons_eq_if_modifyHead]
    simp only [beq_iff_eq]
    split
    · rfl
    · obtain ⟨s, more, parts⟩ := List.exists_cons_of_ne_nil (List.splitOnP_ne_nil (· == separator) cs)
      rw [parts]
      rfl

/-- Blanks around a text without blanks are taken off. -/
theorem trim_surrounded {lead p : List Char} (hl : ∀ c ∈ lead, isBlank c = true)
    (hp : ∀ c ∈ p, isBlank c = false) (ne : p ≠ []) (trail : List Char)
    (ht : ∀ c ∈ trail, isBlank c = true) :
    trim (.ofList (lead ++ (p ++ trail))) = .ofList p := by
  obtain ⟨c, cs, start⟩ := List.exists_cons_of_ne_nil ne
  obtain ⟨ds, d, ending⟩ := List.eq_nil_or_concat p |>.resolve_left ne
  have front : (lead ++ (p ++ trail)).dropWhile isBlank = p ++ trail := by
    rw [List.dropWhile_append_of_pos hl, start, List.cons_append,
      List.dropWhile_cons_of_neg (by simp [hp c (by simp [start])])]
  have back : dropBlankEnd (p ++ trail) = p := by
    rw [dropBlankEnd, List.reverse_append,
      List.dropWhile_append_of_pos (fun x hx => ht x (List.mem_reverse.mp hx)), ending]
    simp [hp d (by simp [ending])]
  rw [trim, String.toList_ofList, front, back]

/-! ### Digits in base sixteen -/

theorem hexValue?_digitChar : ∀ k < 16, hexValue? (Nat.digitChar k) = some k := by decide

theorem hexNumber?_append (n : Nat) (cs ds : List Char) :
    hexNumber? n (cs ++ ds) = (hexNumber? n cs).bind fun m => hexNumber? m ds := by
  induction cs generalizing n with
  | nil => rfl
  | cons c cs ih =>
    rw [List.cons_append, hexNumber?, hexNumber?]
    cases hexValue? c with
    | none => rfl
    | some d => exact ih _

/-- The digits of a number in base sixteen stand for that number. -/
theorem hexNumber?_toDigits (n : Nat) : hexNumber? 0 (Nat.toDigits 16 n) = some n := by
  induction n using Nat.strongRecOn with
  | ind n ih =>
    rw [Nat.toDigits_eq_if (by decide)]
    split
    · rename_i small
      rw [hexNumber?, hexValue?_digitChar n small]
      simp [hexNumber?]
    · rw [hexNumber?_append, ih (n / 16) (by omega), Option.bind_some, hexNumber?,
        hexValue?_digitChar _ (Nat.mod_lt n (by decide)), Option.bind_some, hexNumber?]
      exact congrArg some (by omega)

theorem exists_digitChar {n : Nat} {c : Char} (h : c ∈ Nat.toDigits 16 n) :
    ∃ k < 16, c = Nat.digitChar k := by
  induction n using Nat.strongRecOn with
  | ind n ih =>
    rw [Nat.toDigits_eq_if (by decide)] at h
    split at h
    · rename_i small
      exact ⟨n, small, List.mem_singleton.mp h⟩
    · rcases List.mem_append.mp h with h | h
      · exact ih (n / 16) (by omega) h
      · exact ⟨n % 16, Nat.mod_lt n (by decide), List.mem_singleton.mp h⟩

end Text

namespace Technique

namespace Features

/-! ### Parts -/

/-- A part of a text has characters, and no blank or bar among them. -/
structure IsPart (p : String) : Prop where
  /-- There are characters. -/
  ne : p.toList ≠ []
  /-- None of them is blank. -/
  noBlank : ∀ c ∈ p.toList, Text.isBlank c = false
  /-- None of them is a bar. -/
  noBar : '|' ∉ p.toList

theorem isPart_key (f : Feature) : IsPart f.key := by
  have unblank : f.key.toList.any Text.isBlank = false := by cases f <;> rfl
  exact ⟨by cases f <;> decide, by simpa using unblank, by cases f <;> decide⟩

theorem part?_key (f : Feature) : part? f.key = some (single f) := by
  cases f <;> rfl

/-- The text of bits without a name. -/
def hexText (n : Nat) : String := "0x" ++ .ofList (Nat.toDigits 16 n)

theorem toList_hexText (n : Nat) : (hexText n).toList = '0' :: 'x' :: Nat.toDigits 16 n := by
  simp [hexText]

theorem isPart_hexText (n : Nat) : IsPart (hexText n) := by
  have plain : ∀ k < 16, Text.isBlank (Nat.digitChar k) = false ∧ Nat.digitChar k ≠ '|' := by decide
  refine ⟨by simp [toList_hexText], fun c hc => ?_, fun bar => ?_⟩
  · simp only [toList_hexText, List.mem_cons] at hc
    rcases hc with rfl | rfl | hc
    · decide
    · decide
    · obtain ⟨k, small, rfl⟩ := Text.exists_digitChar hc
      exact (plain k small).1
  · simp only [toList_hexText, List.mem_cons] at bar
    rcases bar with bar | bar | bar
    · exact absurd bar (by decide)
    · exact absurd bar (by decide)
    · obtain ⟨k, small, same⟩ := Text.exists_digitChar bar
      exact (plain k small).2 same.symm

theorem part?_hexText {n : Nat} (h : n < 0x100000000) : part? (hexText n) = some ⟨.ofNat 32 n⟩ := by
  have plus : ∀ k < 16, Nat.digitChar k ≠ '+' := by decide
  have digits : word? (Nat.toDigits 16 n) = some ⟨.ofNat 32 n⟩ := by
    unfold word?
    split
    · rename_i rest front
      obtain ⟨k, small, sign⟩ := Text.exists_digitChar (front ▸ List.mem_cons_self ..)
      exact absurd sign.symm (plus k small)
    · simp [Text.hexNumber?_toDigits, h]
  rw [part?, toList_hexText]
  exact digits

/-! ### Unions -/

/-- The union of several sets. -/
def unionAll (sets : List Features) : Features := sets.foldr union none

theorem getLsbD_unionAll (sets : List Features) (i : Nat) :
    (unionAll sets).bits.getLsbD i = sets.any fun s => s.bits.getLsbD i := by
  induction sets with
  | nil => simp [unionAll, none]
  | cons s sets ih =>
    rw [List.any_cons, ← ih]
    exact BitVec.getLsbD_or ..

/-- Parts with bars between them are read as the union of what they name. -/
theorem union?_joined {ps : List String} {sets : List Features} (ne : ps ≠ [])
    (h : List.Forall₂ (fun p s => IsPart p ∧ part? p = some s) ps sets) (lead : List Char)
    (hl : ∀ c ∈ lead, c = ' ') :
    union? (Text.splitAt '|' (lead ++ " | ".toList.intercalate (ps.map String.toList)))
      = some (unionAll sets) := by
  rw [Text.splitAt_eq_splitOn]
  have blank (c : Char) (hc : c = ' ') : Text.isBlank c = true := by
    rw [hc]
    decide
  -- behind a bar stands one blank, so the induction is for any blanks in front
  induction h generalizing lead with
  | nil => exact absurd rfl ne
  | @cons p s ps sets first others ih =>
    obtain ⟨part, named⟩ := first
    have unbarred : '|' ∉ lead ++ p.toList := by
      rw [List.mem_append, not_or]
      exact ⟨fun bar => absurd (hl _ bar) (by decide), part.noBar⟩
    cases ps with
    | nil =>
      obtain rfl := List.forall₂_nil_left_iff.mp others
      have trimmed := Text.trim_surrounded (fun c hc => blank c (hl c hc)) part.noBlank part.ne
        [] (by simp)
      rw [List.append_nil, String.ofList_toList] at trimmed
      rw [List.map_singleton, List.intercalate_singleton, List.splitOn_eq_singleton unbarred, union?,
        trimmed, named]
      rfl
    | cons q ps =>
      have split : lead ++ " | ".toList.intercalate ((p :: q :: ps).map String.toList)
          = (lead ++ (p.toList ++ [' '])) ++ '|' :: ([' '] ++ " | ".toList.intercalate
            ((q :: ps).map String.toList)) := by
        simp [List.intercalate_cons_cons]
      have alone : '|' ∉ lead ++ (p.toList ++ [' ']) := by
        rw [← List.append_assoc, List.mem_append, not_or]
        exact ⟨unbarred, by decide⟩
      have trimmed := Text.trim_surrounded (fun c hc => blank c (hl c hc)) part.noBlank part.ne
        [' '] (List.forall_mem_singleton.mpr rfl)
      rw [String.ofList_toList] at trimmed
      have rest := ih (by simp) [' '] (by simp)
      rw [split, List.splitOn_eq_splitOnP, List.splitOnP_append_cons _ _ (by simp),
        ← List.splitOn_eq_splitOnP, ← List.splitOn_eq_splitOnP, List.splitOn_eq_singleton alone,
        List.singleton_append, union?, trimmed, named, rest]
      rfl

/-! ### Sets -/

/-- What the parts of the text of a set name. -/
def partSets (s : Features) : List Features :=
  (Feature.all.filter s.contains).map single ++ if s.unnamed = 0 then [] else [⟨.ofNat 32 s.unnamed⟩]

theorem unnamed_lt (s : Features) : s.unnamed < 0x100000000 :=
  (s.bits >>> Feature.all.length <<< Feature.all.length).isLt

theorem parts_name (s : Features) :
    List.Forall₂ (fun p t => IsPart p ∧ part? p = some t) s.parts s.partSets := by
  refine List.rel_append ?_ ?_
  · rw [List.forall₂_map_left_iff, List.forall₂_map_right_iff]
    exact List.forall₂_same.mpr fun f _ => ⟨isPart_key f, part?_key f⟩
  · split
    · exact .nil
    · exact .cons ⟨isPart_hexText _, part?_hexText s.unnamed_lt⟩ .nil

/-- The bits without a name are those from the fifth on. -/
theorem getLsbD_unnamed (s : Features) {i : Nat} (hi : i < 32) :
    ((if s.unnamed = 0 then [] else [⟨.ofNat 32 s.unnamed⟩]) : List Features).any (·.bits.getLsbD i)
      = (decide (5 ≤ i) && s.bits.getLsbD i) := by
  have shifted : (s.bits >>> 5 <<< 5).getLsbD i = (decide (5 ≤ i) && s.bits.getLsbD i) := by
    by_cases high : 5 ≤ i
    · simp [hi, high]
    · simp [high]
  rw [← shifted]
  split
  · rename_i zero
    have empty : s.bits >>> 5 <<< 5 = 0#32 := BitVec.eq_of_toNat_eq zero
    simp [empty]
  · have whole : BitVec.ofNat 32 s.unnamed = s.bits >>> 5 <<< 5 := BitVec.ofNat_toNat ..
    rw [List.any_cons, List.any_nil, Bool.or_false, whole]

/-- A set is the union of its features and the bits without a name. -/
theorem unionAll_partSets (s : Features) : unionAll s.partSets = s := by
  have bits : (unionAll s.partSets).bits = s.bits := by
    refine BitVec.eq_of_getLsbD_eq fun i hi => ?_
    rw [getLsbD_unionAll, partSets, List.any_append, getLsbD_unnamed s hi]
    by_cases named : i < 5
    · interval_cases i <;> simp [Feature.all, contains, Feature.index, single]
    · have high : 5 ≤ i := by omega
      have none_named : ((Feature.all.filter s.contains).map single).any (·.bits.getLsbD i) = false := by
        have other (f : Feature) : (single f).bits.getLsbD i = false := by
          cases f <;> simp [single, Feature.index] <;> omega
        simp [other]
      simp [none_named, high]
  exact congrArg Features.mk bits

/-- **The text of a set of features is read as that set**, bits without a name included. -/
theorem ofText?_text (s : Features) : ofText? s.text = some s := by
  have named := parts_name s
  have whole := unionAll_partSets s
  have chars : s.text.toList = " | ".toList.intercalate (s.parts.map String.toList) :=
    String.toList_intercalate
  unfold ofText?
  rw [chars]
  cases parts : s.parts with
  | nil =>
    rw [parts, List.forall₂_nil_left_iff] at named
    rw [named] at whole
    rw [← whole]
    rfl
  | cons p ps =>
    have joined := union?_joined (by simp [parts]) named [] (by simp)
    rw [List.nil_append, whole, parts] at joined
    have text : ¬ (" | ".toList.intercalate ((p :: ps).map String.toList)).all Text.isBlank := by
      obtain ⟨t, ts, ⟨part, -⟩, -, -⟩ := List.forall₂_cons_left_iff.mp (parts ▸ named)
      obtain ⟨c, cs, start⟩ := List.exists_cons_of_ne_nil part.ne
      have mem : c ∈ " | ".toList.intercalate ((p :: ps).map String.toList) := by
        cases ps <;> simp [List.intercalate_cons_cons, start]
      intro blank
      have first := List.all_eq_true.mp blank c mem
      rw [part.noBlank c (by simp [start])] at first
      cases first
    rw [if_neg text, joined]

end Features

end Technique

end RayShader
