import RayShader.Context.Assets
import Mathlib.Data.List.DropRight

/-!
# Where asset paths lead

An absolute path stands for itself. Any other path is below a directory: that of the object which
names it, or else that of the scene file (`Context.Resolves`).

The directory of a file is what stands in front of the last segment of its path that names
something (`AssetPath.HeldBy`). Segments without a name are counted neither behind that segment nor
between it and the directory, so a directory ends in a name, unless it is the root.
-/

namespace RayShader

namespace AssetPath

open Text (splitAt joinWith)

variable {cs front back name lead : List Char} {s : List Char} {ss : List (List Char)}

/-! ### Segments -/

/-- The segments with a slash in front of each. -/
def slashed (ss : List (List Char)) : List Char := ss.flatMap ('/' :: ·)

theorem slashed_cons (s : List Char) (ss : List (List Char)) :
    slashed (s :: ss) = '/' :: s ++ slashed ss := rfl

theorem slashed_append (ss ss' : List (List Char)) :
    slashed (ss ++ ss') = slashed ss ++ slashed ss' := List.flatMap_append

theorem joinWith_cons (s : List Char) (ss : List (List Char)) :
    joinWith '/' (s :: ss) = s ++ slashed ss := by
  induction ss generalizing s with
  | nil => simp [joinWith, slashed]
  | cons s' ss ih =>
    have more : joinWith '/' (s :: s' :: ss) = s ++ '/' :: joinWith '/' (s' :: ss) := rfl
    rw [more, ih, slashed_cons, List.cons_append]

/-- A text is its segments, of which there is at least one, and none of them has a slash. -/
theorem splitAt_slash (cs : List Char) : ∃ s ss, splitAt '/' cs = s :: ss ∧
    cs = s ++ slashed ss ∧ ∀ t ∈ s :: ss, '/' ∉ t := by
  induction cs with
  | nil => exact ⟨[], [], rfl, rfl, by simp⟩
  | cons c cs ih =>
    obtain ⟨s, ss, split, whole, free⟩ := ih
    rw [splitAt, split]
    by_cases slash : c = '/'
    · refine ⟨[], s :: ss, if_pos slash, ?_, ?_⟩
      · rw [slash, whole, slashed_cons]
        rfl
      · exact List.forall_mem_cons.mpr ⟨by simp, free⟩
    · obtain ⟨first, others⟩ := List.forall_mem_cons.mp free
      refine ⟨c :: s, ss, if_neg slash, by rw [whole, List.cons_append], ?_⟩
      exact List.forall_mem_cons.mpr ⟨by simp [Ne.symm slash, first], others⟩

/-! ### Segments without a name -/

/-- The segment names something. -/
structure Named (s : List Char) : Prop where
  /-- It is not empty, -/
  ne_nil : s ≠ []
  /-- nor a dot alone, -/
  ne_dot : s ≠ ['.']
  /-- and it is one segment. -/
  no_slash : '/' ∉ s

/-- Segments that name nothing, with a slash in front of each. -/
inductive Idle : List Char → Prop where
  /-- There are none. -/
  | nil : Idle []
  /-- One is empty. -/
  | slash {cs : List Char} : Idle cs → Idle ('/' :: cs)
  /-- One is a dot. -/
  | dot {cs : List Char} : Idle cs → Idle ('/' :: '.' :: cs)

/-- The path ends in a name. -/
def Tidy (cs : List Char) : Prop := ∀ front back, cs = front ++ back → Idle back → back = []

theorem isIdle_iff : isIdle s = true ↔ s = [] ∨ s = ['.'] := by simp [isIdle]

theorem named_of_not_isIdle (h : isIdle s = false) (free : '/' ∉ s) : Named s := by
  have ne : ¬(s = [] ∨ s = ['.']) := fun idle => by
    rw [isIdle_iff.mpr idle] at h
    cases h
  exact ⟨fun nil => ne (.inl nil), fun dot => ne (.inr dot), free⟩

theorem idle_slashed (h : ∀ s ∈ ss, isIdle s = true) : Idle (slashed ss) := by
  induction ss with
  | nil => exact .nil
  | cons s ss ih =>
    obtain ⟨first, others⟩ := List.forall_mem_cons.mp h
    rw [slashed_cons]
    rcases isIdle_iff.mp first with rfl | rfl
    · exact .slash (ih others)
    · exact .dot (ih others)

theorem Idle.ends (h : Idle cs) (ne : cs ≠ []) : ∃ cs', cs = cs' ++ ['/'] ∨ cs = cs' ++ ['/', '.'] := by
  induction h with
  | nil => exact absurd rfl ne
  | @slash cs _ ih =>
    rcases List.eq_nil_or_concat cs with rfl | ⟨_, _, concat⟩
    · exact ⟨[], .inl rfl⟩
    · obtain ⟨cs', ends⟩ := ih (by simp [concat])
      exact ⟨'/' :: cs', ends.imp (congrArg ('/' :: ·)) (congrArg ('/' :: ·))⟩
  | @dot cs _ ih =>
    rcases List.eq_nil_or_concat cs with rfl | ⟨_, _, concat⟩
    · exact ⟨[], .inr rfl⟩
    · obtain ⟨cs', ends⟩ := ih (by simp [concat])
      exact ⟨'/' :: '.' :: cs', ends.imp (congrArg ('/' :: '.' :: ·)) (congrArg ('/' :: '.' :: ·))⟩

theorem tidy_append (h : Named name) (front : List Char) : Tidy (front ++ name) := by
  intro before back split idle
  by_contra ne
  -- what is idle ends in a slash, or in a slash and a dot
  obtain ⟨butLast, last, rfl⟩ := (List.eq_nil_or_concat' name).resolve_left h.ne_nil
  obtain ⟨cs', rfl | rfl⟩ := idle.ends ne
  · have whole : front ++ butLast ++ [last] = before ++ cs' ++ ['/'] := by simpa using split
    obtain ⟨-, same⟩ := List.append_inj' whole rfl
    exact h.no_slash (by simp [List.cons.inj same])
  · have whole : front ++ butLast ++ [last] = before ++ cs' ++ ['/'] ++ ['.'] := by
      simpa using split
    obtain ⟨shorter, dot⟩ := List.append_inj' whole rfl
    obtain ⟨rfl, -⟩ := List.cons.inj dot
    rcases List.eq_nil_or_concat' butLast with rfl | ⟨butTwo, c, rfl⟩
    · exact h.ne_dot rfl
    · rw [← List.append_assoc] at shorter
      obtain ⟨-, same⟩ := List.append_inj' shorter rfl
      exact h.no_slash (by simp [List.cons.inj same])

theorem tidy_dot : Tidy ['.'] := by
  intro front back split idle
  by_contra ne
  have length := congrArg List.length split
  obtain ⟨cs', rfl | rfl⟩ := idle.ends ne
  · simpa using congrArg List.getLast? split
  · simp only [List.length_append, List.length_cons, List.length_nil] at length
    omega

/-! ### Directories -/

/-- The directory that holds a path: what stands in front of the last segment that names
something. -/
inductive HeldBy : List Char → List Char → Prop where
  /-- A name alone is in the directory without a name, and so is a dot alone. -/
  | alone {name behind : List Char} : Named name ∨ name = ['.'] → Idle behind →
    HeldBy [] (name ++ behind)
  /-- A name behind the root is in the root. -/
  | root {before name behind : List Char} : Idle before → Named name → Idle behind →
    HeldBy ['/'] (before ++ '/' :: name ++ behind)
  /-- A name behind others is in the directory that ends in the last one of them. -/
  | within {dir before name behind : List Char} : dir ≠ [] → Tidy dir → Idle before →
    Named name → Idle behind → HeldBy dir (dir ++ before ++ '/' :: name ++ behind)

/-- Segments are what is left of them without the last ones that name nothing, and those. -/
theorem eq_dropIdleEnd_append (ss : List (List Char)) :
    ∃ idle, ss = dropIdleEnd ss ++ idle ∧ ∀ s ∈ idle, isIdle s = true :=
  ⟨ss.rtakeWhile isIdle, List.rdropWhile_append_rtakeWhile.symm, fun _ => List.mem_rtakeWhile_imp⟩

theorem dropIdleEnd_cons (s : List Char) (ss : List (List Char)) : dropIdleEnd (s :: ss)
    = if dropIdleEnd ss = [] then dropIdleEnd [s] else s :: dropIdleEnd ss := by
  rw [dropIdleEnd, List.reverse_cons, List.dropWhile_append, dropIdleEnd]
  split
  · rename_i empty
    rw [if_pos (by simpa using List.isEmpty_iff.mp empty)]
    rfl
  · rename_i more
    rw [if_neg (by simpa using more), List.reverse_append]
    rfl

theorem last_named (free : ∀ s ∈ ss, '/' ∉ s) (ne : dropIdleEnd ss ≠ []) :
    ∃ front name, dropIdleEnd ss = front ++ [name] ∧ Named name := by
  refine ⟨_, _, (List.dropLast_append_getLast ne).symm, named_of_not_isIdle ?_ ?_⟩
  · exact eq_false_of_ne_true (List.rdropWhile_last_not isIdle ss ne)
  · exact free _ ((List.rdropWhile_prefix isIdle ss).subset (List.getLast_mem ne))

/-- A directory that ends in the last name of segments. -/
theorem tidy_slashed (free : ∀ s ∈ ss, '/' ∉ s) (ne : dropIdleEnd ss ≠ []) (lead : List Char) :
    Tidy (lead ++ slashed (dropIdleEnd ss)) := by
  obtain ⟨front, name, split, named⟩ := last_named free ne
  rw [split, slashed_append, ← List.append_assoc]
  simpa [slashed] using tidy_append named (lead ++ slashed front ++ ['/'])

/-- Segments are the directory, what names nothing behind it, the last name, and what names
nothing behind that. -/
theorem slashed_eq (free : ∀ s ∈ ss, '/' ∉ s) (ne : dropIdleEnd ss ≠ []) :
    ∃ before name behind, slashed ss
        = slashed (dropIdleEnd (dropIdleEnd ss).dropLast) ++ before ++ '/' :: name ++ behind ∧
      Idle before ∧ Named name ∧ Idle behind := by
  obtain ⟨front, name, split, named⟩ := last_named free ne
  obtain ⟨behind, whole, idleBehind⟩ := eq_dropIdleEnd_append ss
  obtain ⟨before, whole', idleBefore⟩ := eq_dropIdleEnd_append front
  refine ⟨slashed before, name, slashed behind, ?_, idle_slashed idleBefore, named,
    idle_slashed idleBehind⟩
  rw [split, List.dropLast_concat]
  calc slashed ss = slashed (front ++ [name] ++ behind) := by rw [← split, ← whole]
    _ = slashed front ++ '/' :: name ++ slashed behind := by
      simp [slashed]
    _ = _ := by
      conv_lhs => rw [whole', slashed_append]

/-- The directory of the path that begins with the segment `lead` and has the others behind it. It
begins with a slash if `lead` is empty. -/
def directory? (lead : List Char) (ss : List (List Char)) : Option (List Char) :=
  if dropIdleEnd ss = [] then if lead = [] then none else some []
  else if lead = [] then some ('/' :: joinWith '/' (dropIdleEnd (dropIdleEnd ss).dropLast))
  else some (lead ++ slashed (dropIdleEnd (dropIdleEnd ss).dropLast))

/-- A directory that there is holds the path. -/
theorem heldBy_of_directory? {dir : List Char} (first : '/' ∉ lead) (free : ∀ s ∈ ss, '/' ∉ s)
    (h : directory? lead ss = some dir) : HeldBy dir (lead ++ slashed ss) := by
  have name (ne : lead ≠ []) : Named lead ∨ lead = ['.'] := by
    by_cases dot : lead = ['.']
    · exact .inr dot
    · exact .inl ⟨ne, dot, first⟩
  unfold directory? at h
  split at h
  · rename_i nothing
    obtain ⟨behind, whole, idle⟩ := eq_dropIdleEnd_append ss
    rw [nothing, List.nil_append] at whole
    split at h
    · cases h
    · rename_i ne
      obtain rfl := Option.some.inj h
      exact .alone (name ne) (whole ▸ idle_slashed idle)
  · rename_i more
    obtain ⟨before, last, behind, whole, idleBefore, named, idleBehind⟩ := slashed_eq free more
    have freeFront : ∀ s ∈ (dropIdleEnd ss).dropLast, '/' ∉ s := fun s mem =>
      free s ((List.rdropWhile_prefix isIdle ss).subset (List.dropLast_subset _ mem))
    rw [whole]
    split at h
    · rename_i empty
      obtain rfl := Option.some.inj h
      rw [empty, List.nil_append]
      -- the root, or what is left of the segments with a slash in front of each
      cases front : dropIdleEnd (dropIdleEnd ss).dropLast with
      | nil => exact .root idleBefore named idleBehind
      | cons s rest =>
        have tidy := tidy_slashed freeFront (front ▸ List.cons_ne_nil s rest) []
        rw [List.nil_append, front] at tidy
        rw [joinWith_cons]
        exact .within (by simp) tidy idleBefore named idleBehind
    · rename_i ne
      obtain rfl := Option.some.inj h
      have tidy : Tidy (lead ++ slashed (dropIdleEnd (dropIdleEnd ss).dropLast)) := by
        by_cases nothing : dropIdleEnd (dropIdleEnd ss).dropLast = []
        · rw [nothing, slashed, List.flatMap_nil, List.append_nil]
          rcases name ne with named | rfl
          · exact tidy_append named []
          · exact tidy_dot
        · exact tidy_slashed freeFront nothing lead
      simpa [List.append_assoc] using
        HeldBy.within (by simp [ne]) tidy idleBefore named idleBehind

/-- A path without a directory names nothing. -/
theorem idle_of_directory? (h : directory? lead ss = none) : Idle (lead ++ slashed ss) := by
  unfold directory? at h
  split at h
  · rename_i nothing
    obtain ⟨behind, whole, idle⟩ := eq_dropIdleEnd_append ss
    rw [nothing, List.nil_append] at whole
    split at h
    · rename_i empty
      rw [empty, List.nil_append]
      exact whole ▸ idle_slashed idle
    · cases h
  · split at h <;> cases h

/-! ### The directory is the only one -/

theorem splitAt_append_slashed (first : '/' ∉ lead) (free : ∀ s ∈ ss, '/' ∉ s) :
    splitAt '/' (lead ++ slashed ss) = lead :: ss := by
  -- the segments behind the first one, and for each number of them its characters
  induction ss generalizing lead with
  | nil =>
    induction lead with
    | nil => rfl
    | cons c lead ih =>
      obtain ⟨other, first⟩ : '/' ≠ c ∧ '/' ∉ lead := by simpa using first
      rw [List.cons_append, splitAt, if_neg (Ne.symm other), ih first]
  | cons s ss ihs =>
    obtain ⟨free, frees⟩ := List.forall_mem_cons.mp free
    induction lead with
    | nil => rw [List.nil_append, slashed_cons, List.cons_append, splitAt, if_pos rfl, ihs free frees]
    | cons c lead ih =>
      obtain ⟨other, first⟩ : '/' ≠ c ∧ '/' ∉ lead := by simpa using first
      rw [List.cons_append, splitAt, if_neg (Ne.symm other), ih first]

/-- A path has one list of segments. -/
theorem slashed_inj {lead' : List Char} {ss' : List (List Char)} (first : '/' ∉ lead)
    (free : ∀ s ∈ ss, '/' ∉ s) (first' : '/' ∉ lead') (free' : ∀ s ∈ ss', '/' ∉ s)
    (same : lead ++ slashed ss = lead' ++ slashed ss') : lead = lead' ∧ ss = ss' := by
  have split := congrArg (splitAt '/') same
  rw [splitAt_append_slashed first free, splitAt_append_slashed first' free'] at split
  exact List.cons.inj split

theorem Idle.eq_slashed (h : Idle cs) : ∃ ss, cs = slashed ss ∧ ∀ s ∈ ss, isIdle s = true := by
  induction h with
  | nil => exact ⟨[], rfl, by simp⟩
  | slash _ ih =>
    obtain ⟨ss, rfl, idle⟩ := ih
    exact ⟨[] :: ss, rfl, List.forall_mem_cons.mpr ⟨rfl, idle⟩⟩
  | dot _ ih =>
    obtain ⟨ss, rfl, idle⟩ := ih
    exact ⟨['.'] :: ss, rfl, List.forall_mem_cons.mpr ⟨rfl, idle⟩⟩

theorem no_slash_of_isIdle (h : isIdle s = true) : '/' ∉ s := by
  rcases isIdle_iff.mp h with rfl | rfl <;> simp

theorem dropIdleEnd_append {idle : List (List Char)} (h : ∀ s ∈ idle, isIdle s = true)
    (ss : List (List Char)) : dropIdleEnd (ss ++ idle) = dropIdleEnd ss := by
  rw [dropIdleEnd, List.reverse_append, List.dropWhile_append_of_pos (by simpa using h)]
  rfl

theorem dropIdleEnd_concat (named : Named name) (ss : List (List Char)) :
    dropIdleEnd (ss ++ [name]) = ss ++ [name] := by
  simp [dropIdleEnd, isIdle, named.ne_nil, named.ne_dot]

/-- Segments behind a name, between names, or at the end of a path that ends in a name. -/
theorem directory?_concat {idle : List (List Char)} (named : Named name)
    (h : ∀ s ∈ idle, isIdle s = true) : directory? lead (ss ++ [name] ++ idle)
      = if lead = [] then some ('/' :: joinWith '/' (dropIdleEnd ss))
        else some (lead ++ slashed (dropIdleEnd ss)) := by
  rw [directory?, dropIdleEnd_append h, dropIdleEnd_concat named, List.dropLast_concat,
    if_neg (by simp)]

theorem dropIdleEnd_of_tidy (tidy : Tidy (lead ++ slashed ss)) : dropIdleEnd ss = ss := by
  obtain ⟨idle, whole, are⟩ := eq_dropIdleEnd_append ss
  have none : slashed idle = [] := by
    refine tidy (lead ++ slashed (dropIdleEnd ss)) _ ?_ (idle_slashed are)
    rw [List.append_assoc, ← slashed_append, ← whole]
  have empty : idle = [] := by
    cases idle with
    | nil => rfl
    | cons s idle => cases none
  rw [empty, List.append_nil] at whole
  exact whole.symm

theorem no_slash_concat {idle : List (List Char)} (free : ∀ s ∈ ss, '/' ∉ s) (named : Named name)
    (h : ∀ s ∈ idle, isIdle s = true) : ∀ s ∈ ss ++ [name] ++ idle, '/' ∉ s := by
  refine List.forall_mem_append.mpr ⟨List.forall_mem_append.mpr ⟨free, ?_⟩, fun s mem => ?_⟩
  · exact List.forall_mem_singleton.mpr named.no_slash
  · exact no_slash_of_isIdle (h s mem)

/-- A directory that holds the path is its directory. -/
theorem directory?_of_heldBy {dir path : List Char} (h : HeldBy dir path) (first : '/' ∉ lead)
    (free : ∀ s ∈ ss, '/' ∉ s) (whole : path = lead ++ slashed ss) :
    directory? lead ss = some dir := by
  cases h with
  | @alone name behind named idle =>
    obtain ⟨idles, rfl, are⟩ := idle.eq_slashed
    have ne : name ≠ [] ∧ '/' ∉ name := by
      rcases named with named | rfl
      · exact ⟨named.ne_nil, named.no_slash⟩
      · simp
    obtain ⟨rfl, rfl⟩ := slashed_inj ne.2 (fun s mem => no_slash_of_isIdle (are s mem)) first free
      whole
    have nothing : dropIdleEnd idles = [] := dropIdleEnd_append are []
    rw [directory?, if_pos nothing, if_neg ne.1]
  | @root before name behind idleBefore named idleBehind =>
    obtain ⟨front, rfl, areBefore⟩ := idleBefore.eq_slashed
    obtain ⟨back, rfl, areBehind⟩ := idleBehind.eq_slashed
    have path : slashed front ++ '/' :: name ++ slashed back
        = [] ++ slashed (front ++ [name] ++ back) := by
      simp [slashed]
    have frees := no_slash_concat (fun s mem => no_slash_of_isIdle (areBefore s mem)) named areBehind
    obtain ⟨rfl, rfl⟩ := slashed_inj List.not_mem_nil frees first free (path.symm.trans whole)
    have nothing : dropIdleEnd front = [] := dropIdleEnd_append areBefore []
    rw [directory?_concat named areBehind, if_pos rfl, nothing]
    rfl
  | @within dir before name behind ne tidy idleBefore named idleBehind =>
    obtain ⟨d, ds, -, rfl, freeDir⟩ := splitAt_slash dir
    obtain ⟨firstDir, freeDirs⟩ := List.forall_mem_cons.mp freeDir
    obtain ⟨front, rfl, areBefore⟩ := idleBefore.eq_slashed
    obtain ⟨back, rfl, areBehind⟩ := idleBehind.eq_slashed
    have path : d ++ slashed ds ++ slashed front ++ '/' :: name ++ slashed back
        = d ++ slashed (ds ++ front ++ [name] ++ back) := by
      simp [slashed]
    have freeFront : ∀ s ∈ ds ++ front, '/' ∉ s := List.forall_mem_append.mpr
      ⟨freeDirs, fun s mem => no_slash_of_isIdle (areBefore s mem)⟩
    have frees := no_slash_concat freeFront named areBehind
    obtain ⟨rfl, rfl⟩ := slashed_inj firstDir frees first free (path.symm.trans whole)
    rw [directory?_concat named areBehind, dropIdleEnd_append areBefore, dropIdleEnd_of_tidy tidy]
    by_cases empty : d = []
    · rw [if_pos empty, empty]
      cases ds with
      | nil => exact absurd (by rw [empty]; rfl) ne
      | cons s ds => rw [joinWith_cons]; rfl
    · rw [if_neg empty]

/-! ### Reading the directory off a path -/

theorem dropIdleEnd_singleton (ne_nil : s ≠ []) (ne_dot : s ≠ ['.']) : dropIdleEnd [s] = [s] := by
  simp [dropIdleEnd, isIdle, ne_nil, ne_dot]

/-- Segments without the last ones that name nothing, where the first one may be empty. -/
theorem joinWith_dropIdleEnd_cons (h : s ≠ ['.']) (ss : List (List Char)) :
    joinWith '/' (dropIdleEnd (s :: ss)) = s ++ slashed (dropIdleEnd ss) := by
  rw [dropIdleEnd_cons]
  split
  · rename_i nothing
    rw [nothing, slashed, List.flatMap_nil, List.append_nil]
    by_cases empty : s = []
    · rw [empty]
      rfl
    · rw [dropIdleEnd_singleton empty h]
      rfl
  · exact joinWith_cons ..

/-- The directory of a path that does not begin with a slash. -/
theorem directory_eq (h : s ≠ ['.']) (named : dropIdleEnd ss ≠ []) :
    dropIdleEnd (s :: ss) ≠ [] ∧ joinWith '/' (dropIdleEnd (dropIdleEnd (s :: ss)).dropLast)
      = s ++ slashed (dropIdleEnd (dropIdleEnd ss).dropLast) := by
  rw [dropIdleEnd_cons s ss, if_neg named, List.dropLast_cons_of_ne_nil named]
  exact ⟨List.cons_ne_nil _ _, joinWith_dropIdleEnd_cons h _⟩

theorem parent?_of_nil {path : String}
    (h : dropIdleEnd (splitAt '/' (splitHead path.toList).2) = []) :
    parent? path = if (splitHead path.toList).1 = ['.'] then some "" else none := by
  simp only [parent?, h]

theorem parent?_of_ne_nil {path : String}
    (h : dropIdleEnd (splitAt '/' (splitHead path.toList).2) ≠ []) :
    parent? path = some (.ofList ((splitHead path.toList).1 ++ joinWith '/'
      (dropIdleEnd (dropIdleEnd (splitAt '/' (splitHead path.toList).2)).dropLast))) := by
  cases segments : dropIdleEnd (splitAt '/' (splitHead path.toList).2) with
  | nil => exact absurd segments h
  | cons s ss => simp only [parent?, segments]

/-- A path begins with a slash, or with a dot that is a segment, or with a name, if it is not
empty. -/
theorem splitHead_cases (cs : List Char) :
    (∃ s ss, cs = slashed (s :: ss) ∧ (∀ t ∈ s :: ss, '/' ∉ t) ∧
        (splitHead cs).1 = ['/'] ∧ splitAt '/' (splitHead cs).2 = s :: ss) ∨
      (∃ ss, cs = ['.'] ++ slashed ss ∧ (∀ t ∈ ss, '/' ∉ t) ∧
        (splitHead cs).1 = ['.'] ∧ splitAt '/' (splitHead cs).2 = [] :: ss) ∨
      (∃ s ss, cs = s ++ slashed ss ∧ Named s ∧ (∀ t ∈ ss, '/' ∉ t) ∧
        (splitHead cs).1 = [] ∧ splitAt '/' (splitHead cs).2 = s :: ss) ∨
      cs = [] := by
  fun_cases splitHead cs with
  | case1 rest =>
    obtain ⟨s, ss, split, whole, free⟩ := splitAt_slash rest
    exact .inl ⟨s, ss, by rw [whole, slashed_cons]; rfl, free, rfl, split⟩
  | case2 => exact .inr (.inl ⟨[], rfl, by simp, rfl, rfl⟩)
  | case3 rest =>
    obtain ⟨s, ss, split, whole, free⟩ := splitAt_slash rest
    refine .inr (.inl ⟨s :: ss, by rw [whole, slashed_cons]; rfl, free, rfl, ?_⟩)
    rw [splitAt, if_pos rfl, split]
  | case4 cs notRoot notDot notDots =>
    obtain ⟨s, ss, split, whole, free⟩ := splitAt_slash cs
    obtain ⟨first, others⟩ := List.forall_mem_cons.mp free
    refine .inr (.inr ?_)
    by_cases none : cs = []
    · exact .inr none
    · refine .inl ⟨s, ss, whole, ⟨?_, ?_, first⟩, others, rfl, split⟩
      · rintro rfl
        cases ss with
        | nil => exact none whole
        | cons t ss => exact notRoot _ whole
      · rintro rfl
        cases ss with
        | nil => exact notDot whole
        | cons t ss => exact notDots _ whole

/-- The directory of a path is that of its segments. -/
theorem parent?_eq (path : String) : ∃ lead ss, path.toList = lead ++ slashed ss ∧ '/' ∉ lead ∧
    (∀ s ∈ ss, '/' ∉ s) ∧ parent? path = (directory? lead ss).map .ofList := by
  rcases splitHead_cases path.toList with ⟨s, ss, whole, free, head, segments⟩ |
    ⟨ss, whole, free, head, segments⟩ | ⟨s, ss, whole, named, free, head, segments⟩ | whole
  · refine ⟨[], s :: ss, whole, by simp, free, ?_⟩
    rw [directory?]
    by_cases nothing : dropIdleEnd (s :: ss) = []
    · rw [if_pos nothing, parent?_of_nil (by rw [segments, nothing]), head]
      rfl
    · rw [if_neg nothing, parent?_of_ne_nil (by rwa [segments]), head, segments]
      rfl
  · refine ⟨['.'], ss, whole, by simp, free, ?_⟩
    rw [directory?]
    by_cases nothing : dropIdleEnd ss = []
    · rw [if_pos nothing, parent?_of_nil (by rw [segments, dropIdleEnd_cons, if_pos nothing]; rfl),
        head]
      rfl
    · obtain ⟨more, directory⟩ := directory_eq (List.cons_ne_nil '.' []).symm nothing
      rw [if_neg nothing, parent?_of_ne_nil (by rwa [segments]), head, segments, directory]
      rfl
  · refine ⟨s, ss, whole, named.no_slash, free, ?_⟩
    rw [directory?, if_neg named.ne_nil, if_neg named.ne_nil]
    by_cases nothing : dropIdleEnd ss = []
    · have alone : dropIdleEnd (s :: ss) = [s] := by
        rw [dropIdleEnd_cons, if_pos nothing, dropIdleEnd_singleton named.ne_nil named.ne_dot]
      rw [if_pos nothing, parent?_of_ne_nil (by rw [segments, alone]; exact List.cons_ne_nil _ _),
        head, segments, alone]
      rfl
    · obtain ⟨more, directory⟩ := directory_eq named.ne_dot nothing
      rw [if_neg nothing, parent?_of_ne_nil (by rwa [segments]), head, segments, directory]
      rfl
  · exact ⟨[], [], whole, by simp, by simp, by rw [parent?_of_nil (by rw [whole]; rfl), whole]; rfl⟩

/-- A path is in the directory that holds it. -/
theorem parent?_eq_some_iff {path dir : String} :
    parent? path = some dir ↔ HeldBy dir.toList path.toList := by
  obtain ⟨lead, ss, whole, first, free, parent⟩ := parent?_eq path
  rw [parent, Option.map_eq_some_iff]
  constructor
  · rintro ⟨_, directory, rfl⟩
    rw [whole, String.toList_ofList]
    exact heldBy_of_directory? first free directory
  · intro held
    exact ⟨_, directory?_of_heldBy held first free whole, String.ofList_toList⟩

/-- A path that names nothing is in no directory. -/
theorem parent?_eq_none_iff {path : String} : parent? path = none ↔ Idle path.toList := by
  obtain ⟨lead, ss, whole, first, free, parent⟩ := parent?_eq path
  rw [parent, Option.map_eq_none_iff, whole]
  refine ⟨idle_of_directory?, fun idle => ?_⟩
  obtain ⟨idles, slashes, are⟩ := idle.eq_slashed
  obtain ⟨rfl, rfl⟩ := slashed_inj first free List.not_mem_nil
    (fun s mem => no_slash_of_isIdle (are s mem)) slashes
  have nothing : dropIdleEnd ss = [] := dropIdleEnd_append are []
  rw [directory?, if_pos nothing, if_pos rfl]

/-! ### Paths below directories -/

/-- The path begins with a slash. -/
def Absolute (path : String) : Prop := ∃ rest, path = "/" ++ rest

/-- The text is the path below the directory. -/
inductive Below (dir path : String) : String → Prop where
  /-- There is no directory, or it ends in a slash. -/
  | onto : (dir = "" ∨ ∃ front, dir = front ++ "/") → Below dir path (dir ++ path)
  /-- A slash comes between the two. -/
  | behind : dir ≠ "" → (¬∃ front, dir = front ++ "/") → Below dir path (dir ++ "/" ++ path)

theorem isAbsolute_iff {path : String} : isAbsolute path = true ↔ Absolute path := by
  rw [isAbsolute, decide_eq_true_iff]
  constructor
  · intro slash
    obtain ⟨rest, whole⟩ := List.head?_eq_some_iff.mp slash
    exact ⟨.ofList rest, String.toList_inj.mp (by simp [whole])⟩
  · rintro ⟨rest, rfl⟩
    simp

theorem getLast?_eq_slash {dir : String} :
    dir.toList.getLast? = some '/' ↔ ∃ front, dir = front ++ "/" := by
  rw [List.getLast?_eq_some_iff]
  constructor
  · rintro ⟨front, whole⟩
    exact ⟨.ofList front, String.toList_inj.mp (by simp [whole])⟩
  · rintro ⟨front, rfl⟩
    exact ⟨front.toList, by simp⟩

/-- A path that is not absolute is below a directory where it is joined to it. -/
theorem below_iff {path joined : String} (relative : ¬Absolute path) {dir : String} :
    Below dir path joined ↔ joined = join dir path := by
  have onto_iff : dir.toList.getLast?.all (· = '/') = true
      ↔ dir = "" ∨ ∃ front, dir = front ++ "/" := by
    rw [← getLast?_eq_slash]
    cases last : dir.toList.getLast? with
    | none =>
      have empty : dir = "" := String.toList_inj.mp (List.getLast?_eq_none_iff.mp last)
      simp [empty]
    | some c =>
      have ne : dir ≠ "" := by
        rintro rfl
        cases last
      simp [ne]
  rw [join, if_neg (mt isAbsolute_iff.mp relative)]
  by_cases onto : dir = "" ∨ ∃ front, dir = front ++ "/"
  · rw [if_pos (onto_iff.mpr onto)]
    constructor
    · rintro (_ | ⟨ne, not_slash⟩)
      · rfl
      · exact absurd onto (not_or.mpr ⟨ne, not_slash⟩)
    · rintro rfl
      exact .onto onto
  · rw [if_neg (mt onto_iff.mp onto)]
    constructor
    · rintro (h | _)
      · exact absurd h onto
      · rfl
    · rintro rfl
      exact .behind (not_or.mp onto).1 (not_or.mp onto).2

end AssetPath

namespace Context

open AssetPath (Absolute Below HeldBy Idle)

/-- Where the path that an object names leads. -/
inductive Resolves (c : Context) (o : Object) (path : String) : String → Prop where
  /-- An absolute path leads to itself, -/
  | absolute : Absolute path → Resolves c o path path
  /-- any other one to below the directory of the object, -/
  | object {dir joined : String} : ¬Absolute path → o.baseDir = some dir →
    Below dir path joined → Resolves c o path joined
  /-- or else to below the directory of the scene file, -/
  | scene {dir joined : String} : ¬Absolute path → o.baseDir = none →
    HeldBy dir.toList c.filePath.toList → Below dir path joined → Resolves c o path joined
  /-- or to itself if the scene file is in none. -/
  | bare : ¬Absolute path → o.baseDir = none → Idle c.filePath.toList → Resolves c o path path

/-- The path of an asset is where its name leads. -/
theorem resolves_iff {c : Context} {o : Object} {path resolved : String} :
    c.Resolves o path resolved ↔ resolved = c.assetPath path o := by
  by_cases absolute : Absolute path
  · rw [assetPath, if_pos (AssetPath.isAbsolute_iff.mpr absolute)]
    constructor
    · rintro (_ | relative | relative | relative)
      · rfl
      all_goals exact absurd absolute relative
    · rintro rfl
      exact .absolute absolute
  · rw [assetPath, if_neg (mt AssetPath.isAbsolute_iff.mp absolute)]
    cases base : o.baseDir with
    | some dir =>
      constructor
      · rintro (_ | ⟨_, base', below⟩ | ⟨_, base', _, _⟩ | ⟨_, base', _⟩)
        · contradiction
        · obtain rfl := Option.some.inj (base.symm.trans base')
          exact (AssetPath.below_iff absolute).mp below
        all_goals
          rw [base] at base'
          cases base'
      · exact fun joined => .object absolute base ((AssetPath.below_iff absolute).mpr joined)
    | none =>
      constructor
      · rintro (_ | ⟨_, base', _⟩ | ⟨_, _, held, below⟩ | ⟨_, _, idle⟩)
        · contradiction
        · rw [base] at base'
          cases base'
        · rw [AssetPath.parent?_eq_some_iff.mpr held]
          exact (AssetPath.below_iff absolute).mp below
        · rw [AssetPath.parent?_eq_none_iff.mpr idle]
          rfl
      · rintro rfl
        cases parent : AssetPath.parent? c.filePath with
        | some dir =>
          exact .scene absolute base (AssetPath.parent?_eq_some_iff.mp parent)
            ((AssetPath.below_iff absolute).mpr rfl)
        | none => exact .bare absolute base (AssetPath.parent?_eq_none_iff.mp parent)

/-- The object names a file, and the path is where the name leads. -/
def Located (c : Context) (o : Object) (path : String) : Prop :=
  ∃ file, o.property? "filename" = some (.string file) ∧ c.Resolves o file path

/-- A texture with an absolute file name is at that path. -/
theorem Located.eq_of_absolute {c : Context} {o : Object} {file path : String}
    (h : c.Located o path) (named : o.property? "filename" = some (.string file))
    (absolute : AssetPath.Absolute file) :
    path = file := by
  obtain ⟨file', named', resolves⟩ := h
  obtain rfl : file' = file := Property.string.inj (Option.some.inj (named'.symm.trans named))
  rw [resolves_iff.mp resolves, assetPath, if_pos (AssetPath.isAbsolute_iff.mpr absolute)]

end Context

end RayShader
