import RayShader.Proofs.SavedImages

/-!
# Images that cannot be saved

Some arguments of an image cannot be saved anywhere (`Unacceptable`). Most of them are refused
by the checks, which come before any file is touched. Two are refused by the writer alone: an
image without layers, and a layer without a name. The writer comes late: the directories of
the path have been made by then, and the file that stood at the path is gone with the one that
the writer gave up (`abandon`).

So a call with unacceptable arguments leaves the files as they were if the checks refuse them,
and otherwise only if there was nothing to make and nothing to lose (`abandon_eq_self_iff`).
-/

namespace RayShader

/-! ### Trees that grow -/

namespace FileTree

variable {α : Type} {t u v : FileTree α} {l : Location} {path : String}

/-- Directories have come where nothing stood, and everything else is as it was. -/
def Grows (t u : FileTree α) : Prop :=
  ∀ l, u.entry? l = t.entry? l ∨ t.entry? l = none ∧ u.entry? l = some .directory

theorem Grows.refl (t : FileTree α) : t.Grows t := fun _ => .inl rfl

theorem Grows.trans (h : t.Grows u) (h' : u.Grows v) : t.Grows v := by
  intro l
  obtain same | ⟨free, made⟩ := h l
  · rw [← same]
    exact h' l
  · obtain same | ⟨free', -⟩ := h' l
    · exact .inr ⟨free, same.trans made⟩
    · cases made.symm.trans free'

theorem grows_set (free : t.entry? l = none) : t.Grows (t.set l (some .directory)) := by
  intro k
  by_cases same : k = l
  · subst same
    exact .inr ⟨free, if_pos rfl⟩
  · exact .inl (if_neg same)

/-- What one name of a path makes: nothing where it leads to a directory, and else one. -/
theorem makeEntry?_eq_some {name : String} {k : Location} (h : t.makeEntry? l name = some (u, k)) :
    (t.enter? l name = some k ∧ u = t) ∨
      (t.enter? l name = none ∧ t.entry? (l.down name) = none ∧ k = l.down name ∧
        u = t.set (l.down name) (some .directory)) := by
  unfold makeEntry? at h
  cases entered : t.enter? l name with
  | some m =>
    rw [entered] at h
    obtain ⟨rfl, rfl⟩ := Prod.mk.inj (Option.some.inj h)
    exact .inl ⟨rfl, rfl⟩
  | none =>
    simp only [entered] at h
    split at h
    · rename_i free
      obtain ⟨rfl, rfl⟩ := Prod.mk.inj (Option.some.inj h)
      rw [Bool.and_eq_true, Option.isNone_iff_eq_none] at free
      exact .inr ⟨rfl, free.2, rfl, rfl⟩
    · cases h

theorem grows_of_makeEntry {name : String} {k : Location} (h : t.makeEntry? l name = some (u, k)) :
    t.Grows u := by
  obtain ⟨-, rfl⟩ | ⟨-, free, -, rfl⟩ := makeEntry?_eq_some h
  · exact .refl _
  · exact grows_set free

theorem grows_makeFrom (names : List String) (t : FileTree α) (l : Location) :
    t.Grows (t.makeFrom l names).1 := by
  induction names generalizing t l with
  | nil => exact .refl t
  | cons name rest ih =>
    rw [makeFrom]
    cases made : t.makeEntry? l name with
    | none => exact .refl t
    | some entry => exact (grows_of_makeEntry made).trans (ih _ _)

theorem grows_makeDirectories (t : FileTree α) (path : String) :
    t.Grows (t.makeDirectories path).1 := by
  unfold makeDirectories
  split
  · exact grows_makeFrom _ t Location.root
  · exact .refl t

/-- Nothing has to be made of names that lead through directories. -/
theorem makeFrom_eq_self_iff {names : List String} :
    t.makeFrom l names = (t, true) ↔ (names.foldlM t.enter? l).isSome := by
  induction names generalizing l with
  | nil => simp [makeFrom]
  | cons name rest ih =>
    rw [makeFrom, List.foldlM_cons]
    cases made : t.makeEntry? l name with
    | none =>
      have blocked : t.enter? l name = none := by
        unfold makeEntry? at made
        split at made
        · cases made
        · assumption
      simp [blocked]
    | some entry =>
      obtain ⟨u, k⟩ := entry
      obtain ⟨entered, rfl⟩ | ⟨entered, free, rfl, rfl⟩ := makeEntry?_eq_some made
      · rw [entered]
        exact ih
      · -- the directory that has been made is still there at the end
        have here : FileTree.entry? (t.set (l.down name) (some .directory)) (l.down name)
          = some .directory := if_pos rfl
        have stays := grows_makeFrom rest (t.set (l.down name) (some .directory)) (l.down name)
          (l.down name)
        rw [here] at stays
        rw [entered]
        refine iff_of_false (fun same => ?_) (fun found => by cases found)
        rw [congrArg Prod.fst same, free] at stays
        obtain gone | ⟨gone, -⟩ := stays <;> cases gone

theorem makeDirectories_eq_self_iff : t.makeDirectories path = (t, true) ↔
    ((names? path).bind t.directory?).isSome := by
  unfold makeDirectories
  cases names? path with
  | none => simp
  | some names => exact makeFrom_eq_self_iff

/-! ### Files that go -/

/-- A file is removed if one is there, and then its place is left empty. -/
theorem removeFile_cases (t : FileTree α) (path : String) :
    (t.read? path = none ∧ t.removeFile path = t) ∨
      ∃ l content, t.entry? l = some (.file content) ∧ t.read? path = some content ∧
        t.removeFile path = t.set l none := by
  cases found : t.place? path with
  | none => exact .inl ⟨by simp [read?, found], by simp [removeFile, found]⟩
  | some l =>
    cases stands : t.entry? l with
    | none => exact .inl ⟨by simp [read?, found, stands], by simp [removeFile, found, isFile, stands]⟩
    | some e =>
      cases e with
      | directory =>
        exact .inl ⟨by simp [read?, found, stands], by simp [removeFile, found, isFile, stands]⟩
      | file content =>
        exact .inr ⟨l, content, stands, by simp [read?, found, stands],
          by simp [removeFile, found, isFile, stands]⟩

end FileTree

namespace Image

open FileTree

variable {path : String} {t u : FileTree Content} {img : Image} {width height : Nat}
  {layers : List (List (Binary .single))} {names : List String}

/-! ### Calls that the writer refuses -/

theorem grows_makeParent (t : FileTree Content) (path : String) :
    t.Grows (makeParent t path).1 := by
  unfold makeParent
  split
  · split
    · exact .refl t
    · exact grows_makeDirectories t _
  · exact .refl t

/-- The path is in a directory that is there. -/
def HasParent (t : FileTree Content) (path : String) : Prop :=
  ∀ parent, AssetPath.parent? path = some parent → parent ≠ "" →
    ((names? parent).bind t.directory?).isSome

theorem makeParent_eq_self_iff : makeParent t path = (t, true) ↔ HasParent t path := by
  unfold makeParent HasParent
  cases AssetPath.parent? path with
  | none => simp
  | some parent =>
    by_cases here : parent = ""
    · simp [here]
    · simp [here, makeDirectories_eq_self_iff]

/-- The files after a call that the writer refuses: directories have been made for the path,
and if all of them are there, no file is left at the path. -/
def abandon (t : FileTree Content) (path : String) : FileTree Content :=
  match makeParent t path with
  | (u, true) => u.removeFile path
  | (u, false) => u

theorem store_of_not_writable (h : isWritable img = false) :
    store t path img = (abandon t path, false) := by
  rcases made : makeParent t path with ⟨u, _ | _⟩
  · simp only [store, abandon, made]
  · simp only [store, abandon, made, writeFile, h, Bool.false_eq_true, if_false]

/-- What is different after a call that the writer refuses: directories have come where
nothing stood, and a file may be gone. No file has come, and none has another content. -/
theorem entry?_abandon (t : FileTree Content) (path : String) (l : Location) :
    FileTree.entry? (abandon t path) l = t.entry? l ∨
      (t.entry? l = none ∧ FileTree.entry? (abandon t path) l = some .directory) ∨
      ((∃ content, t.entry? l = some (.file content)) ∧ FileTree.entry? (abandon t path) l = none) := by
  have grown := grows_makeParent t path l
  rcases made : makeParent t path with ⟨u, _ | _⟩
  all_goals rw [made] at grown; simp only [abandon, made]
  · exact grown.imp_right .inl
  · obtain ⟨-, same⟩ | ⟨k, content, file, -, removed⟩ := removeFile_cases u path
    · rw [same]
      exact grown.imp_right .inl
    · rw [removed]
      by_cases here : l = k
      · subst here
        obtain same | ⟨-, made⟩ := grown
        · exact .inr (.inr ⟨⟨content, same.symm.trans file⟩, if_pos rfl⟩)
        · cases file.symm.trans made
      · have kept : FileTree.entry? (u.set k none) l = u.entry? l := if_neg here
        rw [kept]
        exact grown.imp_right .inl

/-- Nothing is different if and only if there was nothing to make and nothing to lose. -/
theorem abandon_eq_self_iff : abandon t path = t ↔
    makeParent t path = (t, false) ∨ HasParent t path ∧ t.read? path = none := by
  rw [← makeParent_eq_self_iff]
  have grown := grows_makeParent t path
  rcases made : makeParent t path with ⟨u, _ | _⟩
  all_goals rw [made] at grown; simp only [abandon, made, Prod.mk.injEq]
  · simp
  · simp only [Bool.true_eq_false, and_false, false_or, and_true]
    obtain ⟨free, same⟩ | ⟨l, content, file, read, removed⟩ := removeFile_cases u path
    · rw [same]
      exact ⟨fun eq => ⟨eq, eq ▸ free⟩, fun h => h.1⟩
    · -- a file that is removed stood there before, for only directories have been made
      refine iff_of_false (fun eq => ?_) (fun ⟨eq, free⟩ => ?_)
      · have gone : t.entry? l = none := by
          rw [← eq, removed]
          exact if_pos rfl
        obtain same | ⟨-, made⟩ := grown l
        · cases file.symm.trans (same.trans gone)
        · cases file.symm.trans made
      · subst eq
        cases read.symm.trans free

/-! ### Arguments that are refused everywhere -/

/-- The arguments are refused whatever the path and the files are. -/
def Unacceptable (width height : Nat) (layers : List (List (Binary .single)))
    (names : List String) : Prop :=
  ∀ path t, ((save path width height layers names).step t).2 ≠ .ok ()

theorem isWritable_iff (holds : Holds img width height layers names) :
    isWritable img = true ↔ names ≠ [] ∧ "" ∉ names := by
  have perm := holds.names_perm
  have empty : img.channels = [] ↔ names = [] := by
    rw [← List.map_eq_nil_iff (f := (·.name))]
    exact ⟨fun none => (none ▸ perm).nil_eq.symm, fun none => (none ▸ perm).eq_nil⟩
  have named : (∀ channel ∈ img.channels, channel.name ≠ "") ↔ "" ∉ names := by
    rw [← perm.mem_iff, List.mem_map]
    simp
  rw [← named, ne_eq, ← empty]
  simp [isWritable]

theorem not_refuses (made : ofLayers width height layers names = .ok img) :
    ¬ ∃ e, Refuses width height layers names e := by
  rintro ⟨e, refused⟩
  cases made.symm.trans (ofLayers_eq_error.mpr refused)

theorem length_eq_of_ofLayers (made : ofLayers width height layers names = .ok img) :
    layers.length = names.length :=
  by_contra fun differ => not_refuses made ⟨_, .mismatch differ⟩

/-- The writer refuses an image without layers, and a layer without a name. -/
theorem step_save_of_unwritable (made : ofLayers width height layers names = .ok img)
    (unwritable : layers = [] ∨ "" ∈ names) : (save path width height layers names).step t
      = (abandon t path, .error (.error (.image (.write path)))) := by
  have refused : isWritable img = false := by
    rw [Bool.eq_false_iff, ne_eq, isWritable_iff (holds_of_ofLayers made), not_and_or, not_not,
      not_not]
    refine unwritable.imp_left ?_
    rintro rfl
    exact List.length_eq_zero_iff.mp (length_eq_of_ofLayers made).symm
  exact step_save_of_ok made (store_of_not_writable refused)

/-- An image that can be written is saved at a plain name where nothing else is. -/
theorem step_save_of_writable (made : ofLayers width height layers names = .ok img)
    (writable : isWritable img = true) :
    ((save "out.exr" width height layers names).step .root).2 = .ok () := by
  have parent : makeParent .root "out.exr" = (.root, true) := by
    rw [makeParent_eq_self_iff]
    intro parent held named
    have here : AssetPath.parent? "out.exr" = some "" := by decide +kernel
    exact absurd (Option.some.inj (held.symm.trans here)) named
  have place : (root : FileTree Content).place? "out.exr" = some "/out.exr" := by decide +kernel
  have free : (root : FileTree Content).isDirectory "/out.exr" = false := by decide +kernel
  have stored : store .root "out.exr" img
      = (root.set "/out.exr" (some (.file (.image img))), true) := by
    simp [store, parent, writeFile, writable, write?, place, free]
  rw [step_save_of_ok made stored]
  rfl

/-- The arguments that are refused everywhere: those that the checks refuse, an image without
layers, and a layer without a name. -/
theorem unacceptable_iff : Unacceptable width height layers names ↔
    (∃ e, Refuses width height layers names e) ∨ layers = [] ∨ "" ∈ names := by
  cases made : ofLayers width height layers names with
  | error e =>
    refine iff_of_true (fun path t saved => ?_) (.inl ⟨e, ofLayers_eq_error.mp made⟩)
    rw [step_save_of_error made] at saved
    cases saved
  | ok img =>
    have accepted := not_refuses made
    rw [or_iff_right accepted]
    constructor
    · intro unacceptable
      by_contra acceptable
      obtain ⟨some, named⟩ := not_or.mp acceptable
      refine unacceptable _ _ (step_save_of_writable made ((isWritable_iff
        (holds_of_ofLayers made)).mpr ⟨fun none => some ?_, named⟩))
      rw [← List.length_eq_zero_iff, length_eq_of_ofLayers made, none, List.length_nil]
    · intro unwritable path t saved
      rw [step_save_of_unwritable made unwritable] at saved
      cases saved

/-! ### What a refused call leaves -/

/-- What comes of a call with arguments that are refused everywhere: the files of afterwards
and the result. -/
structure Rejects (path : String) (width height : Nat) (layers : List (List (Binary .single)))
    (names : List String) (t t' : FileTree Content) (result : Except Failure Unit) : Prop where
  /-- Arguments that the checks refuse leave the files as they are. -/
  early : ∀ e, Refuses width height layers names e →
    result = .error (.error (.image e)) ∧ t' = t
  /-- The others are refused as the file is written, with the directories of the path made and
  the file at the path gone. -/
  late : (∀ e, ¬ Refuses width height layers names e) → (layers = [] ∨ "" ∈ names) ∧
    result = .error (.error (.image (.write path))) ∧ t' = abandon t path
  /-- The files are as they were only if the checks refuse the arguments, or no directory could
  be made, or the directory of the path was there and no file at the path. -/
  unchanged : t' = t ↔ (∃ e, Refuses width height layers names e) ∨
    makeParent t path = (t, false) ∨ HasParent t path ∧ t.read? path = none
  /-- Directories may have come where nothing stood, and a file may be gone. -/
  entry : ∀ l, t'.entry? l = t.entry? l ∨ (t.entry? l = none ∧ t'.entry? l = some .directory) ∨
    ((∃ content, t.entry? l = some (.file content)) ∧ t'.entry? l = none)

/-- **Arguments that are refused everywhere are not all refused in time.** Whatever the size,
the layers and the names are that no path and no files would make acceptable: where the checks
refuse them, the files are as they were. An image without layers and a layer without a name
pass the checks. Then the directories of the path are made and the file at the path is removed
before the call fails, so that files are as they were only if there was nothing to make and
nothing to remove. -/
theorem save_of_unacceptable (unacceptable : Unacceptable width height layers names)
    (path : String) (t : FileTree Content) :
    Rejects path width height layers names t ((save path width height layers names).step t).1
      ((save path width height layers names).step t).2 := by
  cases made : ofLayers width height layers names with
  | error e =>
    have refused := ofLayers_eq_error.mp made
    rw [step_save_of_error made]
    refine ⟨fun d other => ?_, fun none => absurd refused (none e),
      iff_of_true rfl (.inl ⟨e, refused⟩), fun l => .inl rfl⟩
    obtain rfl := Except.error.inj (made.symm.trans (ofLayers_eq_error.mpr other))
    exact ⟨rfl, rfl⟩
  | ok img =>
    have accepted := not_refuses made
    have unwritable := (unacceptable_iff.mp unacceptable).resolve_left accepted
    rw [step_save_of_unwritable made unwritable]
    refine ⟨fun e refused => absurd ⟨e, refused⟩ accepted, fun _ => ⟨unwritable, rfl, rfl⟩, ?_,
      entry?_abandon t path⟩
    rw [or_iff_right accepted]
    exact abandon_eq_self_iff

theorem nameless_refused_late : Unacceptable 1 1 [[.zero]] [""] ∧
    (save "p/o.exr" 1 1 [[.zero]] [""]).step .root
      = (abandon .root "p/o.exr", .error (.error (.image (.write "p/o.exr")))) ∧
    ((save "p/o.exr" 1 1 [[.zero]] [""]).step .root).1.isDirectory "/p" = true := by
  have unacceptable : Unacceptable 1 1 [[.zero]] [""] := unacceptable_iff.mpr (.inr (.inr (by simp)))
  have made : ofLayers 1 1 [[.zero]] [""] = .ok ⟨1, 1, [⟨"", [.zero]⟩].mergeSort namesInOrder⟩ := rfl
  obtain ⟨-, result, files⟩ := (save_of_unacceptable unacceptable "p/o.exr" .root).late
    fun e refused => not_refuses made ⟨e, refused⟩
  refine ⟨unacceptable, Prod.ext files result, ?_⟩
  rw [files]
  decide +kernel

/-- An image without layers is refused everywhere, and yet a directory is made for it. -/
theorem renders_stays : Unacceptable 1 1 [] [] ∧
    FileTree.entry? (root : FileTree Content) "/renders" = none ∧
    ((save "renders/out.exr" 1 1 [] []).step .root).2
      = .error (.error (.image (.write "renders/out.exr"))) ∧
    ((save "renders/out.exr" 1 1 [] []).step .root).1.isDirectory "/renders" = true := by
  have made : ofLayers 1 1 [] [] = .ok ⟨1, 1, [].mergeSort namesInOrder⟩ := rfl
  rw [step_save_of_unwritable made (.inl rfl)]
  exact ⟨unacceptable_iff.mpr (.inr (.inl rfl)), rfl, rfl, by decide +kernel⟩

end Image

end RayShader
