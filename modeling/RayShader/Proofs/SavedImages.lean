import RayShader.Image.Save
import RayShader.Proofs.NameOrder
import RayShader.Proofs.Run

/-!
# Saved images

The arguments of an image are checked in a fixed order: the lists first, then the size, then
layer by layer, and in each layer its size, whether its name was used before, and whether a
header can hold it. The layers carry the names that were used along, so that the check
of one layer depends on all before it; said by indices, the error is that of the least index
with a defect (`checkLayers_eq_error`). Arguments with a defect leave the files as they are.

A saved image is read back as it was given: writing a file changes no directory, so the
path leads to the same place before and after (`read?_write?`), and sorting moves whole
channels, names with their samples.
-/

namespace RayShader

/-! ### Files -/

namespace FileTree

variable {α : Type} {t t' : FileTree α} {path : String} {content : α}

theorem enter?_congr (h : t'.isDirectory = t.isDirectory) : t'.enter? = t.enter? := by
  funext l name
  rw [enter?, enter?, h]

/-- Where paths lead to depends on directories only. -/
theorem place?_congr (h : t'.isDirectory = t.isDirectory) : t'.place? path = t.place? path := by
  simp only [place?, directory?, enter?_congr h]

theorem isDirectory_set_file {l : Location} (h : t.isDirectory l = false) :
    (t.set l (some (.file content))).isDirectory = t.isDirectory := by
  funext k
  by_cases same : k = l
  · rw [same, h]
    simp [isDirectory, set]
  · simp [isDirectory, set, same]

/-- A file that is written is read back. -/
theorem read?_write? (h : t.write? path content = some t') : t'.read? path = some content := by
  unfold write? at h
  cases found : t.place? path with
  | none => simp [found] at h
  | some l =>
    simp only [found] at h
    cases free : t.isDirectory l with
    | true => simp [free] at h
    | false =>
      simp only [free, Bool.false_eq_true, if_false, Option.some.injEq] at h
      subst h
      rw [read?, place?_congr (isDirectory_set_file free), found]
      simp [set]

end FileTree

namespace Image

variable {count : Nat} {used : List String} {e : SaveError} {layers cs : List Channel}

/-! ### Layers -/

/-- What is wrong with the layer at an index, if anything is, given the names that were used
before the first layer. -/
def layerDefect? (count : Nat) (used : List String) (layers : List Channel) (i : Nat) :
    Option SaveError :=
  match layers[i]? with
  | none => none
  | some layer =>
    if layer.samples.length ≠ count then
      some (.layerSize layer.name count layer.samples.length)
    else if layer.name ∈ used ∨ layer.name ∈ (layers.take i).map (·.name) then
      some (.duplicateLayerName layer.name)
    else if !isStorable layer.name then some (.invalidLayerName layer.name)
    else none

theorem layerDefect?_succ (layer : Channel) (rest : List Channel) (i : Nat) :
    layerDefect? count used (layer :: rest) (i + 1)
      = layerDefect? count (layer.name :: used) rest i := by
  simp only [layerDefect?, List.getElem?_cons_succ, List.take_succ_cons, List.map_cons,
    List.mem_cons, or_left_comm, or_assoc]

theorem checkLayers_cons (layer : Channel) (rest : List Channel) :
    checkLayers count used (layer :: rest)
      = match layerDefect? count used (layer :: rest) 0 with
        | some e => .error e
        | none => (checkLayers count (layer.name :: used) rest).map (layer :: ·) := by
  simp only [checkLayers, layerDefect?, List.getElem?_cons_zero, List.take_zero, List.map_nil,
    List.not_mem_nil, or_false]
  split
  · rfl
  · split
    · rfl
    · split <;> rfl

/-- The error is that of the least index with a defect. -/
theorem checkLayers_eq_error : checkLayers count used layers = .error e ↔
    ∃ i, layerDefect? count used layers i = some e ∧
      ∀ j < i, layerDefect? count used layers j = none := by
  induction layers generalizing used with
  | nil => simp [checkLayers, layerDefect?]
  | cons layer rest ih =>
    rw [checkLayers_cons]
    cases first : layerDefect? count used (layer :: rest) 0 with
    | some d =>
      constructor
      · intro h
        exact ⟨0, first.trans (congrArg some (Except.error.inj h)), by omega⟩
      · rintro ⟨i, found, none_before⟩
        cases i with
        | zero => rw [Option.some.inj (first.symm.trans found)]
        | succ i => cases first.symm.trans (none_before 0 (by omega))
    | none =>
      have later : (checkLayers count (layer.name :: used) rest).map (layer :: ·) = .error e
          ↔ checkLayers count (layer.name :: used) rest = .error e := by
        cases checkLayers count (layer.name :: used) rest <;> simp [Except.map]
      rw [later, ih]
      constructor
      · rintro ⟨i, found, none_before⟩
        refine ⟨i + 1, (layerDefect?_succ ..).trans found, fun j lt => ?_⟩
        cases j with
        | zero => exact first
        | succ j => exact (layerDefect?_succ ..).trans (none_before j (by omega))
      · rintro ⟨i, found, none_before⟩
        cases i with
        | zero => cases first.symm.trans found
        | succ i =>
          exact ⟨i, (layerDefect?_succ ..).symm.trans found, fun j lt =>
            (layerDefect?_succ ..).symm.trans (none_before (j + 1) (by omega))⟩

/-- Where no layer has a defect, the channels are the layers. -/
theorem checkLayers_eq_ok (h : checkLayers count used layers = .ok cs) :
    cs = layers ∧ ∀ i, layerDefect? count used layers i = none := by
  induction layers generalizing used cs with
  | nil =>
    obtain rfl := Except.ok.inj h
    exact ⟨rfl, fun i => rfl⟩
  | cons layer rest ih =>
    rw [checkLayers_cons] at h
    cases first : layerDefect? count used (layer :: rest) 0 with
    | some e =>
      rw [first] at h
      cases h
    | none =>
      rw [first] at h
      cases checked : checkLayers count (layer.name :: used) rest with
      | error e =>
        rw [checked] at h
        cases h
      | ok more =>
        rw [checked] at h
        obtain rfl : layer :: more = cs := Except.ok.inj h
        obtain ⟨rfl, none_later⟩ := ih checked
        refine ⟨rfl, fun i => ?_⟩
        cases i with
        | zero => exact first
        | succ i => exact (layerDefect?_succ ..).trans (none_later i)

/-! ### Arguments -/

variable {width height i : Nat} {layers : List (List (Binary .single))} {names : List String}

/-- What is wrong with the layer at an index: its size, else its name, if an earlier layer
has it, else its name, if a character of it does not fit in a byte. -/
inductive Defect (count : Nat) (layers : List (List (Binary .single))) (names : List String)
    (i : Nat) : SaveError → Prop where
  /-- The layer has not the right count of samples. -/
  | size {name : String} {samples : List (Binary .single)} (named : names[i]? = some name)
    (holds : layers[i]? = some samples) (size : samples.length ≠ count) :
    Defect count layers names i (.layerSize name count samples.length)
  /-- An earlier layer has the name. -/
  | duplicate {name : String} {samples : List (Binary .single)} (named : names[i]? = some name)
    (holds : layers[i]? = some samples) (size : samples.length = count) {j : Nat} (lt : j < i)
    (earlier : names[j]? = some name) : Defect count layers names i (.duplicateLayerName name)
  /-- A header cannot hold the name. -/
  | invalid {name : String} {samples : List (Binary .single)} (named : names[i]? = some name)
    (holds : layers[i]? = some samples) (size : samples.length = count)
    (new : ∀ j < i, names[j]? ≠ some name) {ch : Char} (mem : ch ∈ name.toList)
    (wide : 256 ≤ ch.toNat) : Defect count layers names i (.invalidLayerName name)

/-- Why the arguments of an image are refused. -/
inductive Refuses (width height : Nat) (layers : List (List (Binary .single)))
    (names : List String) : SaveError → Prop where
  /-- There are not as many names as layers. -/
  | mismatch (differ : layers.length ≠ names.length) :
    Refuses width height layers names (.layerMismatch names.length layers.length)
  /-- The image has no pixels. -/
  | empty (same : layers.length = names.length) (none : width = 0 ∨ height = 0) :
    Refuses width height layers names (.emptyImage width height)
  /-- A layer has a defect, and none before it has. -/
  | layer (same : layers.length = names.length) (wide : width ≠ 0) (high : height ≠ 0) {i : Nat}
    {e : SaveError} (defect : Defect (min (width * height) 0xFFFFFFFFFFFFFFFF) layers names i e)
    (first : ∀ j < i, ∀ e', ¬ Defect (min (width * height) 0xFFFFFFFFFFFFFFFF) layers names j e') :
    Refuses width height layers names e

theorem mem_take {name : String} : name ∈ names.take i ↔ ∃ j < i, names[j]? = some name := by
  rw [List.mem_iff_getElem?]
  constructor
  · rintro ⟨j, found⟩
    rw [List.getElem?_take] at found
    split at found
    · exact ⟨j, by assumption, found⟩
    · cases found
  · rintro ⟨j, lt, found⟩
    exact ⟨j, by rw [List.getElem?_take, if_pos lt, found]⟩

theorem isStorable_eq_false {name : String} :
    isStorable name = false ↔ ∃ ch ∈ name.toList, 256 ≤ ch.toNat := by
  simp [isStorable]

theorem map_name_zipWith (same : layers.length = names.length) :
    (names.zipWith Channel.mk layers).map (·.name) = names := by
  rw [List.map_zipWith, ← List.map_uncurry_zip_eq_zipWith]
  exact List.map_fst_zip (Nat.le_of_eq same.symm)

theorem layerDefect?_of_getElem? (same : layers.length = names.length) {name : String}
    {samples : List (Binary .single)} (named : names[i]? = some name)
    (holds : layers[i]? = some samples) :
    layerDefect? count [] (names.zipWith Channel.mk layers) i
      = if samples.length ≠ count then some (.layerSize name count samples.length)
        else if name ∈ names.take i then some (.duplicateLayerName name)
        else if !isStorable name then some (.invalidLayerName name)
        else none := by
  have stands : (names.zipWith Channel.mk layers)[i]? = some ⟨name, samples⟩ := by
    rw [List.getElem?_zipWith, named, holds]
  simp only [layerDefect?, stands, List.not_mem_nil, false_or, List.map_take,
    map_name_zipWith same]

/-- The check of layers by indices finds the defects of the arguments. -/
theorem layerDefect?_eq_some (same : layers.length = names.length) :
    layerDefect? count [] (names.zipWith Channel.mk layers) i = some e
      ↔ Defect count layers names i e := by
  constructor
  · intro found
    have stands : ∃ name samples, names[i]? = some name ∧ layers[i]? = some samples := by
      by_cases lt : i < names.length
      · exact ⟨_, _, List.getElem?_eq_getElem lt, List.getElem?_eq_getElem (same ▸ lt)⟩
      · have outside : (names.zipWith Channel.mk layers)[i]? = none := by
          rw [List.getElem?_eq_none_iff, List.length_zipWith]
          omega
        simp [layerDefect?, outside] at found
    obtain ⟨name, samples, named, holds⟩ := stands
    rw [layerDefect?_of_getElem? same named holds] at found
    split at found
    · rename_i size
      obtain rfl := Option.some.inj found
      exact .size named holds size
    · rename_i size
      split at found
      · rename_i used
        obtain rfl := Option.some.inj found
        obtain ⟨j, lt, earlier⟩ := mem_take.mp used
        exact .duplicate named holds (not_not.mp size) lt earlier
      · rename_i new
        split at found
        · rename_i bad
          obtain rfl := Option.some.inj found
          obtain ⟨ch, mem, wide⟩ := isStorable_eq_false.mp (Bool.not_eq_true' _ ▸ bad)
          exact .invalid named holds (not_not.mp size)
            (fun j lt earlier => new (mem_take.mpr ⟨j, lt, earlier⟩)) mem wide
        · cases found
  · intro defect
    cases defect with
    | size named holds size =>
      rw [layerDefect?_of_getElem? same named holds, if_pos size]
    | duplicate named holds size lt earlier =>
      rw [layerDefect?_of_getElem? same named holds, if_neg (not_not.mpr size),
        if_pos (mem_take.mpr ⟨_, lt, earlier⟩)]
    | invalid named holds size new mem wide =>
      have unused : _ ∉ names.take i := fun used => by
        obtain ⟨j, lt, earlier⟩ := mem_take.mp used
        exact new j lt earlier
      rw [layerDefect?_of_getElem? same named holds, if_neg (not_not.mpr size), if_neg unused,
        isStorable_eq_false.mpr ⟨_, mem, wide⟩]
      rfl

theorem layerDefect?_eq_none (same : layers.length = names.length) :
    layerDefect? count [] (names.zipWith Channel.mk layers) i = none
      ↔ ∀ e, ¬ Defect count layers names i e := by
  rw [Option.eq_none_iff_forall_not_mem]
  exact forall_congr' fun e => not_congr (layerDefect?_eq_some same)

/-- The arguments of an image are refused for the first defect that they have. -/
theorem ofLayers_eq_error :
    ofLayers width height layers names = .error e ↔ Refuses width height layers names e := by
  unfold ofLayers
  by_cases differ : layers.length ≠ names.length
  · rw [if_pos differ, Except.error.injEq]
    constructor
    · rintro rfl
      exact .mismatch differ
    · rintro (_ | ⟨same, _⟩ | ⟨same, _⟩)
      · rfl
      · exact absurd same differ
      · exact absurd same differ
  · have same : layers.length = names.length := not_not.mp differ
    rw [if_neg differ]
    by_cases none : width = 0 ∨ height = 0
    · rw [if_pos (by simpa using none), Except.error.injEq]
      constructor
      · rintro rfl
        exact .empty same none
      · rintro (differ | _ | ⟨_, wide, high⟩)
        · exact absurd same differ
        · rfl
        · exact (none.elim wide high).elim
    · rw [if_neg (by simpa using none)]
      obtain ⟨wide, high⟩ := not_or.mp none
      have checked : (checkLayers (sampleCount width height) [] (names.zipWith Channel.mk layers)).map
          (fun cs => (⟨width, height, cs.mergeSort namesInOrder⟩ : Image)) = .error e
          ↔ checkLayers (sampleCount width height) [] (names.zipWith Channel.mk layers)
            = .error e := by
        cases checkLayers (sampleCount width height) [] (names.zipWith Channel.mk layers) <;>
          simp [Except.map]
      rw [checked, checkLayers_eq_error]
      simp only [layerDefect?_eq_some same, layerDefect?_eq_none same]
      constructor
      · rintro ⟨i, defect, first⟩
        exact .layer same wide high defect first
      · rintro (differ | ⟨_, none⟩ | ⟨_, _, _, defect, first⟩)
        · exact absurd same differ
        · exact (none.elim wide high).elim
        · exact ⟨_, defect, first⟩

/-! ### Images -/

/-- The image holds the layers under their names. -/
structure Holds (img : Image) (width height : Nat) (layers : List (List (Binary .single)))
    (names : List String) : Prop where
  /-- The width is that of the arguments. -/
  width_eq : img.width = width
  /-- The height is that of the arguments. -/
  height_eq : img.height = height
  /-- There is one channel for each name. -/
  names_perm : (img.channels.map (·.name)).Perm names
  /-- The channels are in the order of the bytes of their names. -/
  ordered : img.channels.Pairwise fun a b => Text.bytes a.name < Text.bytes b.name
  /-- A channel holds the samples of the layer that was given with its name. -/
  mem_channels : ∀ channel, channel ∈ img.channels ↔
    ∃ i : Nat, names[i]? = some channel.name ∧ layers[i]? = some channel.samples

theorem nodup_of_not_defect (same : layers.length = names.length)
    (none : ∀ i e, ¬ Defect count layers names i e) : names.Nodup := by
  rw [List.Nodup, List.pairwise_iff_getElem]
  intro i j hi hj lt eq
  obtain ⟨samples, holds⟩ : ∃ samples, layers[j]? = some samples :=
    ⟨_, List.getElem?_eq_getElem (same ▸ hj)⟩
  have named : names[j]? = some names[j] := List.getElem?_eq_getElem hj
  by_cases size : samples.length = count
  · exact none j _ (.duplicate named holds size lt (eq ▸ List.getElem?_eq_getElem hi))
  · exact none j _ (.size named holds size)

theorem mem_zipWith {channel : Channel} : channel ∈ names.zipWith Channel.mk layers ↔
    ∃ i : Nat, names[i]? = some channel.name ∧ layers[i]? = some channel.samples := by
  rw [List.mem_iff_getElem?]
  refine exists_congr fun i => ?_
  rw [List.getElem?_zipWith]
  cases names[i]? with
  | none => simp
  | some name =>
    cases layers[i]? with
    | none => simp
    | some samples =>
      obtain ⟨name', samples'⟩ := channel
      simp

theorem pairwise_mergeSort {channels : List Channel} (distinct : (channels.map (·.name)).Nodup) :
    (channels.mergeSort namesInOrder).Pairwise fun a b => Text.bytes a.name < Text.bytes b.name := by
  have trans : ∀ a b c, namesInOrder a b = true → namesInOrder b c = true →
      namesInOrder a c = true := fun a b c hab hbc =>
    decide_eq_true (String.le_trans (of_decide_eq_true hab) (of_decide_eq_true hbc))
  have total : ∀ a b, (namesInOrder a b || namesInOrder b a) = true := fun a b => by
    simpa [namesInOrder] using String.le_total a.name b.name
  have ascending := List.pairwise_mergeSort trans total channels
  have different : (channels.mergeSort namesInOrder).Pairwise (fun a b => a.name ≠ b.name) := by
    rw [← List.pairwise_map (R := (· ≠ ·))]
    exact ((List.mergeSort_perm channels namesInOrder).map _).nodup_iff.mpr distinct
  refine (ascending.and different).imp fun {a b} h => Text.bytes_lt ?_
  rcases Text.trichotomy a.name b.name with lt | eq | gt
  · exact lt
  · exact absurd eq h.2
  · exact absurd gt (of_decide_eq_true h.1)

theorem holds_of_ofLayers {img : Image} (h : ofLayers width height layers names = .ok img) :
    Holds img width height layers names := by
  have accepted : ∀ e, ¬ Refuses width height layers names e := fun e refused => by
    cases h.symm.trans (ofLayers_eq_error.mpr refused)
  have same : layers.length = names.length := by
    by_contra differ
    exact accepted _ (.mismatch differ)
  have pixels : ¬ (width = 0 ∨ height = 0) := fun none => accepted _ (.empty same none)
  rw [ofLayers, if_neg (not_not.mpr same), if_neg (by simpa using pixels)] at h
  cases checked : checkLayers (sampleCount width height) [] (names.zipWith Channel.mk layers) with
  | error e =>
    rw [checked] at h
    cases h
  | ok cs =>
    rw [checked] at h
    obtain rfl := Except.ok.inj h
    obtain ⟨rfl, sound⟩ := checkLayers_eq_ok checked
    have perm := List.mergeSort_perm (names.zipWith Channel.mk layers) namesInOrder
    have distinct : names.Nodup :=
      nodup_of_not_defect same fun i => (layerDefect?_eq_none same).mp (sound i)
    refine ⟨rfl, rfl, ?_, pairwise_mergeSort ?_, fun channel => perm.mem_iff.trans mem_zipWith⟩
    · exact (perm.map _).trans (.of_eq (map_name_zipWith same))
    · rwa [map_name_zipWith same]

/-! ### Saving -/

variable {path : String} {t t' : FileTree Content} {img : Image}

theorem step_save_of_error (refused : ofLayers width height layers names = .error e) :
    (save path width height layers names).step t = (t, .error (.error (.image e))) := by
  rw [save, Stage.bind_eq, refused]
  exact Stage.step_bind_of_error rfl _

theorem step_save_of_ok {written : Bool} (made : ofLayers width height layers names = .ok img)
    (stored : store t path img = (t', written)) :
    (save path width height layers names).step t
      = (t', if written then .ok () else .error (.error (.image (.write path)))) := by
  have read : (Stage.read ((Except.ok img : Except SaveError Image).mapError Error.image)).step t
      = (t, .ok img) := rfl
  have ran : (Stage.ofStep fun t => ((store t path img).1, .ok (store t path img).2)).step t
      = (t', .ok written) := by
    rw [Stage.step, Stage.ofStep, stored]
  rw [save, Stage.bind_eq, made, Stage.step_bind_of_ok read, Stage.bind_eq, Stage.step_bind_of_ok ran]
  cases written with
  | true => rfl
  | false => rfl

/-- A file that is stored is read back. -/
theorem read?_store (h : store t path img = (t', true)) : t'.read? path = some (.image img) := by
  unfold store at h
  split at h
  · rename_i u _
    unfold writeFile at h
    split at h
    · rename_i v written
      obtain rfl := (Prod.mk.inj h).1
      split at written
      · exact FileTree.read?_write? written
      · cases written
    · cases (Prod.mk.inj h).2
  · cases (Prod.mk.inj h).2

/-- What comes of saving an image: the files of afterwards and the result. -/
structure Saves (path : String) (width height : Nat) (layers : List (List (Binary .single)))
    (names : List String) (t t' : FileTree Content) (result : Except Failure Unit) : Prop where
  /-- The result is an error of the arguments if and only if they are refused for it. -/
  refuses : ∀ e, Refuses width height layers names e ↔
    e ≠ .write path ∧ result = .error (.error (.image e))
  /-- Whether the lists differ in length is asked first. -/
  mismatch : layers.length ≠ names.length ↔
    result = .error (.error (.image (.layerMismatch names.length layers.length)))
  /-- Whether there are pixels is asked second. -/
  empty : layers.length = names.length ∧ (width = 0 ∨ height = 0) ↔
    result = .error (.error (.image (.emptyImage width height)))
  /-- Arguments that are refused leave the files as they are. -/
  unchanged : (∃ e, Refuses width height layers names e) → t' = t
  /-- Otherwise the image is saved, or it is the file that cannot be written. -/
  otherwise : (∀ e, ¬ Refuses width height layers names e) →
    result = .ok () ∨ result = .error (.error (.image (.write path)))
  /-- An image that is saved is read back as it was given. -/
  holds : result = .ok () →
    ∃ img, t'.read? path = some (.image img) ∧ Holds img width height layers names

theorem refuses_layerMismatch {n l : Nat} :
    Refuses width height layers names (.layerMismatch n l) ↔
      (n = names.length ∧ l = layers.length) ∧ layers.length ≠ names.length := by
  constructor
  · rintro (differ | _ | ⟨_, _, _, defect, _⟩)
    · exact ⟨⟨rfl, rfl⟩, differ⟩
    · cases defect
  · rintro ⟨⟨rfl, rfl⟩, differ⟩
    exact .mismatch differ

theorem refuses_emptyImage {w h : Nat} :
    Refuses width height layers names (.emptyImage w h) ↔
      (w = width ∧ h = height) ∧ layers.length = names.length ∧ (width = 0 ∨ height = 0) := by
  constructor
  · rintro (_ | ⟨same, none⟩ | ⟨_, _, _, defect, _⟩)
    · exact ⟨⟨rfl, rfl⟩, same, none⟩
    · cases defect
  · rintro ⟨⟨rfl, rfl⟩, same, none⟩
    exact .empty same none

theorem not_refuses_write : ¬ Refuses width height layers names (.write path) := by
  rintro (_ | _ | ⟨_, _, _, defect, _⟩)
  cases defect

/-- The result of saving is an error of the arguments if and only if they are refused. -/
theorem refuses_iff : Refuses width height layers names e ↔ e ≠ .write path ∧
    ((save path width height layers names).step t).2 = .error (.error (.image e)) := by
  cases made : ofLayers width height layers names with
  | error d =>
    rw [step_save_of_error made, ← ofLayers_eq_error, made]
    constructor
    · intro same
      obtain rfl := Except.error.inj same
      refine ⟨?_, rfl⟩
      rintro rfl
      exact not_refuses_write (ofLayers_eq_error.mp made)
    · rintro ⟨-, same⟩
      simpa using same
  | ok img =>
    rw [step_save_of_ok made (Prod.mk.eta.symm), ← ofLayers_eq_error, made]
    constructor
    · intro same
      cases same
    · rintro ⟨other, same⟩
      split at same
      · cases same
      · simp only [Except.error.injEq, Failure.error.injEq, Error.image.injEq] at same
        exact absurd same.symm other

/-- **Saving an image checks first and writes what it is given.** Whatever the path, the
size, the layers and the names are: the arguments are checked in a fixed order, the first
defect is the error, and then no file is touched. Otherwise the image is saved or the file
cannot be written; and an image that is saved is read back with its size, and with one
channel for each name, in the order of the bytes of the names, that holds the samples of
the layer of that name. -/
theorem save_saves (path : String) (width height : Nat) (layers : List (List (Binary .single)))
    (names : List String) (t : FileTree Content) :
    Saves path width height layers names t ((save path width height layers names).step t).1
      ((save path width height layers names).step t).2 := by
  have mismatch : SaveError.layerMismatch names.length layers.length ≠ .write path := nofun
  have empty : SaveError.emptyImage width height ≠ .write path := nofun
  refine ⟨fun e => refuses_iff, ?_, ?_, ?_, fun accepted => ?_, fun saved => ?_⟩
  · refine .trans ?_ (refuses_iff.trans (and_iff_right mismatch))
    rw [refuses_layerMismatch]
    exact (and_iff_right ⟨rfl, rfl⟩).symm
  · refine .trans ?_ (refuses_iff.trans (and_iff_right empty))
    rw [refuses_emptyImage]
    exact (and_iff_right ⟨rfl, rfl⟩).symm
  · rintro ⟨e, refused⟩
    rw [step_save_of_error (ofLayers_eq_error.mpr refused)]
  · cases made : ofLayers width height layers names with
    | error e => exact absurd (ofLayers_eq_error.mp made) (accepted e)
    | ok img =>
      rw [step_save_of_ok made (Prod.mk.eta.symm)]
      split
      · exact .inl rfl
      · exact .inr rfl
  · cases made : ofLayers width height layers names with
    | error e =>
      rw [step_save_of_error made] at saved
      cases saved
    | ok img =>
      rcases stored : store t path img with ⟨t', written⟩
      rw [step_save_of_ok made stored] at saved ⊢
      cases written with
      | true => exact ⟨img, read?_store stored, holds_of_ofLayers made⟩
      | false => cases saved

/-- One pixel with two channels. -/
def pixel : Image := ⟨1, 1, [⟨"B", [.ofInt 1]⟩, ⟨"R", [.zero]⟩]⟩

theorem ofLayers_pixel : ofLayers 1 1 [[.zero], [.ofInt 1]] ["R", "B"] = .ok pixel := by
  have sorted (xs ys : List (Binary .single)) :
      [⟨"R", xs⟩, ⟨"B", ys⟩].mergeSort namesInOrder = [⟨"B", ys⟩, ⟨"R", xs⟩] := by
    simp [List.mergeSort, List.MergeSort.Internal.splitInTwo, namesInOrder]
  show Except.ok (Image.mk 1 1 _) = _
  rw [sorted]
  rfl

theorem pixel_saved :
    ∃ img, ((save "out/pixel.exr" 1 1 [[.zero], [.ofInt 1]] ["R", "B"]).step .root).1.read?
        "out/pixel.exr" = some (.image img) ∧
      Holds img 1 1 [[.zero], [.ofInt 1]] ["R", "B"] := by
  have stored : (store .root "out/pixel.exr" pixel).2 = true := by decide +kernel
  refine (save_saves "out/pixel.exr" 1 1 [[.zero], [.ofInt 1]] ["R", "B"] .root).holds ?_
  rw [step_save_of_ok ofLayers_pixel (Prod.mk.eta.symm), stored]
  rfl

end Image

end RayShader
