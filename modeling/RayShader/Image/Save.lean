import RayShader.FileTree
import RayShader.Image.Basic
import RayShader.Run

/-!
# Saving images

The layers of an image are saved as the channels of one file. The arguments are
checked first, and the first defect ends the work before the tree of files is
touched. Then the directories of the path are made, then the file is written. A writer
that refuses the file leaves no file behind.
-/

namespace RayShader.Image

/-- What a file holds. -/
inductive Content where
  /-- An image. -/
  | image (i : Image)
  /-- Anything else. -/
  | text (t : String)

/-- The greatest count of samples that can be told; a greater product of sizes counts
as this one. -/
def greatestCount : Nat := 0xFFFFFFFFFFFFFFFF

/-- The count of samples of a layer. -/
def sampleCount (width height : Nat) : Nat := min (width * height) greatestCount

/-- A header can hold the name: each character fits in a byte. -/
def isStorable (name : String) : Bool := name.toList.all (·.toNat < 256)

/-- The channels of the layers, or the first defect. A layer is defective if its size is
wrong, else if its name was used before, else if a header cannot hold its name. -/
def checkLayers (count : Nat) (used : List String) : List Channel → Except SaveError (List Channel)
  | [] => .ok []
  | layer :: rest =>
    if layer.samples.length ≠ count then
      .error (.layerSize layer.name count layer.samples.length)
    else if layer.name ∈ used then .error (.duplicateLayerName layer.name)
    else if !isStorable layer.name then .error (.invalidLayerName layer.name)
    else (checkLayers count (layer.name :: used) rest).map (layer :: ·)

/-- The order of channels in a file. -/
def namesInOrder (a b : Channel) : Bool := a.name ≤ b.name

/-- The image to be saved, or what is wrong with the arguments. -/
def ofLayers (width height : Nat) (layers : List (List (Binary .single))) (names : List String) :
    Except SaveError Image :=
  if layers.length ≠ names.length then .error (.layerMismatch names.length layers.length)
  else if width = 0 || height = 0 then .error (.emptyImage width height)
  else (checkLayers (sampleCount width height) [] (names.zipWith Channel.mk layers)).map fun cs =>
    ⟨width, height, cs.mergeSort namesInOrder⟩

/-- A file can hold the image: it has a channel, and each channel has a name. -/
def isWritable (i : Image) : Bool := !i.channels.isEmpty && i.channels.all (·.name ≠ "")

/-- Makes the directories of the path's parent, if it names one. -/
def makeParent (t : FileTree Content) (path : String) : FileTree Content × Bool :=
  match AssetPath.parent? path with
  | some parent => if parent = "" then (t, true) else t.makeDirectories parent
  | none => (t, true)

/-- Writes the file of an image, and says whether it is written. -/
def writeFile (t : FileTree Content) (path : String) (i : Image) : FileTree Content × Bool :=
  match if isWritable i then t.write? path (.image i) else none with
  | some t => (t, true)
  | none => (t.removeFile path, false)

/-- Makes the parent directories and the file, and says whether the file is written. -/
def store (t : FileTree Content) (path : String) (i : Image) : FileTree Content × Bool :=
  match makeParent t path with
  | (t, true) => writeFile t path i
  | (t, false) => (t, false)

/-- Saves the layers of an image under their names. -/
def save (path : String) (width height : Nat) (layers : List (List (Binary .single)))
    (names : List String) : Stage (FileTree Content) Unit := do
  let i ← Stage.read ((ofLayers width height layers names).mapError .image)
  let written ← Stage.ofStep fun t =>
    let (t, written) := store t path i
    (t, .ok written)
  if written then
    Stage.log .debug s!"Saved {layers.length} layer(s) of {width}x{height} to {path}"
  else
    Stage.error (.image (.write path))

end RayShader.Image
