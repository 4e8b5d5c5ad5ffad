import RayShader.Text.AssetPath

/-!
# Trees of files

A tree of files gives for each location what is there. Paths are read from the root,
which is also the working directory, name by name: an empty name and `.` stay, `..`
goes up, and any other name goes down, into a directory that exists. A path that is too
long, or that has a zero character, leads nowhere.
-/

namespace RayShader

/-- Where an entry stands: the names that lead to it from the root, each behind a slash. -/
abbrev FileTree.Location := String

/-- What stands at a location. -/
inductive FileTree.Entry (α : Type) where
  /-- A directory. -/
  | directory
  /-- A file with its content. -/
  | file (content : α)

/-- A tree of files. -/
structure FileTree (α : Type) where
  /-- What stands at a location, if anything does. -/
  entry? : FileTree.Location → Option (FileTree.Entry α)

namespace FileTree

/-- The location of the root. -/
def Location.root : Location := ""

/-- The location of the entry that has the name in the directory at a location. -/
def Location.down (l : Location) (name : String) : Location := l ++ "/" ++ name

/-- The location of the directory that an entry is in. The root is in itself. -/
def Location.up (l : Location) : Location :=
  .ofList ((l.toList.reverse.dropWhile (· ≠ '/')).drop 1).reverse

variable {α : Type}

/-- The tree that has only its root. -/
def root : FileTree α := ⟨fun l => if l = Location.root then some .directory else none⟩

/-- Sets what stands at a location. -/
def set (t : FileTree α) (l : Location) (e : Option (Entry α)) : FileTree α :=
  ⟨fun k => if k = l then e else t.entry? k⟩

/-- A directory stands at the location. -/
def isDirectory (t : FileTree α) (l : Location) : Bool :=
  match t.entry? l with
  | some .directory => true
  | _ => false

/-- A file stands at the location. -/
def isFile (t : FileTree α) (l : Location) : Bool :=
  match t.entry? l with
  | some (.file _) => true
  | _ => false

/-- The greatest length of a path, in bytes. -/
def greatestPath : Nat := 4095

/-- The greatest length of a name, in bytes. -/
def greatestName : Nat := 255

/-- The names of a path, if it can lead anywhere. -/
def names? (path : String) : Option (List String) :=
  if path.toList.contains '\x00' || greatestPath < path.utf8ByteSize then none
  else some ((Text.splitAt '/' path.toList).map .ofList)

/-- An entry may have the name. -/
def isEntryName (name : String) : Bool :=
  !(name = "" || name = "." || name = "..") && name.utf8ByteSize ≤ greatestName

/-- One name further in a path that leads through directories. -/
def enter? (t : FileTree α) (l : Location) (name : String) : Option Location :=
  if name = "" || name = "." then some l
  else if name = ".." then some l.up
  else if t.isDirectory (l.down name) then some (l.down name) else none

/-- The directory at the end of a list of names. -/
def directory? (t : FileTree α) (names : List String) : Option Location :=
  names.foldlM t.enter? Location.root

/-- Where a file of the given path stands or would stand. -/
def place? (t : FileTree α) (path : String) : Option Location := do
  let names ← names? path
  let l ← t.directory? names.dropLast
  let name ← names.getLast?
  if isEntryName name then some (l.down name) else none

/-- Goes one name further and makes the directory of that name unless it is there;
none if that cannot be done. -/
def makeEntry? (t : FileTree α) (l : Location) (name : String) :
    Option (FileTree α × Location) :=
  match t.enter? l name with
  | some k => some (t, k)
  | none =>
    if isEntryName name && (t.entry? (l.down name)).isNone then
      some (t.set (l.down name) (some .directory), l.down name)
    else none

/-- Makes the directories of a list of names from a location on. The directories that
were made before one that could not be made stay. -/
def makeFrom (t : FileTree α) (l : Location) : List String → FileTree α × Bool
  | [] => (t, true)
  | name :: rest =>
    match t.makeEntry? l name with
    | some (t, l) => t.makeFrom l rest
    | none => (t, false)

/-- Makes the directories of a path, and says whether all are there. A path that can
lead nowhere makes nothing. -/
def makeDirectories (t : FileTree α) (path : String) : FileTree α × Bool :=
  match names? path with
  | some names => t.makeFrom Location.root names
  | none => (t, false)

/-- Writes a file; none if the path names no place for one. -/
def write? (t : FileTree α) (path : String) (content : α) : Option (FileTree α) :=
  match t.place? path with
  | some l => if t.isDirectory l then none else some (t.set l (some (.file content)))
  | none => none

/-- Removes a file; a path without one removes nothing. -/
def removeFile (t : FileTree α) (path : String) : FileTree α :=
  match t.place? path with
  | some l => if t.isFile l then t.set l none else t
  | none => t

/-- A file or a directory stands at the path. -/
def contains (t : FileTree α) (path : String) : Bool :=
  ((names? path).bind t.directory?).isSome || ((t.place? path).bind t.entry?).isSome

/-- The content of a file. -/
def read? (t : FileTree α) (path : String) : Option α :=
  match (t.place? path).bind t.entry? with
  | some (.file content) => some content
  | _ => none

end FileTree

end RayShader
