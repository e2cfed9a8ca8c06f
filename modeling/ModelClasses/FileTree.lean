import ModelClasses.Path

/-! # Files

What a command does with files, and trees of directories and files on which it can be done without
a disk. -/

namespace ModelClasses

/-- Why something is not done with a file. -/
inductive FileFault
  | missing
  | present
  | noDirectory
  | directory
  | other (text : String)
deriving DecidableEq

def FileFault.message : FileFault → String
  | missing => "No such file or directory (os error 2)"
  | present => "File exists (os error 17)"
  | noDirectory => "Not a directory (os error 20)"
  | directory => "Is a directory (os error 21)"
  | other text => text

/-- What can be done with files. -/
structure FileAccess (m : Type → Type) where
  isFile (path : String) : m Bool
  load (path : String) : m (Except FileFault String)
  save (path text : String) : m (Except FileFault Unit)
  /-- Makes a directory and those that it is in, as far as they are missing. -/
  makeDirectories (path : String) : m (Except FileFault Unit)

/-- Where something stands in a tree: the names on the way to it. -/
abbrev Place := List String

inductive FileEntry
  | directory
  | file (text : String)
deriving DecidableEq

/-- The directories and files below a directory that is there itself. -/
structure FileTree where
  entries : List (Place × FileEntry) := []

namespace FileTree

def entry? (t : FileTree) (place : Place) : Option FileEntry :=
  if place.isEmpty then some .directory else t.entries.lookup place

/-- The tree with another entry at a place. -/
def put (t : FileTree) (place : Place) (e : FileEntry) : FileTree :=
  ⟨t.entries.filter (·.1 != place) ++ [(place, e)]⟩

/-- A step from a directory. -/
inductive Step
  | stay
  | up
  | down (name : String)
deriving DecidableEq

def Step.ofPiece (piece : List Char) : Step :=
  if piece = [] ∨ piece = ['.'] then stay
  else if piece = ['.', '.'] then up
  else down (String.ofList piece)

/-- The steps of a path. There are none for the empty path and for one that starts at a root, which
is not in the tree. -/
def steps? (path : String) : Option (List Step) :=
  if path.isEmpty || path.startsWith "/" then none
  else some ((Path.pieces path.toList).map .ofPiece)

/-- Where steps lead to. There has to be a directory at each of them, but there may be nothing at
the end. -/
def follow (t : FileTree) (place : Place) : List Step → Except FileFault Place
  | [] => .ok place
  | s :: rest =>
    match t.entry? place, s with
    | none, _ => .error .missing
    | some (.file _), _ => .error .noDirectory
    | some .directory, .stay => follow t place rest
    | some .directory, .up => if place.isEmpty then .error .missing else follow t place.dropLast rest
    | some .directory, .down name => follow t (place ++ [name]) rest

def placeOf (t : FileTree) (path : String) : Except FileFault Place :=
  match steps? path with
  | none => .error .missing
  | some steps => follow t [] steps

def load (t : FileTree) (path : String) : Except FileFault String := do
  match t.entry? (← t.placeOf path) with
  | some (.file text) => .ok text
  | some .directory => .error .directory
  | none => .error .missing

def isFile (t : FileTree) (path : String) : Bool := (t.load path).isOk

/-- A file may be there already. A path that ends with a slash is one of a directory. -/
def save (t : FileTree) (path text : String) : Except FileFault FileTree := do
  let place ← t.placeOf (String.ofList (path.toList.reverse.dropWhile (· == '/')).reverse)
  match t.entry? place with
  | some .directory => .error .directory
  | some (.file _) =>
    if path.endsWith "/" then .error .noDirectory else .ok (t.put place (.file text))
  | none => if path.endsWith "/" then .error .directory else .ok (t.put place (.file text))

def makeDirectory (t : FileTree) (steps : List Step) : Except FileFault FileTree := do
  let place ← t.follow [] steps
  match t.entry? place with
  | some _ => .error .present
  | none => .ok (t.put place .directory)

def isDirectory (t : FileTree) (steps : List Step) : Bool :=
  match t.follow [] steps with
  | .ok place => t.entry? place = some .directory
  | .error _ => false

/-- A directory that is there already is not made again. -/
def ensureDirectory (t : FileTree) (steps : List Step) : Except FileFault FileTree :=
  match t.makeDirectory steps with
  | .ok u => .ok u
  | .error fault => if t.isDirectory steps then .ok t else .error fault

/-- The directory that steps lead to, which are given from the last to the first, and those before
it as far as they are missing. -/
def makeBackwards (t : FileTree) : List Step → Except FileFault FileTree
  | [] => .ok t
  | s :: before =>
    match t.ensureDirectory (s :: before).reverse with
    | .error .missing => do (← t.makeBackwards before).ensureDirectory (s :: before).reverse
    | r => r

def makeDirectories (t : FileTree) (path : String) : Except FileFault FileTree :=
  match steps? path with
  | none => if path.isEmpty then .ok t else .error .missing
  | some steps => t.makeBackwards (steps.filter (· != .stay)).reverse

/-- Does something that changes the tree unless it fails. -/
def change (f : FileTree → Except FileFault FileTree) : StateM FileTree (Except FileFault Unit) :=
  fun t =>
    match f t with
    | .ok u => (.ok (), u)
    | .error fault => (.error fault, t)

def access : FileAccess (StateM FileTree) where
  isFile path := do return (← get).isFile path
  load path := do return (← get).load path
  save path text := change (·.save path text)
  makeDirectories path := change (·.makeDirectories path)

/-- A tree of files at paths, with the directories that they are in. -/
def ofFiles (files : List (String × String)) : FileTree :=
  files.foldl (fun t (path, text) =>
    let made := (((Path.parent? path).getD "" |> t.makeDirectories).toOption).getD t
    ((made.save path text).toOption).getD made) {}

def placeText (place : Place) : String := "/".intercalate place

/-- The files of a tree, each at its path. -/
def files (t : FileTree) : List (String × String) :=
  t.entries.filterMap fun (place, e) =>
    match e with
    | .file text => some (placeText place, text)
    | .directory => none

/-- The files of a tree that another tree does not have, or not with the same text. -/
def filesBeside (t before : FileTree) : List (String × String) :=
  t.files.filter fun f => !before.files.contains f

end FileTree

end ModelClasses
