import ModelClasses.Generation
import ModelClasses.Json.Format
import ModelClasses.Json.Record
import ModelClasses.Path
import ModelClasses.SourceText

/-! # Emission

Where generated files go, and the record of the files that each of them depends on. -/

namespace ModelClasses

open Json

def SourceFile.extension : String := "kt"

/-- The path of a file below the output directory: a directory for every segment of the package
that is not empty. -/
def SourceFile.relativePath (file : SourceFile) : String :=
  let segments := (Naming.dotSegments file.package.toList).filter (!·.isEmpty)
  Path.join ((segments.map String.ofList).foldl Path.join "") (file.name ++ "." ++ extension)

structure EmittedFile where
  path : String
  originatingFiles : List String
deriving DecidableEq

namespace EmittedFile

def ofFile (file : SourceFile) : EmittedFile := ⟨file.relativePath, file.originatingFiles⟩

def toJson (f : EmittedFile) : Json :=
  .record [("path", .str f.path), ("originating_files", .array (f.originatingFiles.map .str))]

def ofJson? : Nat → Json → Option EmittedFile
  | 0, _ => none
  | room + 1, j =>
    match j.record? ["path", "originating_files"] with
    | some [path, originatingFiles] => do
      let path ← required string? path
      let originatingFiles ← required (list? (fun _ => string?) room) originatingFiles
      return ⟨path, originatingFiles⟩
    | _ => none

end EmittedFile

/-- The generated files of a pass and what they depend on. -/
structure DependencyRecord where
  files : List EmittedFile := []
deriving DecidableEq

namespace DependencyRecord

def toJson (r : DependencyRecord) : Json :=
  .record [("files", .array (r.files.map EmittedFile.toJson))]

def write [Format] (r : DependencyRecord) : String := Format.write r.toJson

def ofJson? : Nat → Json → Option DependencyRecord
  | 0, _ => none
  | room + 1, j =>
    match j.record? ["files"] with
    | some [files] => (required (list? EmittedFile.ofJson? room) files).map fun fs => ⟨fs⟩
    | _ => none

def read? [Format] (text : String) : Option DependencyRecord :=
  (Format.read? text).bind (ofJson? nestingLimit)

end DependencyRecord

/-- Files that are kept in memory, in the order of their paths. -/
structure FileStore where
  entries : List (String × String) := []

namespace FileStore

def get? (store : FileStore) (path : String) : Option String :=
  (store.entries.find? fun entry => Path.same entry.1 path).map (·.2)

/-- A file at a path that is already there replaces the text and keeps the path. -/
def insertEntry (path text : String) : List (String × String) → List (String × String)
  | [] => [(path, text)]
  | (p, t) :: rest =>
    match Path.compare path p with
    | .lt => (path, text) :: (p, t) :: rest
    | .eq => (p, text) :: rest
    | .gt => (p, t) :: insertEntry path text rest

def insert (store : FileStore) (path text : String) : FileStore :=
  ⟨insertEntry path text store.entries⟩

/-- A file and its text, at the file's path. -/
def emit (store : FileStore) (file : SourceFile) (text : String) : FileStore :=
  store.insert file.relativePath text

/-- The files of a report, each with its text. -/
def emitReport (store : FileStore) (indent : String) (files : List SourceFile) :
    FileStore × DependencyRecord :=
  (files.foldl (fun store file => store.emit file (file.render indent)) store,
    ⟨files.map .ofFile⟩)

end FileStore

end ModelClasses
