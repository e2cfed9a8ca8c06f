import ModelClasses.Command

/-! # The program

Runs the program on the disk. -/

open ModelClasses

namespace Disk

def fault (e : IO.Error) : FileFault :=
  match e with
  | .noFileOrDirectory .. => .missing
  | .alreadyExists .. => .present
  | .inappropriateType _ 20 _ => .noDirectory
  | .inappropriateType _ 21 _ => .directory
  | e => .other (toString e)

def attempt {α : Type} (action : IO α) : IO (Except FileFault α) := do
  try return .ok (← action) catch e => return .error (fault e)

def isFile (path : String) : IO Bool := do
  match ← attempt (System.mkFilePath [path]).metadata with
  | .ok data => return data.type == .file
  | .error _ => return false

def access : FileAccess IO where
  isFile := isFile
  load path := attempt (IO.FS.readFile path)
  save path text := attempt (IO.FS.writeFile path text)
  makeDirectories path := attempt (IO.FS.createDirAll path)

end Disk

def main (arguments : List String) : IO UInt32 := do
  let result ← (Arguments.read arguments).perform Disk.access
  IO.print result.printed
  IO.eprint result.complaints
  return result.code.toUInt32
