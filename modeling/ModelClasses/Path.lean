import ModelClasses.Naming

/-! # Paths

A path is a text whose parts are separated by slashes. Two paths are the same when their parts
are, so doubled and final slashes and inner single dots do not count. -/

namespace ModelClasses

namespace Path

inductive Part
  | root
  | current
  | parent
  | named (name : List Char)
deriving DecidableEq

/-- The texts between slashes. -/
def pieces : List Char → List (List Char)
  | [] => [[]]
  | c :: rest =>
    if c = '/' then [] :: pieces rest
    else
      match pieces rest with
      | [] => [[c]]
      | piece :: more => (c :: piece) :: more

def ofPiece? (piece : List Char) : Option Part :=
  if piece = [] ∨ piece = ['.'] then none
  else if piece = ['.', '.'] then some .parent
  else some (.named piece)

/-- A single dot counts in front of a path that does not start at the root. -/
def parts (path : String) : List Part :=
  match pieces path.toList with
  | [] => []
  | first :: rest =>
    let lead :=
      if first = [] then (if rest = [] then [] else [.root])
      else if first = ['.'] then [.current]
      else (ofPiece? first).toList
    lead ++ rest.filterMap ofPiece?

/-- A path below another one; a path that starts at the root stands for itself. -/
def join (base path : String) : String :=
  if path.startsWith "/" then path
  else if base.isEmpty ∨ base.endsWith "/" then base ++ path
  else base ++ "/" ++ path

/-- A path that is read backwards, without the slashes and inner single dots at its end. -/
def trimEnd : List Char → List Char
  | '/' :: rest => if rest.isEmpty then ['/'] else trimEnd rest
  | '.' :: '/' :: rest => if rest.isEmpty then ['/'] else trimEnd rest
  | cs => cs

/-- The path without its last part; the empty path and the root have none. -/
def parent? (path : String) : Option String :=
  let backwards := trimEnd path.toList.reverse
  if backwards = [] ∨ backwards = ['/'] then none
  else some (String.ofList (trimEnd (backwards.dropWhile (· != '/'))).reverse)

/-- What stands behind the last dot of a file's name, unless the dot starts the name. -/
def extension? (path : String) : Option String :=
  match (parts path).getLast? with
  | some (.named name) =>
    match Naming.splitLastDot name with
    | some (before, after) => if before = [] then none else some (String.ofList after)
    | none => none
  | _ => none

def Part.rank : Part → Nat
  | root => 0
  | current => 1
  | parent => 2
  | named _ => 3

def Part.compare : Part → Part → Ordering
  | .named a, .named b => Ord.compare (String.ofList a) (String.ofList b)
  | a, b => Ord.compare a.rank b.rank

/-- Paths are ordered part by part. -/
def compareParts : List Part → List Part → Ordering
  | [], [] => .eq
  | [], _ :: _ => .lt
  | _ :: _, [] => .gt
  | a :: as, b :: bs => (a.compare b).then (compareParts as bs)

def compare (a b : String) : Ordering := compareParts (parts a) (parts b)

def same (a b : String) : Bool := parts a = parts b

end Path

end ModelClasses
