import ModelClasses.Toml.Basic

/-! # Tables of TOML documents

How the statements of a document add up to one table. A key is given a value once; a table has one
header; what is written in braces or brackets is complete. -/

namespace ModelClasses.Toml

abbrev Entries := List (String × Toml)

def replace (key : String) (v : Toml) (entries : Entries) : Entries :=
  entries.map fun e => if e.1 == key then (key, v) else e

/-- A change of the last table of a list. -/
def changeLast (change : Entries → Option Entries) : List Toml → Option (List Toml)
  | [] => none
  | [.table origin entries] => (change entries).map fun es => [.table origin es]
  | [_] => none
  | v :: rest => (changeLast change rest).map (v :: ·)

/-- A change of the table at a path of headers; tables that are missing on the way are implied. -/
def underHeader (change : Entries → Option Entries) : List String → Entries → Option Entries
  | [], entries => change entries
  | key :: path, entries =>
    match entries.lookup key with
    | none => (underHeader change path []).map fun es => entries ++ [(key, .table .implied es)]
    | some (.table .closed _) => none
    | some (.table origin es) =>
      (underHeader change path es).map fun es => replace key (.table origin es) entries
    | some (.tables items) =>
      (changeLast (underHeader change path) items).map fun vs => replace key (.tables vs) entries
    | some _ => none

/-- A header gives a table that has none yet. -/
def addHeader (key : String) (entries : Entries) : Option Entries :=
  match entries.lookup key with
  | none => some (entries ++ [(key, .table .header [])])
  | some (.table .implied es) => some (replace key (.table .header es) entries)
  | some _ => none

/-- A header in double brackets adds a table to a list. -/
def addTable (key : String) (entries : Entries) : Option Entries :=
  match entries.lookup key with
  | none => some (entries ++ [(key, .tables [.table .header []])])
  | some (.tables items) => some (replace key (.tables (items ++ [.table .header []])) entries)
  | some _ => none

/-- An assignment to a dotted key. -/
def assign (v : Toml) : List String → Entries → Option Entries
  | [], _ => none
  | [key], entries => if (entries.lookup key).isSome then none else some (entries ++ [(key, v)])
  | key :: path, entries =>
    match entries.lookup key with
    | none => (assign v path []).map fun es => entries ++ [(key, .table .dotted es)]
    | some (.table .dotted es) =>
      (assign v path es).map fun es => replace key (.table .dotted es) entries
    | some (.table .implied es) =>
      (assign v path es).map fun es => replace key (.table .implied es) entries
    | some _ => none

inductive Statement
  | assignment (path : List String) (value : Toml)
  | header (path : List String)
  | listHeader (path : List String)

/-- The document so far, and the path of the header that assignments stand under. -/
structure Progress where
  entries : Entries := []
  current : List String := []

def Progress.add (p : Progress) : Statement → Option Progress
  | .assignment path v =>
    (underHeader (assign v path) p.current p.entries).map fun es => ⟨es, p.current⟩
  | .header path =>
    path.getLast?.bind fun key =>
      (underHeader (addHeader key) path.dropLast p.entries).map fun es => ⟨es, path⟩
  | .listHeader path =>
    path.getLast?.bind fun key =>
      (underHeader (addTable key) path.dropLast p.entries).map fun es => ⟨es, path⟩

/-- The table that statements add up to. -/
def ofStatements? (statements : List Statement) : Option Toml :=
  (statements.foldlM Progress.add {}).map fun p => .table .header p.entries

end ModelClasses.Toml
