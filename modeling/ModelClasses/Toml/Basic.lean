import ModelClasses.Json.Basic

/-! # TOML documents

The values of a document. A table remembers how it came to be, which decides whether later parts of
the document may add to it. -/

namespace ModelClasses

inductive TableOrigin
  /-- A header names a table below this one. -/
  | implied
  /-- A dotted key names an entry of this table. -/
  | dotted
  /-- The table has a header of its own. -/
  | header
  /-- The table is written in braces. -/
  | closed
deriving DecidableEq

inductive Toml
  | string (value : String)
  | integer (value : Int)
  | bool (value : Bool)
  /-- A number that is no integer, a date or a time. -/
  | scalar (text : List Char)
  | array (items : List Toml)
  /-- The tables of a header in double brackets. -/
  | tables (items : List Toml)
  | table (origin : TableOrigin) (entries : List (String × Toml))

namespace Toml

instance : Inhabited Toml := ⟨.bool false⟩

mutual
/-- The same values as a JSON document; a number that is no integer has no text there. -/
def toJson : Toml → Json
  | string s => .str s
  | integer i => .number (if i < 0 then '-' :: Nat.toDigits 10 i.natAbs else Nat.toDigits 10 i.natAbs)
  | bool b => .bool b
  | scalar _ => .number []
  | array items => .array (listToJson items)
  | tables items => .array (listToJson items)
  | table _ entries => .object (entriesToJson entries)

def listToJson : List Toml → List Json
  | [] => []
  | v :: rest => toJson v :: listToJson rest

def entriesToJson : List (String × Toml) → List (JsonText × Json)
  | [] => []
  | (k, v) :: rest => (some k, toJson v) :: entriesToJson rest
end

end Toml

end ModelClasses
