/-! # JSON documents

A document as it is written: numbers keep their text, and an object keeps its members in order,
repeated ones included. -/

namespace ModelClasses

/-- A text of a document; `none` when one of its escapes is half of a surrogate pair, so that it is
no sequence of characters. -/
abbrev JsonText := Option String

inductive Json
  | null
  | bool (value : Bool)
  | number (text : List Char)
  | text (content : JsonText)
  | array (items : List Json)
  | object (members : List (JsonText × Json))

namespace Json

instance : Inhabited Json := ⟨null⟩

def str (s : String) : Json := .text (some s)

def record (members : List (String × Json)) : Json :=
  .object (members.map fun m => (some m.1, m.2))

end Json

end ModelClasses
