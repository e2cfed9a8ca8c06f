import ModelClasses.Json.Token

/-! # Reading JSON documents

The tokens of a document are read in one pass, with the containers that are open on a stack. -/

namespace ModelClasses.Json

/-- A container that is open: the items or members before the one being read, the latest first. -/
inductive Frame
  | array (items : List Json)
  | object (members : List (JsonText × Json)) (key : JsonText)

/-- What has been read, and so what may come next. -/
inductive State
  /-- A value is due. -/
  | value (stack : List Frame)
  /-- An array has just been opened: a value or the end of the array is due. -/
  | first (stack : List Frame)
  /-- A value is complete. -/
  | done (stack : List Frame) (v : Json)
  /-- A key is due; right after the opening brace the end of the object may come as well. -/
  | key (stack : List Frame) (members : List (JsonText × Json)) (mayClose : Bool)
  /-- A colon is due. -/
  | colon (stack : List Frame) (members : List (JsonText × Json)) (key : JsonText)

/-- The state after the first token of a value. -/
def beginValue (stack : List Frame) : Token → Option State
  | .null => some (.done stack .null)
  | .bool b => some (.done stack (.bool b))
  | .number n => some (.done stack (.number n))
  | .text s => some (.done stack (.text s))
  | .openArray => some (.first stack)
  | .openObject => some (.key stack [] true)
  | _ => none

def step : State → Token → Option State
  | .value stack, t => beginValue stack t
  | .first stack, .closeArray => some (.done stack (.array []))
  | .first stack, t => beginValue (.array [] :: stack) t
  | .done (.array items :: stack) v, .comma => some (.value (.array (v :: items) :: stack))
  | .done (.array items :: stack) v, .closeArray =>
    some (.done stack (.array (v :: items).reverse))
  | .done (.object members key :: stack) v, .comma =>
    some (.key stack ((key, v) :: members) false)
  | .done (.object members key :: stack) v, .closeObject =>
    some (.done stack (.object ((key, v) :: members).reverse))
  | .key stack members _, .text k => some (.colon stack members k)
  | .key stack _ true, .closeObject => some (.done stack (.object []))
  | .colon stack members k, .colon => some (.value (.object members k :: stack))
  | _, _ => none

def run : State → List Token → Option State
  | s, [] => some s
  | s, t :: rest => (step s t).bind (run · rest)

def ofTokens? (tokens : List Token) : Option Json :=
  match run (.value []) tokens with
  | some (.done [] v) => some v
  | _ => none

/-- The document that a text holds, if it is one. -/
def read? (text : String) : Option Json :=
  (lex text.toList).bind ofTokens?

end ModelClasses.Json
