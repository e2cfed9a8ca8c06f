import ModelClasses.Toml.Scalar
import ModelClasses.Toml.Table

/-! # Reading TOML documents -/

namespace ModelClasses.Toml

def skipSpaces (cs : List Char) : List Char := cs.dropWhile isLineSpace

def isBareKeyChar (c : Char) : Bool := c.isAlphanum || c == '_' || c == '-'

def readSimpleKey (cs : List Char) : Scan String :=
  match cs with
  | '"' :: _ => readLineText cs
  | '\'' :: _ => readLineText cs
  | cs =>
    let name := cs.takeWhile isBareKeyChar
    if name.isEmpty then none else some (String.ofList name, cs.dropWhile isBareKeyChar)

/-- Keys with dots between them. Each takes one from `fuel`. -/
def readKey : Nat → List Char → Scan (List String)
  | 0, _ => none
  | fuel + 1, cs =>
    match readSimpleKey cs with
    | none => none
    | some (key, rest) =>
      match skipSpaces rest with
      | '.' :: after => (readKey fuel (skipSpaces after)).map fun r => (key :: r.1, r.2)
      | _ => some ([key], skipSpaces rest)

/-- The text after a comment, which ends with its line. -/
def skipComment : List Char → Option (List Char)
  | [] => some []
  | '\n' :: rest => some ('\n' :: rest)
  | '\r' :: '\n' :: rest => some ('\r' :: '\n' :: rest)
  | c :: rest => if isForbidden c then none else skipComment rest

/-- The text after blanks, comments and line ends. -/
def skipLines : Nat → List Char → Option (List Char)
  | 0, _ => none
  | fuel + 1, cs =>
    match skipSpaces cs with
    | '#' :: rest => (skipComment rest).bind (skipLines fuel)
    | '\n' :: rest => skipLines fuel rest
    | '\r' :: '\n' :: rest => skipLines fuel rest
    | rest => some rest

mutual
/-- A value. What is nested and what follows takes one from `fuel`. -/
def readValue : Nat → List Char → Scan Toml
  | 0, _ => none
  | fuel + 1, cs =>
    match cs with
    | '"' :: _ => (readText cs).map fun r => (.string r.1, r.2)
    | '\'' :: _ => (readText cs).map fun r => (.string r.1, r.2)
    | '[' :: rest => (readItems fuel rest).map fun r => (.array r.1, r.2)
    | '\x7b' :: rest =>
      match skipSpaces rest with
      | '\x7d' :: after => some (.table .closed [], after)
      | inner => (readMembers fuel [] inner).map fun r => (.table .closed r.1, r.2)
    | cs => (scalar? (spanScalar cs).1).map fun v => (v, (spanScalar cs).2)

/-- The items of an array; a comma may stand after the last one. -/
def readItems : Nat → List Char → Scan (List Toml)
  | 0, _ => none
  | fuel + 1, cs =>
    match skipLines fuel cs with
    | none => none
    | some (']' :: after) => some ([], after)
    | some item =>
      match readValue fuel item with
      | none => none
      | some (v, rest) =>
        match skipLines fuel rest with
        | some (',' :: more) => (readItems fuel more).map fun r => (v :: r.1, r.2)
        | some (']' :: after) => some ([v], after)
        | _ => none

/-- The assignments in braces, on one line. -/
def readMembers : Nat → Entries → List Char → Scan Entries
  | 0, _, _ => none
  | fuel + 1, entries, cs =>
    match readKey fuel cs with
    | some (path, '=' :: rest) =>
      match readValue fuel (skipSpaces rest) with
      | none => none
      | some (v, rest) =>
        match assign v path entries with
        | none => none
        | some entries =>
          match skipSpaces rest with
          | ',' :: more => readMembers fuel entries (skipSpaces more)
          | '\x7d' :: after => some (entries, after)
          | _ => none
    | _ => none
end

/-- A header or an assignment. -/
def readStatement (fuel : Nat) : List Char → Scan Statement
  | '[' :: '[' :: rest =>
    match readKey fuel (skipSpaces rest) with
    | some (path, ']' :: ']' :: after) => some (.listHeader path, after)
    | _ => none
  | '[' :: rest =>
    match readKey fuel (skipSpaces rest) with
    | some (path, ']' :: after) => some (.header path, after)
    | _ => none
  | cs =>
    match readKey fuel cs with
    | some (path, '=' :: rest) =>
      (readValue fuel (skipSpaces rest)).map fun r => (.assignment path r.1, r.2)
    | _ => none

/-- After a statement its line holds at most a comment. -/
def endStatement (cs : List Char) : Option (List Char) :=
  match skipSpaces cs with
  | [] => some []
  | '#' :: rest => skipComment rest
  | '\n' :: rest => some rest
  | '\r' :: '\n' :: rest => some rest
  | _ => none

def readStatements : Nat → List Char → Option (List Statement)
  | 0, _ => none
  | fuel + 1, cs =>
    match skipLines (fuel + 1) cs with
    | none => none
    | some [] => some []
    | some line => do
      let (statement, rest) ← readStatement fuel line
      let rest ← endStatement rest
      let more ← readStatements fuel rest
      return statement :: more

/-- Every step takes at least a character, so twice the length is fuel enough. -/
def fuelFor (text : String) : Nat := 2 * text.length + 4

/-- A byte order mark in front of a document is no part of it. -/
def dropMark : List Char → List Char
  | c :: rest => if c = '\ufeff' then rest else c :: rest
  | [] => []

/-- The table that a document holds, if it is well formed. -/
def read? (text : String) : Option Toml :=
  (readStatements (fuelFor text) (dropMark text.toList)).bind ofStatements?

end ModelClasses.Toml
