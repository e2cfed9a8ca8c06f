import ModelClasses.Json.Basic

/-! # Writing JSON documents

Two forms: all on one line, and spread over indented lines. -/

namespace ModelClasses.Json

def hexChar (n : Nat) : Char := Nat.digitChar n

/-- Controls have escapes, and so do the quote and the backslash. -/
def escapeChar (c : Char) : List Char :=
  if c = '"' then ['\\', '"']
  else if c = '\\' then ['\\', '\\']
  else if c = '\x08' then ['\\', 'b']
  else if c = '\x0c' then ['\\', 'f']
  else if c = '\n' then ['\\', 'n']
  else if c = '\r' then ['\\', 'r']
  else if c = '\t' then ['\\', 't']
  else if c.toNat < 0x20 then ['\\', 'u', '0', '0', hexChar (c.toNat / 16), hexChar (c.toNat % 16)]
  else [c]

/-- A text that is no sequence of characters is written as the replacement character. -/
def writeText (content : JsonText) : List Char :=
  '"' :: ((content.getD "\ufffd").toList.flatMap escapeChar) ++ ['"']

mutual
/-- A document on one line, without spaces. -/
def compact : Json → List Char
  | .null => ['n', 'u', 'l', 'l']
  | .bool b => if b then ['t', 'r', 'u', 'e'] else ['f', 'a', 'l', 's', 'e']
  | .number n => n
  | .text s => writeText s
  | .array items => '[' :: compactItems items
  | .object members => '\x7b' :: compactMembers members

def compactItems : List Json → List Char
  | [] => [']']
  | [v] => compact v ++ [']']
  | v :: rest => compact v ++ ',' :: compactItems rest

def compactMembers : List (JsonText × Json) → List Char
  | [] => ['\x7d']
  | [(k, v)] => writeText k ++ ':' :: compact v ++ ['\x7d']
  | (k, v) :: rest => writeText k ++ ':' :: compact v ++ ',' :: compactMembers rest
end

def newline (depth : Nat) : List Char := '\n' :: List.replicate (2 * depth) ' '

mutual
/-- A document with each item and member on a line of its own, two spaces deeper than its
container. -/
def pretty (depth : Nat) : Json → List Char
  | .null => ['n', 'u', 'l', 'l']
  | .bool b => if b then ['t', 'r', 'u', 'e'] else ['f', 'a', 'l', 's', 'e']
  | .number n => n
  | .text s => writeText s
  | .array [] => ['[', ']']
  | .array (v :: rest) => '[' :: newline (depth + 1) ++ pretty (depth + 1) v ++ prettyItems depth rest
  | .object [] => ['\x7b', '\x7d']
  | .object ((k, v) :: rest) =>
    '\x7b' :: newline (depth + 1) ++ writeText k ++ ':' :: ' ' :: pretty (depth + 1) v ++
      prettyMembers depth rest

def prettyItems (depth : Nat) : List Json → List Char
  | [] => newline depth ++ [']']
  | v :: rest => ',' :: newline (depth + 1) ++ pretty (depth + 1) v ++ prettyItems depth rest

def prettyMembers (depth : Nat) : List (JsonText × Json) → List Char
  | [] => newline depth ++ ['\x7d']
  | (k, v) :: rest =>
    ',' :: newline (depth + 1) ++ writeText k ++ ':' :: ' ' :: pretty (depth + 1) v ++
      prettyMembers depth rest
end

def compactText (j : Json) : String := String.ofList j.compact

def prettyText (j : Json) : String := String.ofList (j.pretty 0)

end ModelClasses.Json
