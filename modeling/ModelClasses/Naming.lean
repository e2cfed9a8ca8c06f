import ModelClasses.Text.CaseMapping

/-! # Names

Qualified names are segments joined by dots: the last segment is the simple name, the others are
the package. -/

namespace ModelClasses.Naming

open Text

/-- The first character in lower case, the others as they are. -/
def decapitalize (s : String) : String :=
  match s.toList with
  | [] => ""
  | c :: rest => String.ofList (lowerCase c ++ rest)

/-- Camel case of the characters that remain: underscores are dropped, and the character after one
is raised unless nothing has been written yet. -/
def camelChars (started raise : Bool) : List Char → List Char
  | [] => []
  | c :: rest =>
    if c = '_' then camelChars started started rest
    else if raise then upperCase c ++ camelChars true false rest
    else c :: camelChars true false rest

def toCamelCase (s : String) : String :=
  String.ofList (camelChars false false s.toList)

/-- The characters after the last dot, if there is a dot, and those before it. -/
def splitLastDot (cs : List Char) : Option (List Char × List Char) :=
  match cs.reverse.dropWhile (· != '.') with
  | [] => none
  | _ :: before => some (before.reverse, (cs.reverse.takeWhile (· != '.')).reverse)

def simpleName (qualified : String) : String :=
  match splitLastDot qualified.toList with
  | none => qualified
  | some (_, name) => String.ofList name

def packageOf (qualified : String) : String :=
  match splitLastDot qualified.toList with
  | none => ""
  | some (package, _) => String.ofList package

/-- In the empty package a name stands for itself. -/
def qualify (package name : String) : String :=
  if package.isEmpty then name else package ++ "." ++ name

/-- The parts of a text between its dots; a text without a dot is one segment. -/
def dotSegments : List Char → List (List Char)
  | [] => [[]]
  | c :: rest =>
    if c = '.' then [] :: dotSegments rest
    else
      match dotSegments rest with
      | [] => [[c]]
      | segment :: more => (c :: segment) :: more

end ModelClasses.Naming
