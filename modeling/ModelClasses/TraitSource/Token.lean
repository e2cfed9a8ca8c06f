/-! # Tokens of trait source

The tokens of source text, with the delimited ones nested, and the text in which tokens are shown:
one space between two tokens, none inside an operator of several characters. -/

namespace ModelClasses.TraitSource

/-- A name; a raw one is written with a mark and may be a keyword. -/
structure Identifier where
  name : String
  raw : Bool := false
deriving DecidableEq, Inhabited

def Identifier.text (i : Identifier) : String := if i.raw then "r#" ++ i.name else i.name

inductive Delimiter
  | parenthesis
  | bracket
  | brace
deriving DecidableEq

inductive TokenTree
  | identifier (i : Identifier)
  | lifetime (i : Identifier)
  /-- A punctuation character; it is `joint` when another one follows directly. -/
  | punct (c : Char) (joint : Bool)
  | literal (text : List Char)
  | group (delimiter : Delimiter) (tokens : List TokenTree)
deriving Inhabited

abbrev Tokens := List TokenTree

namespace TokenTree

def isJoint : TokenTree → Bool
  | punct _ joint => joint
  | _ => false

def openText : Delimiter → List Char
  | .parenthesis => ['(']
  | .bracket => ['[']
  | .brace => ['\x7b', ' ']

/-- The end of a group, which a space parts from the tokens in braces. -/
def closeText (isEmpty : Bool) : Delimiter → List Char
  | .parenthesis => [')']
  | .bracket => [']']
  | .brace => if isEmpty then ['\x7d'] else [' ', '\x7d']

mutual
def chars : TokenTree → List Char
  | identifier i => i.text.toList
  | lifetime i => '\'' :: i.text.toList
  | punct c _ => [c]
  | literal text => text
  | group d tokens => openText d ++ listChars tokens ++ closeText tokens.isEmpty d

def listChars : List TokenTree → List Char
  | [] => []
  | [t] => chars t
  | t :: rest => chars t ++ (if isJoint t then [] else [' ']) ++ listChars rest
end

mutual
/-- The number of tokens, the nested ones included. -/
def size : TokenTree → Nat
  | group _ tokens => listSize tokens + 1
  | _ => 1

def listSize : List TokenTree → Nat
  | [] => 0
  | t :: rest => size t + listSize rest
end

end TokenTree

/-- How tokens are shown. -/
def Tokens.text (ts : Tokens) : String := String.ofList (TokenTree.listChars ts)

end ModelClasses.TraitSource
