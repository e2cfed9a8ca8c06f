import ModelClasses.Annotations
import ModelClasses.Decimal.Word

/-! # Literals

The source text of a value. Texts and characters are escaped so that they stay on one line and hold
no template; numbers without digits have named constants; a reference to anything but an enum
constant is a class literal. -/

namespace ModelClasses

open Decimal

namespace Literal

/-- The names that stand for values. -/
def reserved : List (List Char × AnnotationValue) := [
  ("true".toList, .bool true),
  ("false".toList, .bool false),
  ("Float.NaN".toList, .float .nan),
  ("Float.POSITIVE_INFINITY".toList, .float (.infinite false)),
  ("Float.NEGATIVE_INFINITY".toList, .float (.infinite true)),
  ("Double.NaN".toList, .double .nan),
  ("Double.POSITIVE_INFINITY".toList, .double (.infinite false)),
  ("Double.NEGATIVE_INFINITY".toList, .double (.infinite true)),
  ("Long.MIN_VALUE".toList, .integer Int64.minValue)]

def upperHexDigit (n : Nat) : Char := (Nat.digitChar n).toUpper

/-- Four hexadecimal digits. -/
def hexQuad (n : Nat) : List Char :=
  [upperHexDigit (n / 0x1000 % 16), upperHexDigit (n / 0x100 % 16), upperHexDigit (n / 0x10 % 16),
    upperHexDigit (n % 16)]

/-- A character as it stands between quotes of one kind. Only a text can hold a template, which a
dollar sign opens. -/
def escape (quote c : Char) : List Char :=
  if c = '\\' then ['\\', '\\']
  else if c = '\n' then ['\\', 'n']
  else if c = '\r' then ['\\', 'r']
  else if c = '\t' then ['\\', 't']
  else if c = '\x08' then ['\\', 'b']
  else if c = '$' ∧ quote = '"' then ['\\', '$']
  else if c = quote then ['\\', quote]
  else if Text.isControl c then '\\' :: 'u' :: hexQuad c.toNat
  else [c]

def ofString (s : String) : List Char := '"' :: s.toList.flatMap (escape '"') ++ ['"']

def ofChar (c : Char) : List Char := '\'' :: escape '\'' c ++ ['\'']

/-- The smallest integer has no digits, because a literal's minus sign is no part of its digits. -/
def ofInteger (i : Int64) : List Char :=
  if i = Int64.minValue then "Long.MIN_VALUE".toList else Layout.intText i.toInt

/-- The text of a number whose width has constants under `name` and digits with `mark` behind. -/
def ofBinary {w : Width} (name mark : List Char) : Binary w → List Char
  | .nan => name ++ ".NaN".toList
  | .infinite false => name ++ ".POSITIVE_INFINITY".toList
  | .infinite true => name ++ ".NEGATIVE_INFINITY".toList
  | .finite n s e h => Layout.literal.render (.finite n s e h) ++ mark

def ofReference (r : Reference) : List Char :=
  r.qualifiedName.toList ++ if r.kind = .enumConstant then [] else "::class".toList

mutual
def render : AnnotationValue → List Char
  | .bool b => if b then "true".toList else "false".toList
  | .integer i => ofInteger i
  | .float x => ofBinary "Float".toList ['F'] x
  | .double x => ofBinary "Double".toList [] x
  | .string s => ofString s
  | .char c => ofChar c
  | .reference r => ofReference r
  | .array [] => ['[', ']']
  | .array (v :: rest) => '[' :: render v ++ renderRest rest
  | .unsupported s => s.toList

/-- The items of an array after its first one, and its end. -/
def renderRest : List AnnotationValue → List Char
  | [] => [']']
  | v :: rest => ',' :: ' ' :: render v ++ renderRest rest
end

end Literal

def AnnotationValue.literal (v : AnnotationValue) : String := String.ofList (Literal.render v)

end ModelClasses
