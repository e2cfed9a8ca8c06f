import ModelClasses.Text.CharClass

/-! # Quoted text in messages

How messages quote a string or a character: marks around it, the usual backslash escapes, and
every character that would not be visible written as its code point. -/

namespace ModelClasses.Text

/-- The digits of a number in lower-case hexadecimal, without leading zeros. -/
def hexDigits (n : Nat) : List Char := Nat.toDigits 16 n

def codePointEscape (c : Char) : List Char :=
  '\\' :: 'u' :: '\x7b' :: hexDigits c.toNat ++ ['\x7d']

/-- One character between two marks `mark`; the mark itself is escaped, the other kind of mark
is not. -/
def quotedChars (mark c : Char) : List Char :=
  if c = '\x00' then ['\\', '0']
  else if c = '\t' then ['\\', 't']
  else if c = '\r' then ['\\', 'r']
  else if c = '\n' then ['\\', 'n']
  else if c = '\\' then ['\\', '\\']
  else if c = mark then ['\\', mark]
  else if isGraphemeExtend c || !isPrintable c then codePointEscape c
  else [c]

def quoted (s : String) : String :=
  String.ofList ('"' :: s.toList.flatMap (quotedChars '"') ++ ['"'])

def quotedChar (c : Char) : String :=
  String.ofList ('\'' :: quotedChars '\'' c ++ ['\''])

end ModelClasses.Text
