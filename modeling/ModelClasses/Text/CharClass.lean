import ModelClasses.Text.Alphabetic
import ModelClasses.Text.Numeric
import ModelClasses.Text.GraphemeExtend
import ModelClasses.Text.Unprintable
import ModelClasses.Text.IdentifierStart
import ModelClasses.Text.IdentifierContinue

/-! # Character classes

The Unicode classes that names, literals and quoted text are made of. ASCII is decided without the
tables; the tables hold the rest, as of version 16 of Unicode. -/

namespace ModelClasses.Text

def isAscii (c : Char) : Bool := c.toNat < 0x80

/-- The controls are U+0000 to U+001F and U+007F to U+009F. -/
def isControl (c : Char) : Bool :=
  c.toNat < 0x20 || (0x7F ≤ c.toNat && c.toNat < 0xA0)

def isAlphabetic (c : Char) : Bool :=
  if isAscii c then c.isAlpha else alphabeticRanges.contains c

def isNumeric (c : Char) : Bool :=
  if isAscii c then c.isDigit else numericRanges.contains c

def isAlphanumeric (c : Char) : Bool :=
  isAlphabetic c || isNumeric c

/-- The characters with the Unicode property White_Space. -/
def isBlank (c : Char) : Bool :=
  [(0x9, 0xD), (0x20, 0x20), (0x85, 0x85), (0xA0, 0xA0), (0x1680, 0x1680), (0x2000, 0x200A),
    (0x2028, 0x2029), (0x202F, 0x202F), (0x205F, 0x205F), (0x3000, 0x3000)].any
    fun r => r.1 ≤ c.toNat && c.toNat ≤ r.2

def isGraphemeExtend (c : Char) : Bool :=
  !isAscii c && graphemeExtendRanges.contains c

def isPrintable (c : Char) : Bool :=
  if isAscii c then !isControl c else !unprintableRanges.contains c

def startsIdentifier (c : Char) : Bool :=
  if isAscii c then c.isAlpha || c == '_' else identifierStartRanges.contains c

def continuesIdentifier (c : Char) : Bool :=
  if isAscii c then c.isAlphanum || c == '_' else identifierContinueRanges.contains c

end ModelClasses.Text
