import ModelClasses.Json.Basic

/-! # Tokens of JSON documents

The marks, words, numbers and texts that a document consists of. White space between them is
dropped. -/

namespace ModelClasses.Json

inductive Token
  | openArray
  | closeArray
  | openObject
  | closeObject
  | comma
  | colon
  | null
  | bool (value : Bool)
  | number (text : List Char)
  | text (content : JsonText)
deriving DecidableEq

def isSpace (c : Char) : Bool := c == ' ' || c == '\n' || c == '\r' || c == '\t'

def hexDigit? (c : Char) : Option Nat :=
  if c.isDigit then some (c.toNat - '0'.toNat)
  else if 'a' ≤ c ∧ c ≤ 'f' then some (c.toNat - 'a'.toNat + 10)
  else if 'A' ≤ c ∧ c ≤ 'F' then some (c.toNat - 'A'.toNat + 10)
  else none

/-- A part of a text: a character, or the code unit that an escape names. -/
inductive TextPart
  | char (c : Char)
  | unit (code : Nat)

def isHighSurrogate (code : Nat) : Bool := 0xD800 ≤ code && code < 0xDC00

def isLowSurrogate (code : Nat) : Bool := 0xDC00 ≤ code && code < 0xE000

/-- The characters of a text; two code units that form a surrogate pair are one character. -/
def joinParts : List TextPart → Option (List Char)
  | [] => some []
  | .char c :: rest => (joinParts rest).map (c :: ·)
  | .unit high :: .unit low :: rest =>
    if isHighSurrogate high then
      if isLowSurrogate low then
        (joinParts rest).map (Char.ofNat (0x10000 + (high - 0xD800) * 0x400 + (low - 0xDC00)) :: ·)
      else none
    else if isLowSurrogate high then none
    else (joinParts (.unit low :: rest)).map (Char.ofNat high :: ·)
  | .unit code :: rest =>
    if isHighSurrogate code || isLowSurrogate code then none
    else (joinParts rest).map (Char.ofNat code :: ·)

/-- The character that a backslash and `c` stand for. -/
def simpleEscape? (c : Char) : Option Char :=
  if c = '"' ∨ c = '\\' ∨ c = '/' then some c
  else if c = 'b' then some '\x08'
  else if c = 'f' then some '\x0c'
  else if c = 'n' then some '\n'
  else if c = 'r' then some '\r'
  else if c = 't' then some '\t'
  else none

def hexQuad? (a b c d : Char) : Option Nat := do
  let a ← hexDigit? a
  let b ← hexDigit? b
  let c ← hexDigit? c
  let d ← hexDigit? d
  return ((a * 16 + b) * 16 + c) * 16 + d

/-- A part in front of a text that has been read. -/
def addPart (part : TextPart) (read : List TextPart × List Char) : List TextPart × List Char :=
  (part :: read.1, read.2)

/-- The parts of a text up to its closing quote, and what follows the quote. -/
def lexText : List Char → Option (List TextPart × List Char)
  | [] => none
  | '"' :: rest => some ([], rest)
  | '\\' :: 'u' :: a :: b :: c :: d :: rest =>
    match hexQuad? a b c d with
    | some code => (lexText rest).map (addPart (.unit code))
    | none => none
  | '\\' :: e :: rest =>
    match simpleEscape? e with
    | some c => (lexText rest).map (addPart (.char c))
    | none => none
  | c :: rest => if c.toNat < 0x20 then none else (lexText rest).map (addPart (.char c))

theorem addPart_shorter {r : List Char} {p : TextPart} {parts : List TextPart} {rest : List Char}
    (ih : ∀ {parts rest}, lexText r = some (parts, rest) → rest.length < r.length)
    (h : (lexText r).map (addPart p) = some (parts, rest)) : rest.length < r.length := by
  obtain ⟨⟨q, s⟩, hs, h⟩ := Option.map_eq_some_iff.1 h
  simp only [addPart, Prod.mk.injEq] at h
  exact h.2 ▸ ih hs

theorem lexText_shorter {cs : List Char} {parts : List TextPart} {rest : List Char}
    (h : lexText cs = some (parts, rest)) : rest.length < cs.length := by
  fun_induction lexText cs generalizing parts rest with
  | case1 => simp at h
  | case2 r => simp at h; simp [h.2]
  | case3 a b c d r code _ ih => have := addPart_shorter ih h; simp; omega
  | case4 => simp at h
  | case5 e r _ c _ ih => have := addPart_shorter ih h; simp; omega
  | case6 => simp at h
  | case7 => simp at h
  | case8 c r _ _ _ _ ih => have := addPart_shorter ih h; simp; omega

/-- The minus sign of a number, or nothing. -/
def lexMinus : List Char → List Char × List Char
  | '-' :: rest => (['-'], rest)
  | cs => ([], cs)

/-- The digits of a whole part: a single zero, or digits that do not start with zero. -/
def lexWhole : List Char → Option (List Char × List Char)
  | [] => none
  | c :: rest =>
    if c = '0' then some (['0'], rest)
    else if c.isDigit then some (c :: rest.takeWhile Char.isDigit, rest.dropWhile Char.isDigit)
    else none

/-- A point and at least one digit, or nothing. -/
def lexFraction : List Char → Option (List Char × List Char)
  | '.' :: rest =>
    if (rest.takeWhile Char.isDigit).isEmpty then none
    else some ('.' :: rest.takeWhile Char.isDigit, rest.dropWhile Char.isDigit)
  | cs => some ([], cs)

/-- The sign of an exponent, or nothing. -/
def lexSign : List Char → List Char × List Char
  | '+' :: rest => (['+'], rest)
  | '-' :: rest => (['-'], rest)
  | cs => ([], cs)

/-- An exponent mark, an optional sign and at least one digit, or nothing. -/
def lexExponent : List Char → Option (List Char × List Char)
  | [] => some ([], [])
  | c :: rest =>
    if c = 'e' ∨ c = 'E' then
      let signed := lexSign rest
      if (signed.2.takeWhile Char.isDigit).isEmpty then none
      else some (c :: signed.1 ++ signed.2.takeWhile Char.isDigit,
        signed.2.dropWhile Char.isDigit)
    else some ([], c :: rest)

def lexNumber (cs : List Char) : Option (List Char × List Char) := do
  let (whole, afterWhole) ← lexWhole (lexMinus cs).2
  let (fraction, afterFraction) ← lexFraction afterWhole
  let (exponent, rest) ← lexExponent afterFraction
  return ((lexMinus cs).1 ++ whole ++ fraction ++ exponent, rest)

theorem length_dropWhile_le (p : Char → Bool) (cs : List Char) :
    (cs.dropWhile p).length ≤ cs.length :=
  (List.dropWhile_suffix p).length_le

theorem lexMinus_length_le (cs : List Char) : (lexMinus cs).2.length ≤ cs.length := by
  unfold lexMinus
  split <;> simp

theorem lexSign_length_le (cs : List Char) : (lexSign cs).2.length ≤ cs.length := by
  unfold lexSign
  split <;> simp

theorem lexWhole_shorter {cs text rest : List Char} (h : lexWhole cs = some (text, rest)) :
    rest.length < cs.length := by
  unfold lexWhole at h
  split at h
  · simp at h
  · split at h
    · simp at h; simp [← h.2]
    · split at h
      · simp at h; rw [← h.2]; exact Nat.lt_succ_of_le (length_dropWhile_le _ _)
      · simp at h

theorem lexFraction_length_le {cs text rest : List Char}
    (h : lexFraction cs = some (text, rest)) : rest.length ≤ cs.length := by
  unfold lexFraction at h
  split at h
  · split at h
    · simp at h
    · simp at h; rw [← h.2]; exact Nat.le_succ_of_le (length_dropWhile_le _ _)
  · simp at h; simp [← h.2]

theorem lexExponent_length_le {cs text rest : List Char}
    (h : lexExponent cs = some (text, rest)) : rest.length ≤ cs.length := by
  unfold lexExponent at h
  split at h
  · simp at h; simp [← h.2]
  · next c r =>
    split at h
    · simp only at h
      split at h
      · simp at h
      · simp at h; rw [← h.2]
        exact Nat.le_succ_of_le (Nat.le_trans (length_dropWhile_le _ _) (lexSign_length_le r))
    · simp at h; simp [← h.2]

theorem lexNumber_shorter {cs text rest : List Char} (h : lexNumber cs = some (text, rest)) :
    rest.length < cs.length := by
  simp only [lexNumber, Option.bind_eq_bind, Option.bind_eq_some_iff] at h
  obtain ⟨⟨a, r⟩, h₁, ⟨b, s⟩, h₂, ⟨c, t⟩, h₃, h⟩ := h
  simp at h
  rw [← h.2]
  exact Nat.lt_of_le_of_lt (Nat.le_trans (lexExponent_length_le h₃) (lexFraction_length_le h₂))
    (Nat.lt_of_lt_of_le (lexWhole_shorter h₁) (lexMinus_length_le cs))

/-- The words of a document. -/
def lexWord : List Char → Option (Token × List Char)
  | 'n' :: 'u' :: 'l' :: 'l' :: rest => some (.null, rest)
  | 't' :: 'r' :: 'u' :: 'e' :: rest => some (.bool true, rest)
  | 'f' :: 'a' :: 'l' :: 's' :: 'e' :: rest => some (.bool false, rest)
  | _ => none

theorem lexWord_shorter {cs rest : List Char} {t : Token} (h : lexWord cs = some (t, rest)) :
    rest.length < cs.length := by
  unfold lexWord at h
  split at h <;> simp at h <;> simp [← h.2] <;> omega

/-- The marks of a document. -/
def mark? (c : Char) : Option Token :=
  if c = '[' then some .openArray
  else if c = ']' then some .closeArray
  else if c = '\x7b' then some .openObject
  else if c = '\x7d' then some .closeObject
  else if c = ',' then some .comma
  else if c = ':' then some .colon
  else none

/-- The token that a text without white space in front starts with. -/
def lexOne : List Char → Option (Token × List Char)
  | [] => none
  | c :: rest =>
    match mark? c with
    | some t => some (t, rest)
    | none =>
      if c = '"' then
        (lexText rest).map fun r => (.text ((joinParts r.1).map String.ofList), r.2)
      else if c = '-' ∨ c.isDigit then
        (lexNumber (c :: rest)).map fun r => (.number r.1, r.2)
      else lexWord (c :: rest)

theorem lexOne_shorter {cs rest : List Char} {t : Token} (h : lexOne cs = some (t, rest)) :
    rest.length < cs.length := by
  unfold lexOne at h
  split at h
  · simp at h
  · split at h
    · simp at h; simp [← h.2]
    · split at h
      · simp only [Option.map_eq_some_iff, Prod.mk.injEq] at h
        obtain ⟨⟨p, s⟩, hs, _, rfl⟩ := h
        exact Nat.lt_succ_of_lt (lexText_shorter hs)
      · split at h
        · simp only [Option.map_eq_some_iff, Prod.mk.injEq] at h
          obtain ⟨⟨p, s⟩, hs, _, rfl⟩ := h
          exact lexNumber_shorter hs
        · exact lexWord_shorter h

/-- The tokens of a text. -/
def lex (cs : List Char) : Option (List Token) :=
  match _hs : cs.dropWhile isSpace with
  | [] => some []
  | c :: after =>
    match _ho : lexOne (c :: after) with
    | none => none
    | some (t, rest) => (lex rest).map (t :: ·)
termination_by cs.length
decreasing_by
  have shorter := lexOne_shorter _ho
  have spaces := length_dropWhile_le isSpace cs
  rw [_hs] at spaces
  omega

end ModelClasses.Json
