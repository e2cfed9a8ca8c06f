import ModelClasses.Json.Token
import ModelClasses.Json.Writer

/-! # Texts in documents

Every character of a text is written as itself or as one escape, and is read from what is written as one
part: a control that has no letter is the code unit of its escape, which is no half of a surrogate pair,
and everything else is a character. -/

namespace ModelClasses.Json

/-- What is read for a character that has been written. -/
def partOf (c : Char) : TextPart :=
  if c.toNat < 0x20 ∧ c ∉ ['\x08', '\x0c', '\n', '\r', '\t'] then .unit c.toNat else .char c

theorem hexQuad?_control {n : Nat} (h : n < 0x20) :
    hexQuad? '0' '0' (hexChar (n / 16)) (hexChar (n % 16)) = some n := by
  revert n
  decide

theorem lexText_escapeChar (c : Char) (rest : List Char) :
    lexText (escapeChar c ++ rest) = (lexText rest).map (addPart (partOf c)) := by
  unfold escapeChar
  -- the quote, the backslash and the controls that have letters
  iterate 7 (split; · subst_vars; rfl)
  split
  · rename_i control
    have part : partOf c = .unit c.toNat := by simp_all [partOf]
    simp only [List.cons_append, List.nil_append, lexText, hexQuad?_control control, part]
  · rename_i plain
    have part : partOf c = .char c := by simp [partOf, plain]
    rw [List.singleton_append, lexText, if_neg plain, part] <;> simp_all

theorem lexText_flatMap (cs rest : List Char) :
    lexText (cs.flatMap escapeChar ++ '"' :: rest) = some (cs.map partOf, rest) := by
  induction cs with
  | nil => rfl
  | cons c cs ih =>
    rw [List.flatMap_cons, List.append_assoc, lexText_escapeChar, ih]
    rfl

theorem joinParts_cons (c : Char) (parts : List TextPart) :
    joinParts (partOf c :: parts) = (joinParts parts).map (c :: ·) := by
  by_cases h : c.toNat < 0x20 ∧ c ∉ ['\x08', '\x0c', '\n', '\r', '\t']
  · -- a control is no half of a pair, whatever stands behind it
    have high : isHighSurrogate c.toNat = false := by simp [isHighSurrogate]; omega
    have low : isLowSurrogate c.toNat = false := by simp [isLowSurrogate]; omega
    rw [partOf, if_pos h]
    rcases parts with _ | ⟨_ | _, parts⟩
    all_goals simp [joinParts, high, low]
  · rw [partOf, if_neg h]
    rfl

theorem joinParts_map (cs : List Char) : joinParts (cs.map partOf) = some cs := by
  induction cs with
  | nil => rfl
  | cons c cs ih =>
    rw [List.map_cons, joinParts_cons, ih]
    rfl

theorem lexOne_writeText (s : String) (rest : List Char) :
    lexOne (writeText (some s) ++ rest) = some (.text (some s), rest) := by
  have text : writeText (some s) ++ rest = '"' :: (s.toList.flatMap escapeChar ++ '"' :: rest) := by
    simp [writeText]
  rw [text, lexOne, lexText_flatMap]
  simp [mark?, joinParts_map]

end ModelClasses.Json
