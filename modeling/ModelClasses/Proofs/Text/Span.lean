import ModelClasses.Text.CharClass

/-! # Spans of characters of one class

What a reader takes from the front of a text while characters are of a class, when the text is
characters of the class and something that does not start with one. -/

namespace ModelClasses.Text

/-- A text that is empty or starts with a character outside of a class. -/
def Stops (p : Char → Bool) (rest : List Char) : Prop := ∀ c ∈ rest.head?, p c = false

theorem stops_nil (p : Char → Bool) : Stops p [] := by simp [Stops]

theorem stops_cons {p : Char → Bool} {c : Char} {rest : List Char} (h : p c = false) :
    Stops p (c :: rest) := by
  simpa [Stops] using h

theorem stops_dropWhile (p : Char → Bool) (cs : List Char) : Stops p (cs.dropWhile p) := by
  intro c hc
  have outside := List.head?_dropWhile_not p cs
  rw [hc] at outside
  exact outside

theorem Stops.mono {p q : Char → Bool} {rest : List Char} (h : Stops q rest)
    (inside : ∀ c, p c → q c) : Stops p rest :=
  fun c hc => Bool.eq_false_iff.2 fun belongs => Bool.eq_false_iff.1 (h c hc) (inside c belongs)

theorem Stops.takeWhile {p : Char → Bool} {rest : List Char} (h : Stops p rest) :
    rest.takeWhile p = [] := by
  cases rest with
  | nil => rfl
  | cons c rest => simp [h c rfl]

theorem Stops.dropWhile {p : Char → Bool} {rest : List Char} (h : Stops p rest) :
    rest.dropWhile p = rest := by
  cases rest with
  | nil => rfl
  | cons c rest => simp [h c rfl]

theorem takeWhile_append_stops {p : Char → Bool} {cs rest : List Char} (h : ∀ c ∈ cs, p c)
    (hrest : Stops p rest) : (cs ++ rest).takeWhile p = cs := by
  rw [List.takeWhile_append_of_pos h, hrest.takeWhile, List.append_nil]

theorem dropWhile_append_stops {p : Char → Bool} {cs rest : List Char} (h : ∀ c ∈ cs, p c)
    (hrest : Stops p rest) : (cs ++ rest).dropWhile p = rest := by
  rw [List.dropWhile_append_of_pos h, hrest.dropWhile]

theorem exists_replicate_append_dropWhile (c : Char) (cs : List Char) :
    ∃ n, cs = List.replicate n c ++ cs.dropWhile (· == c) := by
  have same : cs.takeWhile (· == c) = List.replicate (cs.takeWhile (· == c)).length c :=
    List.eq_replicate_of_mem fun d hd => beq_iff_eq.1 (List.all_eq_true.1 List.all_takeWhile d hd)
  exact ⟨_, by rw [← same, List.takeWhile_append_dropWhile]⟩

end ModelClasses.Text
