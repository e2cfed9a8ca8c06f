import ModelClasses.Proofs.Literal.Cursor
import ModelClasses.Proofs.Literal.Exact

/-! # What an error says of a text

A fault holds the part of the text behind the place where it is found. A text ends too early only
if more of it would be read, and a literal stands in front of trailing input. -/

namespace ModelClasses

/-- What an error says: where it has an offset, so many bytes stand in front of what it is about. -/
def LiteralError.PointsInto (g : Option DeclarationGraph) (t : String) : LiteralError → Prop
  | .unexpectedEnd => ∃ more : String, more ≠ "" ∧ ∃ v, Literal.read g (t ++ more).toList = .ok v
  | .unexpectedChar n c =>
    ∃ before after : String, t = before ++ String.singleton c ++ after ∧ before.utf8ByteSize = n
  | .invalidEscape n => ∃ before after : String, t = before ++ "\\" ++ after ∧ before.utf8ByteSize = n
  | .invalidNumber run => run ≠ "" ∧ ∃ before after : String, t = before ++ run ++ after
  | .trailingInput n =>
    0 < n ∧ n < t.utf8ByteSize ∧ ∃ before after : String, t = before ++ after ∧
      before.utf8ByteSize = n ∧ ∃ v, Literal.read g before.toList = .ok v

namespace Literal

open Text

/-- A number is the same in front of the end of its array or of the whole text. -/
theorem NumberText.of_delimited {rest rest' text : List Char} {v : AnnotationValue}
    (h : NumberText rest text v) (delimited : Delimited rest') : NumberText rest' text v := by
  have longest (run : List Char) : Longest run rest' := fun last _ => delimited.endsNumber last
  cases h with
  | float hr hm shown => exact .float hr hm shown
  | double hr _ _ fractional shown =>
    exact .double hr (longest _) delimited.unmarked fractional shown
  | integer hr _ _ whole shown => exact .integer hr (longest _) delimited.unmarked whole shown

theorem NameText.of_delimited {g : Option DeclarationGraph} {rest rest' text : List Char}
    {v : AnnotationValue} (h : NameText g rest text v) (delimited : Delimited rest') :
    NameText g rest' text v := by
  have unmarked := classMark?_eq_none_iff.1 delimited.classMark?
  cases h with
  | class_ hn => exact .class_ hn
  | word h _ _ => exact .word h delimited.stopsName unmarked
  | constant hn free _ _ => exact .constant hn free delimited.stopsName unmarked

theorem delimited_cons {c : Char} (h : c = ',' ∨ c = ']') (rest : List Char) :
    Delimited (c :: rest) := by
  rintro d ⟨⟩
  exact h

mutual
/-- What denotes a value in front of some text denotes it as an item and by itself. -/
theorem Denotes.of_delimited {g : Option DeclarationGraph} {rest rest' text : List Char}
    {v : AnnotationValue} (h : Denotes g rest text v) (delimited : Delimited rest') :
    Denotes g rest' text v := by
  cases h with
  | emptyArray => exact .emptyArray
  | array h => exact .array (h.anywhere rest')
  | string h => exact .string h
  | char h => exact .char h
  | number h => exact .number (h.of_delimited delimited)
  | name h => exact .name (h.of_delimited delimited)

/-- Items end with a bracket, so that nothing behind them matters. -/
theorem DenoteItems.anywhere {g : Option DeclarationGraph} {rest text : List Char}
    {items : List AnnotationValue} (h : DenoteItems g rest text items) (rest' : List Char) :
    DenoteItems g rest' text items := by
  cases h with
  | last h => exact .last (h.of_delimited (delimited_cons (.inr rfl) _))
  | comma n first others =>
    exact .comma n (first.of_delimited (delimited_cons (.inl rfl) _)) (others.anywhere rest')
end

/-- What a fault says of the text in which it is found: the text can be completed, or it ends with
what the fault holds, or a number stands in it. -/
def Fault.Explains (cs : List Char) (completable : Prop) : Fault → Prop
  | .ended => completable
  | .unexpected c after => c :: after <:+ cs
  | .escape rest => rest.head? = some '\\' ∧ rest <:+ cs
  | .number run => run ≠ [] ∧ run <:+: cs

theorem Fault.Explains.of_suffix {cs ds : List Char} {p q : Prop} {e : Fault} (h : e.Explains ds p)
    (suffix : ds <:+ cs) (completes : p → q) : e.Explains cs q := by
  cases e with
  | ended => exact completes h
  | unexpected c after => exact List.IsSuffix.trans h suffix
  | escape rest => exact ⟨h.1, h.2.trans suffix⟩
  | number run => exact ⟨h.1, h.2.trans suffix.isInfix⟩

theorem readEscape_error {cs : List Char} {e : Fault} (h : readEscape cs = .error e) :
    e.Explains ('\\' :: cs) (cs = []) := by
  unfold readEscape at h
  split at h
  · cases h
    rfl
  · split at h
    · cases h
    · cases h
      exact ⟨rfl, List.suffix_rfl⟩
  · split at h
    · cases h
    · cases h
      exact ⟨rfl, List.suffix_rfl⟩

theorem escapeText_newline : EscapeText ['n'] '\n' := .letter (by simp)

theorem readText_error {cs : List Char} {e : Fault} (h : readText cs = .error e) :
    e.Explains cs (∃ more chars, QuotedText (cs ++ more) chars) := by
  fun_induction readText cs with
  | case1 =>
    cases h
    exact ⟨[], [], .nil⟩
  | case2 => cases h
  | case3 escaped f found =>
    cases h
    apply (readEscape_error found).of_suffix List.suffix_rfl
    rintro rfl
    have quoted : QuotedText ('\\' :: (['n'] ++ [])) ['\n'] := .escape escapeText_newline .nil
    exact ⟨['n'], ['\n'], quoted⟩
  | case4 escaped c rest found ih =>
    obtain ⟨text, rfl, escape⟩ := readEscape_eq_ok_iff.1 found
    apply (ih (map_eq_error_iff.1 h)).of_suffix
      ((List.suffix_append text rest).trans (List.suffix_cons _ _))
    rintro ⟨more, chars, quoted⟩
    exact ⟨more, c :: chars, by simpa using QuotedText.escape escape quoted⟩
  | case5 c rest noQuote noBackslash ih =>
    apply (ih (map_eq_error_iff.1 h)).of_suffix (List.suffix_cons c rest)
    rintro ⟨more, chars, quoted⟩
    exact ⟨more, c :: chars, .plain (by simpa using noQuote) (by simpa using noBackslash) quoted⟩

theorem expect_error {expected : Char} {cs : List Char} {e : Fault}
    (h : expect expected cs = .error e) : e.Explains cs (cs = []) := by
  cases cs with
  | nil =>
    cases h
    rfl
  | cons c rest =>
    rw [expect] at h
    split at h
    · cases h
    · cases h
      exact List.suffix_rfl

theorem readChar_error {cs : List Char} {e : Fault} (h : readChar cs = .error e) :
    e.Explains cs (∃ more c, QuotedChar (cs ++ more) c) := by
  unfold readChar at h
  split at h
  · cases h
    exact ⟨['a'], 'a', .plain (by decide)⟩
  · rename_i escaped
    cases first : readEscape escaped with
    | error f =>
      rw [first] at h
      cases h
      apply (readEscape_error first).of_suffix List.suffix_rfl
      rintro rfl
      exact ⟨['n'], '\n', .escape escapeText_newline⟩
    | ok r =>
      obtain ⟨c, rest⟩ := r
      rw [first] at h
      obtain ⟨text, rfl, escape⟩ := readEscape_eq_ok_iff.1 first
      apply (expect_error (map_eq_error_iff.1 h)).of_suffix
        ((List.suffix_append text rest).trans (List.suffix_cons _ _))
      rintro rfl
      exact ⟨[], c, by simpa using QuotedChar.escape escape⟩
  · rename_i c rest noBackslash
    apply (expect_error (map_eq_error_iff.1 h)).of_suffix (List.suffix_cons c rest)
    rintro rfl
    exact ⟨[], c, .plain (by simpa using noBackslash)⟩

theorem orNumber_error {run rest : List Char} {found : Option AnnotationValue} {e : Fault}
    (h : orNumber run found rest = .error e) : e = .number run := by
  cases found with
  | none => exact (Except.error.inj h).symm
  | some v => cases h

theorem readNumber_error {cs : List Char} (starts : StartsNumber cs) {e : Fault}
    (h : readNumber cs = .error e) : e.Explains cs False := by
  obtain ⟨run, after, span⟩ : ∃ run after, spanSigned cs = (run, after) := ⟨_, _, rfl⟩
  obtain ⟨rfl, hr, -⟩ := (spanSigned_eq_iff starts).1 span
  have number : e = .number run := by
    unfold readNumber at h
    rw [span] at h
    dsimp only at h
    split at h
    · exact orNumber_error h
    · exact orNumber_error h
    · split at h <;> exact orNumber_error h
  rw [number]
  obtain ⟨_, _⟩ := hr
  exact ⟨List.cons_ne_nil _ _, (List.prefix_append _ after).isInfix⟩

theorem readName_ne_error {g : Option DeclarationGraph} {cs : List Char} {e : Fault} :
    readName g cs ≠ .error e := by
  unfold readName
  dsimp only
  split
  · simp
  · split <;> simp

/-- More text makes a literal of a text, whatever follows. -/
def Completable (g : Option DeclarationGraph) (cs : List Char) : Prop :=
  ∃ more v, more ≠ [] ∧ ∀ rest, Denotes g rest (cs ++ more) v

def CompletableItems (g : Option DeclarationGraph) (cs : List Char) : Prop :=
  ∃ more items, more ≠ [] ∧ ∀ rest, DenoteItems g rest (cs ++ more) items

theorem CompletableItems.array {g : Option DeclarationGraph} {cs : List Char}
    (h : CompletableItems g cs) : Completable g ('[' :: cs) := by
  obtain ⟨more, items, nonempty, denotes⟩ := h
  exact ⟨more, .array items, nonempty, fun rest => .array (denotes rest)⟩

/-- An item is completed, and then the array is closed. -/
theorem Completable.last {g : Option DeclarationGraph} {cs : List Char} (h : Completable g cs) :
    CompletableItems g cs := by
  obtain ⟨more, v, -, denotes⟩ := h
  refine ⟨more ++ [']'], [v], by simp, fun rest => ?_⟩
  rw [← List.append_assoc]
  exact .last (denotes (']' :: rest))

/-- An array is closed behind its last item. -/
theorem Denotes.completable_last {g : Option DeclarationGraph} {text : List Char}
    {v : AnnotationValue} (h : Denotes g [] text v) : CompletableItems g text :=
  ⟨[']'], [v], by simp, fun rest => .last (h.of_delimited (delimited_cons (.inr rfl) rest))⟩

theorem CompletableItems.comma {g : Option DeclarationGraph} {rest text later : List Char}
    {v : AnnotationValue} (n : ℕ) (first : Denotes g rest text v) (h : CompletableItems g later) :
    CompletableItems g (text ++ ',' :: (List.replicate n ' ' ++ later)) := by
  obtain ⟨more, items, nonempty, denotes⟩ := h
  refine ⟨more, v :: items, nonempty, fun rest => ?_⟩
  have separated := first.of_delimited
    (delimited_cons (.inl rfl) (List.replicate n ' ' ++ (later ++ more ++ rest)))
  simpa using DenoteItems.comma n separated (denotes rest)

section

variable {g : Option DeclarationGraph} {fuel : ℕ} {cs : List Char} {e : Fault}

theorem readValue_error_step
    (later : ∀ {cs e}, readItems g fuel cs = .error e → 2 * cs.length + 2 ≤ fuel →
      e.Explains cs (CompletableItems g cs))
    (h : readValue g (fuel + 1) cs = .error e) (hf : 2 * cs.length + 1 ≤ fuel + 1) :
    e.Explains cs (Completable g cs) := by
  rw [readValue.eq_def] at h
  dsimp only at h
  split at h
  · cases h
    exact ⟨['[', ']'], .array [], by simp, fun rest => .emptyArray⟩
  · cases h
  · rename_i rest _
    rw [List.length_cons] at hf
    exact (later (map_eq_error_iff.1 h) (by omega)).of_suffix (List.suffix_cons '[' rest)
      CompletableItems.array
  · rename_i rest
    apply (readText_error (map_eq_error_iff.1 h)).of_suffix (List.suffix_cons '"' rest)
    rintro ⟨more, chars, quoted⟩
    exact ⟨more ++ ['"'], _, by simp, fun after => by simpa using Denotes.string quoted⟩
  · rename_i rest
    apply (readChar_error (map_eq_error_iff.1 h)).of_suffix (List.suffix_cons '\'' rest)
    rintro ⟨more, c, quoted⟩
    exact ⟨more ++ ['\''], _, by simp, fun after => by simpa using Denotes.char quoted⟩
  · rename_i c rest _ _ _ _
    split at h
    · rename_i starts
      have front : StartsNumber (c :: rest) := starts
      exact (readNumber_error front h).of_suffix List.suffix_rfl False.elim
    split at h
    · exact absurd h readName_ne_error
    · cases h
      exact List.suffix_rfl

theorem readItems_error_step
    (value : ∀ {cs e}, readValue g fuel cs = .error e → 2 * cs.length + 1 ≤ fuel →
      e.Explains cs (Completable g cs))
    (later : ∀ {cs e}, readItems g fuel cs = .error e → 2 * cs.length + 2 ≤ fuel →
      e.Explains cs (CompletableItems g cs))
    (h : readItems g (fuel + 1) cs = .error e) (hf : 2 * cs.length + 2 ≤ fuel + 1) :
    e.Explains cs (CompletableItems g cs) := by
  rw [readItems] at h
  split at h
  · rename_i first
    cases h
    exact (value first (by omega)).of_suffix List.suffix_rfl Completable.last
  · rename_i first
    cases h
    obtain ⟨text, rfl, denotes⟩ := (read_sound g fuel).1 first
    rw [List.append_nil]
    exact denotes.completable_last
  · cases h
  · rename_i v after first
    obtain ⟨text, rfl, denotes⟩ := (read_sound g fuel).1 first
    obtain ⟨n, spaces⟩ := exists_replicate_append_dropWhile ' ' after
    have shorter : (after.dropWhile (· == ' ')).length ≤ after.length :=
      (List.dropWhile_suffix _).length_le
    rw [List.length_append, List.length_cons] at hf
    apply (later (map_eq_error_iff.1 h) (by omega)).of_suffix
    · exact (List.dropWhile_suffix _).trans
        ((List.suffix_cons ',' after).trans (List.suffix_append text _))
    · intro completable
      have all := completable.comma n denotes
      rwa [← spaces] at all
  · rename_i c after _ _ first
    cases h
    obtain ⟨text, rfl, -⟩ := (read_sound g fuel).1 first
    exact List.suffix_append text _

end

/-- The induction is on the fuel. What is left of it is enough for the text that is left, so that it
never ends before the text does. -/
theorem read_error (g : Option DeclarationGraph) (fuel : ℕ) :
    (∀ {cs e}, readValue g fuel cs = .error e → 2 * cs.length + 1 ≤ fuel →
      e.Explains cs (Completable g cs)) ∧
    (∀ {cs e}, readItems g fuel cs = .error e → 2 * cs.length + 2 ≤ fuel →
      e.Explains cs (CompletableItems g cs)) := by
  induction fuel with
  | zero => exact ⟨fun _ hf => absurd hf (by omega), fun _ hf => absurd hf (by omega)⟩
  | succ fuel ih => exact ⟨readValue_error_step ih.2, readItems_error_step ih.1 ih.2⟩

theorem utf8Length_eq (cs : List Char) : utf8Length cs = (String.ofList cs).utf8ByteSize := by
  induction cs with
  | nil => rfl
  | cons c cs ih =>
    rw [utf8Length, ih, String.ofList_cons, String.utf8ByteSize_append, String.utf8ByteSize_singleton]

theorem offset_append (before rest : List Char) :
    offset (before ++ rest) rest = (String.ofList before).utf8ByteSize := by
  rw [offset, utf8Length_append, Nat.add_sub_cancel, utf8Length_eq]

theorem Fault.Explains.pointsInto {g : Option DeclarationGraph} {cs : List Char} {e : Fault}
    (h : e.Explains cs (Completable g cs)) : (e.toError cs).PointsInto g (String.ofList cs) := by
  cases e with
  | ended =>
    obtain ⟨more, v, nonempty, denotes⟩ := h
    refine ⟨String.ofList more, by simpa using nonempty, v, read_eq_ok_iff.2 ?_⟩
    simpa using denotes []
  | unexpected c after =>
    obtain ⟨before, rfl⟩ := h
    refine ⟨String.ofList before, String.ofList after, ?_, (offset_append before _).symm⟩
    rw [String.ofList_append, String.ofList_cons, String.append_assoc]
  | escape rest =>
    obtain ⟨backslash, before, rfl⟩ := h
    obtain ⟨after, rfl⟩ := List.head?_eq_some_iff.1 backslash
    refine ⟨String.ofList before, String.ofList after, ?_, (offset_append before _).symm⟩
    rw [String.ofList_append, String.ofList_cons, String.append_assoc]
    rfl
  | number run =>
    obtain ⟨nonempty, before, after, rfl⟩ := h
    refine ⟨by simpa using nonempty, String.ofList before, String.ofList after, ?_⟩
    rw [String.ofList_append, String.ofList_append]

/-- What stands in front of trailing input is a literal by itself. -/
theorem Denotes.pointsInto {g : Option DeclarationGraph} {c : Char} {text rest : List Char}
    {v : AnnotationValue} (h : Denotes g (c :: rest) text v) :
    (LiteralError.trailingInput (offset (text ++ c :: rest) (c :: rest))).PointsInto g
      (String.ofList (text ++ c :: rest)) := by
  have alone : read g text = .ok v := read_eq_ok_iff.2 (h.of_delimited delimited_nil)
  have length := offset_append text (c :: rest)
  have whole : (String.ofList (text ++ c :: rest)).utf8ByteSize =
      utf8Length text + utf8Length (c :: rest) := by
    rw [← utf8Length_eq, utf8Length_append]
  have some : 0 < utf8Length text := Nat.pos_of_ne_zero fun zero =>
    h.ne_nil (utf8Length_eq_zero_iff.1 zero)
  have behind : 0 < utf8Length (c :: rest) := Nat.pos_of_ne_zero fun zero =>
    List.cons_ne_nil c rest (utf8Length_eq_zero_iff.1 zero)
  refine ⟨?_, ?_, String.ofList text, String.ofList (c :: rest), String.ofList_append, length.symm,
    v, by rwa [String.toList_ofList]⟩
  · rwa [length, ← utf8Length_eq]
  · rw [length, ← utf8Length_eq, whole]
    omega

theorem read_error_points {g : Option DeclarationGraph} {cs : List Char} {e : LiteralError}
    (h : read g cs = .error e) : e.PointsInto g (String.ofList cs) := by
  rw [read] at h
  split at h
  · rename_i f fails
    cases h
    exact ((read_error g (fuelFor cs)).1 fails (by rw [fuelFor]; omega)).pointsInto
  · cases h
  · rename_i v rest nonempty reads
    cases h
    obtain ⟨text, rfl, denotes⟩ := (read_sound g _).1 reads
    cases rest with
    | nil => exact (nonempty rfl).elim
    | cons c rest => exact denotes.pointsInto

end Literal

/-- Reading by byte offsets never takes a text apart inside a character, and what an error says of
the text is so. -/
theorem AnnotationValue.parse_error_points (g : Option DeclarationGraph) (t : String) :
    Literal.Cursor.read t.toList g = (Literal.read g t.toList).mapError .fault ∧
      ∀ e, Literal.read g t.toList = .error e → e.PointsInto g t := by
  refine ⟨Literal.Cursor.read_eq g t.toList, fun e h => ?_⟩
  have points := Literal.read_error_points h
  rwa [String.ofList_toList] at points

/-- A fault behind a wide character, an escape that is none, a literal with more behind it, digits
without an exponent, and a text whose quote and bracket are missing. -/
theorem AnnotationValue.parse_error_points_wide :
    (LiteralError.unexpectedChar 5 ';').PointsInto none "[\"é\"; 2]" ∧
      (LiteralError.invalidEscape 4).PointsInto none "[\"é\\q\"]" ∧
      (LiteralError.trailingInput 4).PointsInto none "'é'é" ∧
      (LiteralError.invalidNumber "1e").PointsInto none "[1e]" ∧
      LiteralError.unexpectedEnd.PointsInto none "[\"é" := by
  have fails {t : String} {e : LiteralError}
      (h : failure? (Literal.read none t.toList) = some e) : e.PointsInto none t :=
    (parse_error_points none t).2 e (failure?_eq_some_iff.1 h)
  refine ⟨fails ?_, fails ?_, fails ?_, fails ?_, fails ?_⟩ <;> decide +kernel

end ModelClasses
