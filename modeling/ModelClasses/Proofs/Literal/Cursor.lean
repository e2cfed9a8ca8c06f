import ModelClasses.Proofs.Literal.Grammar

/-! # Reading with a cursor

A cursor is the number of bytes in front of it. It moves by the bytes of a character or by one, and
the text is taken apart where it stands, which fails inside a character. Reading in this way never
fails so: it finds the values, the faults and their offsets that reading characters finds. -/

namespace ModelClasses.Literal

theorem utf8Length_append (cs ds : List Char) :
    utf8Length (cs ++ ds) = utf8Length cs + utf8Length ds := by
  induction cs with
  | nil => simp [utf8Length]
  | cons c cs ih => simp [utf8Length, ih, Nat.add_assoc]

theorem utf8Length_eq_zero_iff {cs : List Char} : utf8Length cs = 0 ↔ cs = [] := by
  cases cs with
  | nil => simp [utf8Length]
  | cons c cs =>
    have := c.utf8Size_pos
    simp [utf8Length]
    omega

theorem utf8Size_of_lt {c : Char} (h : c.toNat < 0x80) : c.utf8Size = 1 := by
  rw [Char.utf8Size_eq_one_iff, UInt32.le_iff_toNat_le]
  have : c.val.toNat = c.toNat := rfl
  have : (127 : UInt32).toNat = 127 := rfl
  omega

theorem utf8Size_of_isDigit {c : Char} (h : c.isDigit) : c.utf8Size = 1 :=
  utf8Size_of_lt (Nat.lt_of_le_of_lt (Char.isDigit_iff_toNat.1 h).2 (by decide))

theorem utf8Size_of_hexValue? {c : Char} {d : ℕ} (h : hexValue? c = some d) : c.utf8Size = 1 := by
  rw [hexValue?] at h
  split at h
  · rename_i digit
    exact utf8Size_of_isDigit digit
  split at h
  · rename_i letter
    have bound : c.toNat ≤ 'f'.toNat := letter.2
    exact utf8Size_of_lt (Nat.lt_of_le_of_lt bound (by decide))
  split at h
  · rename_i letter
    have bound : c.toNat ≤ 'F'.toNat := letter.2
    exact utf8Size_of_lt (Nat.lt_of_le_of_lt bound (by decide))
  · cases h

theorem utf8Length_of_hexNumber? {ds : List Char} {m code : ℕ} (h : hexNumber? m ds = some code) :
    utf8Length ds = ds.length := by
  induction ds generalizing m with
  | nil => rfl
  | cons c ds ih =>
    obtain ⟨d, value, later⟩ := hexNumber?_cons_iff.1 h
    rw [utf8Length, utf8Size_of_hexValue? value, ih later, List.length_cons, Nat.add_comm]

theorem utf8Size_of_continuesNumber {last c : Char} (h : continuesNumber last c) : c.utf8Size = 1 := by
  simp only [continuesNumber, Bool.or_eq_true, Bool.and_eq_true, beq_iff_eq] at h
  rcases h with (((digit | rfl) | rfl) | rfl) | ⟨rfl | rfl, -⟩
  · exact utf8Size_of_isDigit digit
  all_goals decide

theorem readEscape_noCode {rest : List Char} (h : ∀ a b c d after code,
    rest = a :: b :: c :: d :: after → escapeCode? a b c d ≠ some code) :
    readEscape ('u' :: rest) = .error (.escape ('\\' :: 'u' :: rest)) := by
  unfold readEscape
  split
  · rename_i same
    cases same
  · rename_i a b c d after same
    cases same
    rw [Option.eq_none_iff_forall_ne_some.2 fun code => h a b c d after code rfl]
    rfl
  · rename_i same
    cases same
    rfl

theorem readEscape_letter {e : Char} (hu : e ≠ 'u') (rest : List Char) :
    readEscape (e :: rest) =
      match simpleEscape? e with
      | some c => .ok (c, rest)
      | none => .error (.escape ('\\' :: e :: rest)) := by
  unfold readEscape
  split
  · rename_i same
    cases same
  · rename_i same
    cases same
    exact absurd rfl hu
  · rename_i same
    cases same
    cases simpleEscape? e <;> rfl

theorem isPrefixOf_classMark {rest : List Char} :
    "::class".toList.isPrefixOf rest = (classMark? rest).isSome := by
  rw [Bool.eq_iff_iff, List.isPrefixOf_iff_prefix, Option.isSome_iff_ne_none, Ne,
    classMark?_eq_none_iff, not_not]

/-- Behind an item stands a comma or the end of the array. -/
theorem readItems_other {g : Option DeclarationGraph} {fuel : ℕ} {c : Char} {cs after : List Char}
    {v : AnnotationValue} (first : readValue g fuel cs = .ok (v, c :: after))
    (closed : c ≠ ']') (comma : c ≠ ',') :
    readItems g (fuel + 1) cs = .error (.unexpected c after) := by
  rw [readItems, first]
  split <;> simp_all

namespace Cursor

open Decimal

/-- What stops a cursor. -/
inductive Stop
  | fault (e : LiteralError)
  /-- The text is taken apart inside a character or outside of it. -/
  | cut

/-- A text taken apart behind so many bytes. -/
def splitBytes? : ℕ → List Char → Option (List Char × List Char)
  | n, [] => if n = 0 then some ([], []) else none
  | n, c :: cs =>
    if n = 0 then some ([], c :: cs)
    else if c.utf8Size ≤ n then (splitBytes? (n - c.utf8Size) cs).map fun p => (c :: p.1, p.2)
    else none

/-- The text from one byte to another. -/
def slice? (text : List Char) (first last : ℕ) : Option (List Char) :=
  if first ≤ last then
    (splitBytes? first text).bind fun p => (splitBytes? (last - first) p.2).map Prod.fst
  else none

theorem splitBytes?_eq_some_iff {n : ℕ} {cs before rest : List Char} :
    splitBytes? n cs = some (before, rest) ↔ cs = before ++ rest ∧ utf8Length before = n := by
  induction cs generalizing n before with
  | nil =>
    rw [splitBytes?]
    split
    · simp_all [eq_comm (a := ([] : List Char)), utf8Length_eq_zero_iff]
    · rename_i hn
      simp only [reduceCtorEq, false_iff, not_and]
      intro none length
      rw [List.nil_eq_append_iff] at none
      exact hn (by rw [← length, none.1, utf8Length])
  | cons c cs ih =>
    have positive := c.utf8Size_pos
    rw [splitBytes?]
    split
    · rename_i hn
      rw [hn, utf8Length_eq_zero_iff]
      constructor
      · rintro ⟨⟩
        exact ⟨rfl, rfl⟩
      · rintro ⟨split, rfl⟩
        rw [split, List.nil_append]
    · rename_i hn
      cases before with
      | nil =>
        have other : 0 ≠ n := fun zero => hn zero.symm
        split <;> simp [utf8Length, other]
      | cons d before =>
        split
        · rename_i fits
          rw [Option.map_eq_some_iff]
          constructor
          · rintro ⟨⟨before, rest⟩, found, ⟨⟩⟩
            obtain ⟨rfl, length⟩ := ih.1 found
            refine ⟨rfl, ?_⟩
            rw [utf8Length, length]
            omega
          · rintro ⟨split, length⟩
            cases split
            rw [utf8Length] at length
            exact ⟨(before, rest), ih.2 ⟨rfl, by omega⟩, rfl⟩
        · rename_i wide
          simp only [reduceCtorEq, false_iff, not_and]
          rintro split length
          cases split
          rw [utf8Length] at length
          omega

def orCut {α : Type} : Option α → Except Stop α
  | some x => .ok x
  | none => .error .cut

section

variable (text : List Char)

def peek (n : ℕ) : Except Stop (Option Char) := (orCut (splitBytes? n text)).map fun p => p.2.head?

variable {text} in
theorem lt_of_peek {n : ℕ} {c : Char} (h : peek text n = .ok (some c)) : n < utf8Length text := by
  obtain ⟨⟨before, rest⟩, split, first⟩ := map_eq_ok_iff.1 h
  cases found : splitBytes? n text with
  | none =>
    rw [found] at split
    cases split
  | some p =>
    rw [found] at split
    cases split
    obtain ⟨rfl, rfl⟩ := splitBytes?_eq_some_iff.1 found
    obtain ⟨tail, rfl⟩ := List.head?_eq_some_iff.1 first
    have := c.utf8Size_pos
    rw [utf8Length_append, utf8Length]
    omega

def next (n : ℕ) : Except Stop (Char × ℕ) := do
  match ← peek text n with
  | none => .error (.fault .unexpectedEnd)
  | some c => .ok (c, n + c.utf8Size)

variable {text} in
theorem lt_of_next {n m : ℕ} {c : Char} (h : next text n = .ok (c, m)) :
    n < m ∧ n < utf8Length text := by
  obtain ⟨first, found, rest⟩ := bind_eq_ok_iff.1 h
  cases first with
  | none => cases rest
  | some d =>
    cases rest
    exact ⟨Nat.lt_add_of_pos_right (Char.utf8Size_pos _), lt_of_peek found⟩

def expect (expected : Char) (n : ℕ) : Except Stop ℕ := do
  let (c, m) ← next text n
  if c = expected then .ok m else .error (.fault (.unexpectedChar n c))

/-- The number that hexadecimal digits denote; a plus sign may stand in front. -/
def hexCode? : List Char → Option ℕ
  | [] => none
  | ['+'] => none
  | '+' :: ds => hexNumber? 0 ds
  | ds => hexNumber? 0 ds

/-- The character of an escape; the cursor is behind the backslash. -/
def readEscape (n : ℕ) : Except Stop (Char × ℕ) := do
  let (e, m) ← next text n
  let found :=
    if e = 'u' then
      (((slice? text m (m + 4)).bind hexCode?).bind scalar?).map fun c => (c, m + 4)
    else (simpleEscape? e).map fun c => (c, m)
  match found with
  | some r => .ok r
  | none => .error (.fault (.invalidEscape (n - 1)))

variable {text} in
theorem lt_of_readEscape {n m : ℕ} {c : Char} (h : readEscape text n = .ok (c, m)) : n < m := by
  obtain ⟨⟨e, k⟩, first, rest⟩ := bind_eq_ok_iff.1 h
  have := (lt_of_next first).1
  dsimp only at rest
  split at rest
  · rename_i found
    cases rest
    split at found
    · obtain ⟨x, -, ⟨⟩⟩ := Option.map_eq_some_iff.1 found
      omega
    · obtain ⟨x, -, ⟨⟩⟩ := Option.map_eq_some_iff.1 found
      omega
  · cases rest

/-- Where the characters end that a test lets pass; the cursor moves by `width` for each. -/
def skipWhile (goesOn : ℕ → Char → Except Stop Bool) (width : Char → ℕ) (wide : ∀ c, 0 < width c)
    (n : ℕ) : Except Stop ℕ :=
  match _h : peek text n with
  | .error e => .error e
  | .ok none => .ok n
  | .ok (some c) =>
    match goesOn n c with
    | .error e => .error e
    | .ok false => .ok n
    | .ok true => skipWhile goesOn width wide (n + width c)
termination_by utf8Length text - n
decreasing_by
  have := wide c
  have := lt_of_peek _h
  omega

/-- The characters of a text up to its closing quote. -/
def readText (n : ℕ) : Except Stop (List Char × ℕ) :=
  match _h : next text n with
  | .error e => .error e
  | .ok ('"', m) => .ok ([], m)
  | .ok ('\\', m) =>
    match _h' : readEscape text m with
    | .error e => .error e
    | .ok (c, k) => (readText k).map fun r => (c :: r.1, r.2)
  | .ok (c, m) => (readText m).map fun r => (c :: r.1, r.2)
termination_by utf8Length text - n
decreasing_by
  · have := lt_of_next _h
    have := lt_of_readEscape _h'
    omega
  · have := lt_of_next _h
    omega

def readChar (n : ℕ) : Except Stop (Char × ℕ) := do
  let (first, m) ← next text n
  let (c, k) ← if first = '\\' then readEscape text m else .ok (first, m)
  let stop ← expect text '\'' k
  .ok (c, stop)

/-- Whether a number goes on with a character; a sign needs an exponent mark in front. -/
def goesOnNumber (n : ℕ) (c : Char) : Except Stop Bool :=
  if c = '+' ∨ c = '-' then
    (orCut (slice? text 0 n)).map fun before =>
      before.getLast? == some 'e' || before.getLast? == some 'E'
  else .ok (c.isDigit || c == '.' || c == 'e' || c == 'E')

def orNumber (run : List Char) (found : Option AnnotationValue) (n : ℕ) :
    Except Stop (AnnotationValue × ℕ) :=
  match found with
  | some v => .ok (v, n)
  | none => .error (.fault (.invalidNumber (String.ofList run)))

def readNumber (n : ℕ) : Except Stop (AnnotationValue × ℕ) := do
  let unsigned := if (← peek text n) = some '-' then n + 1 else n
  let stop ← skipWhile text (goesOnNumber text) (fun _ => 1) (fun _ => Nat.one_pos) unsigned
  let run ← orCut (slice? text n stop)
  let mark ← peek text stop
  if mark = some 'F' ∨ mark = some 'f' then
    orNumber run ((Binary.read? .single run).map .float) (stop + 1)
  else if isFractional run then orNumber run ((Binary.read? .double run).map .double) stop
  else orNumber run ((readLong? run).map .integer) stop

def readName (g : Option DeclarationGraph) (n : ℕ) : Except Stop (AnnotationValue × ℕ) := do
  let stop ← skipWhile text (fun _ c => .ok (continuesName c)) Char.utf8Size Char.utf8Size_pos n
  let name ← orCut (slice? text n stop)
  let (_, rest) ← orCut (splitBytes? stop text)
  if "::class".toList.isPrefixOf rest then
    .ok (reference g name .class_, stop + utf8Length "::class".toList)
  else .ok ((reserved.lookup name).getD (reference g name .enumConstant), stop)

mutual
/-- A value in front of which the cursor stands; `fuel` is spent as by the reader of characters. -/
def readValue (g : Option DeclarationGraph) : ℕ → ℕ → Except Stop (AnnotationValue × ℕ)
  | 0, _ => .error (.fault .unexpectedEnd)
  | fuel + 1, n => do
    match ← peek text n with
    | none => .error (.fault .unexpectedEnd)
    | some '[' =>
      let m ← expect text '[' n
      if (← peek text m) = some ']' then .ok (.array [], m + 1)
      else
        let (items, k) ← readItems g fuel m
        .ok (.array items, k)
    | some '"' =>
      let m ← expect text '"' n
      let (cs, k) ← readText text m
      .ok (.string (String.ofList cs), k)
    | some '\'' =>
      let m ← expect text '\'' n
      let (c, k) ← readChar text m
      .ok (.char c, k)
    | some c =>
      if c = '-' ∨ c.isDigit then readNumber text n
      else if startsName c then readName text g n
      else .error (.fault (.unexpectedChar n c))

def readItems (g : Option DeclarationGraph) : ℕ → ℕ → Except Stop (List AnnotationValue × ℕ)
  | 0, _ => .error (.fault .unexpectedEnd)
  | fuel + 1, n => do
    let (v, m) ← readValue g fuel n
    let (c, k) ← next text m
    if c = ']' then .ok ([v], k)
    else if c = ',' then
      let due ← skipWhile text (fun _ c => .ok (c == ' ')) (fun _ => 1) (fun _ => Nat.one_pos) k
      let (items, stop) ← readItems g fuel due
      .ok (v :: items, stop)
    else .error (.fault (.unexpectedChar m c))
end

/-- The value that a whole text denotes. -/
def read (g : Option DeclarationGraph) : Except Stop AnnotationValue := do
  let (v, n) ← readValue text g (fuelFor text) 0
  if n < utf8Length text then .error (.fault (.trailingInput n)) else .ok v

end

/-- The cursor stands in a text in front of a part that ends it. -/
def At (text : List Char) (n : ℕ) (rest : List Char) : Prop :=
  ∃ before, text = before ++ rest ∧ utf8Length before = n

section

variable {text rest : List Char} {n : ℕ}

theorem At.split (h : At text n rest) : ∃ before, splitBytes? n text = some (before, rest) := by
  obtain ⟨before, parts, length⟩ := h
  exact ⟨before, splitBytes?_eq_some_iff.2 ⟨parts, length⟩⟩

theorem At.offset (h : At text n rest) : offset text rest = n := by
  obtain ⟨before, rfl, rfl⟩ := h
  rw [Literal.offset, utf8Length_append]
  omega

theorem At.append {run : List Char} (h : At text n (run ++ rest)) :
    At text (n + utf8Length run) rest := by
  obtain ⟨before, rfl, rfl⟩ := h
  exact ⟨before ++ run, by rw [List.append_assoc], utf8Length_append before run⟩

theorem At.tail {c : Char} (h : At text n (c :: rest)) : At text (n + c.utf8Size) rest := by
  have front : At text n ([c] ++ rest) := h
  exact front.append

theorem At.slice_eq (h : At text n rest) (k : ℕ) :
    slice? text n (n + k) = (splitBytes? k rest).map Prod.fst := by
  obtain ⟨before, found⟩ := h.split
  rw [slice?, if_pos (Nat.le_add_right n k), found, Option.bind_some, Nat.add_sub_cancel_left]

theorem At.slice {run : List Char} (h : At text n (run ++ rest)) :
    slice? text n (n + utf8Length run) = some run := by
  have parts : splitBytes? (utf8Length run) (run ++ rest) = some (run, rest) :=
    splitBytes?_eq_some_iff.2 ⟨rfl, rfl⟩
  rw [h.slice_eq, parts]
  rfl

theorem At.peek (h : At text n rest) : peek text n = .ok rest.head? := by
  obtain ⟨before, found⟩ := h.split
  rw [Cursor.peek, found]
  rfl

theorem At.next {c : Char} (h : At text n (c :: rest)) : next text n = .ok (c, n + c.utf8Size) := by
  rw [Cursor.next, h.peek]
  rfl

theorem At.next_end (h : At text n []) : Cursor.next text n = .error (.fault .unexpectedEnd) := by
  rw [Cursor.next, h.peek]
  rfl

end

/-- The cursor finds what the reader of characters finds: a thing that is read and what is left
behind it, or a fault. -/
inductive Tracks (text : List Char) {α : Type} : Except Stop (α × ℕ) → Read α → Prop
  | ok {x : α} {n : ℕ} {rest : List Char} (h : At text n rest) :
      Tracks text (.ok (x, n)) (.ok (x, rest))
  | error (f : Fault) : Tracks text (.error (.fault (f.toError text))) (.error f)

section

variable {text : List Char} {α β : Type} {a : Except Stop (α × ℕ)} {b : Read α}

theorem Tracks.of_ok {x : α} {rest : List Char} (h : Tracks text a (.ok (x, rest))) :
    ∃ n, a = .ok (x, n) ∧ At text n rest := by
  cases h with
  | ok stands => exact ⟨_, rfl, stands⟩

theorem Tracks.of_error {f : Fault} (h : Tracks text a (.error f)) :
    a = .error (.fault (f.toError text)) := by
  cases h
  rfl

theorem Tracks.map (f : α → β) (h : Tracks text a b) :
    Tracks text (a.map fun r => (f r.1, r.2)) (b.map fun r => (f r.1, r.2)) := by
  cases h with
  | ok stands => exact .ok stands
  | error f => exact .error f

end

section

variable {text rest : List Char} {n : ℕ}

theorem expect_at {α : Type} (x : α) (expected : Char) (h : At text n rest) :
    Tracks text ((expect text expected n).map fun m => (x, m))
      ((Literal.expect expected rest).map fun after => (x, after)) := by
  cases rest with
  | nil =>
    rw [expect, h.next_end]
    exact .error .ended
  | cons c rest =>
    rw [expect, h.next, Literal.expect]
    dsimp only [bind, Except.bind]
    split
    · exact .ok h.tail
    · rw [← h.offset]
      exact .error (.unexpected c rest)

theorem expect_self {c : Char} (h : At text n (c :: rest)) : expect text c n = .ok (n + c.utf8Size) := by
  rw [expect, h.next]
  dsimp only [bind, Except.bind]
  rw [if_pos rfl]

theorem utf8Length_of_hexCode? {ds : List Char} {code : ℕ} (h : hexCode? ds = some code) :
    utf8Length ds = ds.length := by
  unfold hexCode? at h
  split at h
  · cases h
  · cases h
  · rw [utf8Length, utf8Length_of_hexNumber? h, List.length_cons, Nat.add_comm]
    rfl
  · exact utf8Length_of_hexNumber? h

theorem hexCode?_eq_escapeCode? (a b c d : Char) : hexCode? [a, b, c, d] = escapeCode? a b c d := by
  by_cases sign : a = '+'
  · subst sign
    rfl
  · rw [escapeCode?, if_neg sign, hexCode?]
    all_goals simp_all

/-- Four bytes that hold a number are four characters. -/
theorem hexCode?_slice_iff {code : ℕ} (h : At text n rest) :
    (slice? text n (n + 4)).bind hexCode? = some code ↔
      ∃ a b c d after, rest = a :: b :: c :: d :: after ∧ escapeCode? a b c d = some code := by
  rw [h.slice_eq, Option.bind_eq_some_iff]
  constructor
  · rintro ⟨ds, part, value⟩
    obtain ⟨⟨_, after⟩, found, rfl⟩ := Option.map_eq_some_iff.1 part
    obtain ⟨rfl, four⟩ := splitBytes?_eq_some_iff.1 found
    rw [utf8Length_of_hexCode? value] at four
    obtain ⟨a, b, c, d, rfl⟩ := List.length_eq_four.1 four
    exact ⟨a, b, c, d, after, rfl, by rwa [← hexCode?_eq_escapeCode?]⟩
  · rintro ⟨a, b, c, d, after, rfl, value⟩
    rw [← hexCode?_eq_escapeCode?] at value
    have parts : splitBytes? 4 (a :: b :: c :: d :: after) = some ([a, b, c, d], after) :=
      splitBytes?_eq_some_iff.2 ⟨rfl, utf8Length_of_hexCode? value⟩
    exact ⟨[a, b, c, d], by rw [parts]; rfl, value⟩

theorem readEscape_at (h : At text n ('\\' :: rest)) :
    Tracks text (readEscape text (n + 1)) (Literal.readEscape rest) := by
  have behind : At text (n + 1) rest := h.tail
  cases rest with
  | nil =>
    rw [readEscape, behind.next_end]
    exact .error .ended
  | cons e rest =>
    have fault : @Tracks text Char (.error (.fault (.invalidEscape (n + 1 - 1))))
        (.error (.escape ('\\' :: e :: rest))) := by
      rw [Nat.add_sub_cancel, ← h.offset]
      exact .error (.escape ('\\' :: e :: rest))
    rw [readEscape, behind.next]
    dsimp only [bind, Except.bind]
    by_cases hu : e = 'u'
    · subst hu
      rw [if_pos rfl]
      cases held : (slice? text (n + 1 + 'u'.utf8Size) (n + 1 + 'u'.utf8Size + 4)).bind hexCode? with
      | none =>
        rw [readEscape_noCode]
        · exact fault
        · intro a b c d after code' same value
          have some := (hexCode?_slice_iff behind.tail).2 ⟨a, b, c, d, after, same, value⟩
          cases held.symm.trans some
      | some code =>
        obtain ⟨a, b, c, d, after, rfl, value⟩ := (hexCode?_slice_iff behind.tail).1 held
        have places : At text (n + 1 + 'u'.utf8Size) ([a, b, c, d] ++ after) := behind.tail
        have four : utf8Length [a, b, c, d] = 4 := by
          rw [← hexCode?_eq_escapeCode?] at value
          exact utf8Length_of_hexCode? value
        have stop := places.append
        rw [four] at stop
        rw [Literal.readEscape, value]
        dsimp only [Option.bind_some]
        cases scalar? code with
        | none => exact fault
        | some x => exact .ok stop
    · rw [if_neg hu, readEscape_letter hu]
      cases simpleEscape? e with
      | none => exact fault
      | some c => exact .ok behind.tail

theorem readText_next {c : Char} {m : ℕ} (h : next text n = .ok (c, m)) :
    readText text n =
      if c = '"' then .ok ([], m)
      else if c = '\\' then do
        let (x, k) ← readEscape text m
        (readText text k).map fun r => (x :: r.1, r.2)
      else (readText text m).map fun r => (c :: r.1, r.2) := by
  rw [readText]
  split
  · rename_i found
    cases found.symm.trans h
  · rename_i found
    cases found.symm.trans h
    rw [if_pos rfl]
  · rename_i found
    cases found.symm.trans h
    rw [if_neg (by decide), if_pos rfl]
    split <;> simp_all [bind, Except.bind]
  · rename_i noQuote noBackslash found
    cases found.symm.trans h
    rw [if_neg noQuote, if_neg noBackslash]

theorem readText_end (h : At text n []) : readText text n = .error (.fault .unexpectedEnd) := by
  rw [readText]
  split <;> simp_all [h.next_end]

theorem readText_at (h : At text n rest) : Tracks text (readText text n) (Literal.readText rest) := by
  fun_induction Literal.readText rest generalizing n with
  | case1 =>
    rw [readText_end h]
    exact .error .ended
  | case2 rest =>
    rw [readText_next h.next, if_pos rfl]
    exact .ok h.tail
  | case3 escaped f found =>
    have escape : Tracks text (readEscape text (n + '\\'.utf8Size)) (.error f) :=
      found ▸ readEscape_at h
    rw [readText_next h.next, if_neg (by decide), if_pos rfl, escape.of_error]
    exact .error f
  | case4 escaped c rest found ih =>
    have escape : Tracks text (readEscape text (n + '\\'.utf8Size)) (.ok (c, rest)) :=
      found ▸ readEscape_at h
    obtain ⟨m, reads, stands⟩ := escape.of_ok
    rw [readText_next h.next, if_neg (by decide), if_pos rfl, reads]
    exact (ih stands).map (c :: ·)
  | case5 c rest noQuote noBackslash ih =>
    rw [readText_next h.next, if_neg (by simpa using noQuote), if_neg (by simpa using noBackslash)]
    exact (ih h.tail).map (c :: ·)

theorem readChar_at (h : At text n rest) : Tracks text (readChar text n) (Literal.readChar rest) := by
  cases rest with
  | nil =>
    rw [readChar, h.next_end]
    exact .error .ended
  | cons c rest =>
    rw [readChar, h.next]
    dsimp only [bind, Except.bind]
    by_cases escaped : c = '\\'
    · subst escaped
      have escape : Tracks text (readEscape text (n + '\\'.utf8Size)) _ := readEscape_at h
      rw [if_pos rfl]
      cases found : Literal.readEscape rest with
      | error f =>
        rw [found] at escape
        have fails : Literal.readChar ('\\' :: rest) = .error f := by simp [Literal.readChar, found]
        rw [escape.of_error, fails]
        exact .error f
      | ok r =>
        obtain ⟨x, after⟩ := r
        rw [found] at escape
        obtain ⟨m, reads, stands⟩ := escape.of_ok
        have goesOn : Literal.readChar ('\\' :: rest) =
            (Literal.expect '\'' after).map fun later => (x, later) := by simp [Literal.readChar, found]
        rw [reads, goesOn]
        exact expect_at x '\'' stands
    · rw [if_neg escaped, readChar_plain escaped]
      exact expect_at c '\'' h.tail

section

variable {goesOn : ℕ → Char → Except Stop Bool} {width : Char → ℕ} {wide : ∀ c, 0 < width c}

theorem skipWhile_end (h : At text n []) : skipWhile text goesOn width wide n = .ok n := by
  rw [skipWhile]
  split
  · rename_i found
    cases found.symm.trans h.peek
  · rfl
  · rename_i found
    cases found.symm.trans h.peek

theorem skipWhile_cons {c : Char} {goes : Bool} (h : At text n (c :: rest))
    (test : goesOn n c = .ok goes) : skipWhile text goesOn width wide n =
      if goes then skipWhile text goesOn width wide (n + width c) else .ok n := by
  rw [skipWhile]
  split
  · rename_i found
    cases found.symm.trans h.peek
  · rename_i found
    cases found.symm.trans h.peek
  · rename_i found
    cases found.symm.trans h.peek
    rw [test]
    cases goes <;> rfl

/-- A test of single characters is passed over as the reader of characters does. -/
theorem skipWhile_takeWhile {p : Char → Bool} (same : ∀ c, p c → width c = c.utf8Size)
    (h : At text n rest) : skipWhile text (fun _ c => .ok (p c)) width wide n =
      .ok (n + utf8Length (rest.takeWhile p)) := by
  induction rest generalizing n with
  | nil => exact skipWhile_end h
  | cons c rest ih =>
    rw [skipWhile_cons h rfl, List.takeWhile_cons]
    split
    · rename_i belongs
      rw [same c belongs, ih h.tail, utf8Length, Nat.add_assoc]
    · rfl

end

/-- The character before the cursor is the last one of the text in front of it. -/
theorem goesOnNumber_append {before : List Char} {last : Char} (hl : before.getLast? = some last)
    (rest : List Char) (c : Char) :
    goesOnNumber (before ++ rest) (utf8Length before) c = .ok (continuesNumber last c) := by
  have start : At (before ++ rest) 0 (before ++ rest) := ⟨[], rfl, rfl⟩
  have front := start.slice
  rw [Nat.zero_add] at front
  rw [goesOnNumber]
  split
  · rename_i sign
    rw [front]
    rcases sign with rfl | rfl <;> simp [orCut, Except.map, hl, continuesNumber]
  · rename_i noSign
    rw [not_or] at noSign
    simp [continuesNumber, noSign]

/-- The induction is on the text behind the cursor, which moves into the text in front. -/
theorem skipWhile_number {before rest : List Char} {last : Char} (hl : before.getLast? = some last) :
    skipWhile (before ++ rest) (goesOnNumber (before ++ rest)) (fun _ => 1) (fun _ => Nat.one_pos)
        (utf8Length before) =
      .ok (utf8Length before + utf8Length (spanNumber last rest).1) := by
  induction rest generalizing before last with
  | nil => exact skipWhile_end ⟨before, rfl, rfl⟩
  | cons c rest ih =>
    rw [skipWhile_cons ⟨before, rfl, rfl⟩ (goesOnNumber_append hl (c :: rest) c), spanNumber]
    split
    · rename_i continues
      have narrow := utf8Size_of_continuesNumber continues
      have moved : utf8Length (before ++ [c]) = utf8Length before + 1 := by
        rw [utf8Length_append, utf8Length, narrow, utf8Length]
      have concat : (before ++ [c]).getLast? = some c := List.getLast?_concat
      have later := ih concat
      rw [List.append_assoc, List.singleton_append, moved] at later
      rw [later, utf8Length, narrow, Nat.add_assoc]
    · rfl

theorem orNumber_at {run : List Char} {v : Option AnnotationValue} (h : At text n rest) :
    Tracks text (orNumber run v n) (Literal.orNumber run v rest) := by
  cases v with
  | none => exact .error (.number run)
  | some v => exact .ok h

theorem goesOnNumber_digit {c : Char} (h : c.isDigit) : goesOnNumber text n c = .ok true := by
  have noSign : ¬ (c = '+' ∨ c = '-') := by
    rintro (rfl | rfl) <;> cases h
  rw [goesOnNumber, if_neg noSign, h]
  rfl

/-- The cursor passes over a sign or a first digit and then over what a number goes on with. -/
theorem skipWhile_signed {run after : List Char} (h : At text n rest) (starts : StartsNumber rest)
    (span : spanSigned rest = (run, after)) :
    skipWhile text (goesOnNumber text) (fun _ => 1) (fun _ => Nat.one_pos)
        (if rest.head? = some '-' then n + 1 else n) =
      .ok (n + utf8Length run) := by
  cases rest with
  | nil => exact starts.elim
  | cons c rest =>
    rw [spanSigned_cons starts] at span
    cases span
    have narrow : c.utf8Size = 1 := by
      rcases starts with rfl | digit
      · rfl
      · exact utf8Size_of_isDigit digit
    obtain ⟨before, rfl, rfl⟩ := h
    have concat : (before ++ [c]).getLast? = some c := List.getLast?_concat
    have later := @skipWhile_number _ rest _ concat
    have moved : utf8Length (before ++ [c]) = utf8Length before + 1 := by
      rw [utf8Length_append, utf8Length, narrow, utf8Length]
    rw [List.append_assoc, List.singleton_append, moved] at later
    rw [utf8Length, narrow, ← Nat.add_assoc, ← later]
    by_cases sign : c = '-'
    · rw [sign, List.head?_cons, if_pos rfl]
    · have digit := starts.resolve_left sign
      rw [List.head?_cons, if_neg (by simpa using sign),
        skipWhile_cons ⟨before, rfl, rfl⟩ (goesOnNumber_digit digit), if_pos rfl]

theorem readNumber_at (h : At text n rest) (starts : StartsNumber rest) :
    Tracks text (readNumber text n) (Literal.readNumber rest) := by
  obtain ⟨run, after, span⟩ : ∃ run after, spanSigned rest = (run, after) := ⟨_, _, rfl⟩
  obtain ⟨rfl, -, -⟩ := (spanSigned_eq_iff starts).1 span
  have stop : At text (n + utf8Length run) after := h.append
  rw [readNumber, h.peek]
  dsimp only [bind, Except.bind]
  rw [skipWhile_signed h starts span]
  dsimp only
  rw [h.slice]
  dsimp only [orCut]
  rw [stop.peek]
  dsimp only
  by_cases unmarked : ∀ c ∈ after.head?, c ≠ 'F' ∧ c ≠ 'f'
  · have noMark : ¬ (after.head? = some 'F' ∨ after.head? = some 'f') := by
      rintro (mark | mark)
      · exact (unmarked _ mark).1 rfl
      · exact (unmarked _ mark).2 rfl
    rw [if_neg noMark, Literal.readNumber_unmarked unmarked span]
    split <;> exact orNumber_at stop
  · cases after with
    | nil => exact absurd (by simp) unmarked
    | cons mark after =>
      have marked : mark = 'F' ∨ mark = 'f' := by
        simpa [imp_iff_not_or, not_and_or] using unmarked
      have narrow : mark.utf8Size = 1 := by rcases marked with rfl | rfl <;> rfl
      have behind := stop.tail
      rw [narrow] at behind
      rw [List.head?_cons, if_pos (by simpa using marked), Literal.readNumber_marked marked span]
      exact orNumber_at behind

theorem readName_at (g : Option DeclarationGraph) (h : At text n rest) :
    Tracks text (readName text g n) (Literal.readName g rest) := by
  have parts : rest = rest.takeWhile continuesName ++ rest.dropWhile continuesName :=
    List.takeWhile_append_dropWhile.symm
  have spans : skipWhile text (fun _ c => .ok (continuesName c)) Char.utf8Size Char.utf8Size_pos n =
      .ok (n + utf8Length (rest.takeWhile continuesName)) := skipWhile_takeWhile (fun _ _ => rfl) h
  rw [readName, spans]
  dsimp only [bind, Except.bind]
  rw [parts] at h
  obtain ⟨before, front⟩ := h.append.split
  rw [h.slice, front]
  dsimp only [orCut]
  rw [isPrefixOf_classMark]
  unfold Literal.readName
  dsimp only
  cases mark : classMark? (rest.dropWhile continuesName) with
  | some after =>
    have behind := h.append
    rw [classMark?_eq_some_iff.1 mark] at behind
    exact .ok behind.append
  | none =>
    cases found : reserved.lookup (rest.takeWhile continuesName) with
    | some v => exact .ok h.append
    | none => exact .ok h.append

theorem readArray_at (g : Option DeclarationGraph) {fuel : ℕ}
    (later : ∀ {n rest}, At text n rest →
      Tracks text (readItems text g fuel n) (Literal.readItems g fuel rest))
    (h : At text n ('[' :: rest)) :
    Tracks text (readValue text g (fuel + 1) n) (Literal.readValue g (fuel + 1) ('[' :: rest)) := by
  have behind : At text (n + 1) rest := h.tail
  rw [readValue, h.peek]
  dsimp only [List.head?_cons, bind, Except.bind]
  rw [expect_self h]
  dsimp only
  rw [show '['.utf8Size = 1 from rfl, behind.peek]
  dsimp only
  by_cases closed : rest.head? = some ']'
  · obtain ⟨rest, rfl⟩ := List.head?_eq_some_iff.1 closed
    rw [if_pos closed]
    exact .ok behind.tail
  · rw [if_neg closed]
    have opens : Literal.readValue g (fuel + 1) ('[' :: rest) =
        (Literal.readItems g fuel rest).map fun r => (.array r.1, r.2) := by
      rw [Literal.readValue]
      rintro rest rfl
      exact closed rfl
    rw [opens]
    exact (later behind).map AnnotationValue.array

theorem readValue_at_step (g : Option DeclarationGraph) {fuel : ℕ}
    (later : ∀ {n rest}, At text n rest →
      Tracks text (readItems text g fuel n) (Literal.readItems g fuel rest))
    (h : At text n rest) :
    Tracks text (readValue text g (fuel + 1) n) (Literal.readValue g (fuel + 1) rest) := by
  cases rest with
  | nil =>
    rw [readValue, h.peek]
    exact .error .ended
  | cons c rest =>
    by_cases array : c = '['
    · subst array
      exact readArray_at g later h
    by_cases string : c = '"'
    · subst string
      rw [readValue, h.peek, Literal.readValue]
      dsimp only [List.head?_cons, bind, Except.bind]
      rw [expect_self h]
      exact (readText_at h.tail).map fun cs => AnnotationValue.string (String.ofList cs)
    by_cases char : c = '\''
    · subst char
      rw [readValue, h.peek, Literal.readValue]
      dsimp only [List.head?_cons, bind, Except.bind]
      rw [expect_self h]
      exact (readChar_at h.tail).map AnnotationValue.char
    rw [readValue, h.peek, Literal.readValue]
    · dsimp only [List.head?_cons, bind, Except.bind]
      split
      · rename_i none
        cases none
      · rename_i same
        cases same
        exact absurd rfl array
      · rename_i same
        cases same
        exact absurd rfl string
      · rename_i same
        cases same
        exact absurd rfl char
      · rename_i same
        cases same
        split
        · rename_i starts
          exact readNumber_at h starts
        split
        · exact readName_at g h
        · rw [← h.offset]
          exact .error (.unexpected c rest)
    all_goals simp_all

theorem readItems_at_step (g : Option DeclarationGraph) {fuel : ℕ}
    (value : ∀ {n rest}, At text n rest →
      Tracks text (readValue text g fuel n) (Literal.readValue g fuel rest))
    (later : ∀ {n rest}, At text n rest →
      Tracks text (readItems text g fuel n) (Literal.readItems g fuel rest))
    (h : At text n rest) :
    Tracks text (readItems text g (fuel + 1) n) (Literal.readItems g (fuel + 1) rest) := by
  have first := value h
  rw [readItems]
  dsimp only [bind, Except.bind]
  cases found : Literal.readValue g fuel rest with
  | error f =>
    rw [found] at first
    rw [first.of_error, Literal.readItems, found]
    exact .error f
  | ok r =>
    obtain ⟨v, after⟩ := r
    rw [found] at first
    obtain ⟨m, reads, stands⟩ := first.of_ok
    rw [reads]
    dsimp only
    cases after with
    | nil =>
      rw [stands.next_end, Literal.readItems, found]
      exact .error .ended
    | cons c after =>
      rw [stands.next]
      dsimp only
      by_cases closed : c = ']'
      · subst closed
        rw [Literal.readItems, found]
        exact .ok stands.tail
      by_cases comma : c = ','
      · subst comma
        have spans : skipWhile text (fun _ c => .ok (c == ' ')) (fun _ => 1) (fun _ => Nat.one_pos)
            (m + ','.utf8Size) = .ok (m + ','.utf8Size + utf8Length (after.takeWhile (· == ' '))) := by
          apply skipWhile_takeWhile _ stands.tail
          intro c space
          rw [beq_iff_eq.1 space]
          rfl
        have due := stands.tail
        rw [← @List.takeWhile_append_dropWhile _ (· == ' ') after] at due
        rw [if_neg closed, if_pos rfl, spans, Literal.readItems, found]
        exact (later due.append).map (v :: ·)
      rw [if_neg closed, if_neg comma, ← stands.offset, readItems_other found closed comma]
      exact .error (.unexpected c after)

/-- The induction is on the fuel, which both readers spend alike. -/
theorem read_at (g : Option DeclarationGraph) (fuel : ℕ) :
    (∀ {n rest}, At text n rest →
      Tracks text (readValue text g fuel n) (Literal.readValue g fuel rest)) ∧
    (∀ {n rest}, At text n rest →
      Tracks text (readItems text g fuel n) (Literal.readItems g fuel rest)) := by
  induction fuel with
  | zero => exact ⟨fun _ => .error .ended, fun _ => .error .ended⟩
  | succ fuel ih => exact ⟨readValue_at_step g ih.2, readItems_at_step g ih.1 ih.2⟩

/-- A cursor is never cut off, and it finds in a whole text what the reader of characters finds. -/
theorem read_eq (g : Option DeclarationGraph) (text : List Char) :
    read text g = (Literal.read g text).mapError .fault := by
  have whole := (read_at g (fuelFor text)).1 (⟨[], rfl, rfl⟩ : At text 0 text)
  rw [read, Literal.read]
  dsimp only [bind, Except.bind]
  cases found : Literal.readValue g (fuelFor text) text with
  | error f =>
    rw [found] at whole
    rw [whole.of_error]
    rfl
  | ok r =>
    obtain ⟨v, rest⟩ := r
    rw [found] at whole
    obtain ⟨n, reads, stands⟩ := whole.of_ok
    rw [reads]
    dsimp only
    obtain ⟨before, parts, length⟩ := stands
    have total : utf8Length text = n + utf8Length rest := by rw [parts, utf8Length_append, length]
    cases rest with
    | nil =>
      rw [if_neg (by rw [total, utf8Length]; omega)]
      rfl
    | cons c rest =>
      have positive := c.utf8Size_pos
      have place : offset text (c :: rest) = n := At.offset ⟨before, parts, length⟩
      rw [if_pos (by rw [total, utf8Length]; omega), ← place]
      rfl

end

end Cursor

end ModelClasses.Literal
