import ModelClasses.Json.Reader
import ModelClasses.Proofs.Json.Number
import ModelClasses.Proofs.Json.Text

/-! # Documents read back

A document whose numbers and texts can be written is read back from its lines. The lines are taken apart
into the tokens of the document, one after the other, and the pass over the tokens of a value leaves the
containers around it as they are. -/

namespace ModelClasses.Json

open Text

/-- A document that stands in a text as it is: every number has the form of one, and every text is a
sequence of characters. -/
inductive Writable : Json → Prop
  | null : Writable .null
  | bool (b : Bool) : Writable (.bool b)
  | number {n : List Char} (h : IsNumber n) : Writable (.number n)
  | text (s : String) : Writable (.text (some s))
  | array {items : List Json} (h : ∀ v ∈ items, Writable v) : Writable (.array items)
  | object {members : List (JsonText × Json)} (keys : ∀ m ∈ members, m.1.isSome)
      (values : ∀ m ∈ members, Writable m.2) : Writable (.object members)

mutual
/-- The tokens that a document is written with. -/
def tokens : Json → List Token
  | .null => [.null]
  | .bool b => [.bool b]
  | .number n => [.number n]
  | .text s => [.text s]
  | .array [] => [.openArray, .closeArray]
  | .array (v :: rest) => .openArray :: (tokens v ++ itemTokens rest)
  | .object [] => [.openObject, .closeObject]
  | .object ((k, v) :: rest) => .openObject :: .text k :: .colon :: (tokens v ++ memberTokens rest)

def itemTokens : List Json → List Token
  | [] => [.closeArray]
  | v :: rest => .comma :: (tokens v ++ itemTokens rest)

def memberTokens : List (JsonText × Json) → List Token
  | [] => [.closeObject]
  | (k, v) :: rest => .comma :: .text k :: .colon :: (tokens v ++ memberTokens rest)
end

theorem lex_eq (cs : List Char) :
    lex cs = if cs.dropWhile isSpace = [] then some []
      else (lexOne (cs.dropWhile isSpace)).bind fun r => (lex r.2).map (r.1 :: ·) := by
  rw [lex.eq_def]
  split
  · rename_i none
    rw [if_pos none]
  · rename_i some
    rw [if_neg (by simp [some]), some]
    split
    · rename_i failed
      rw [failed]
      rfl
    · rename_i taken
      rw [taken]
      rfl

theorem lex_spaces {spaces : List Char} (h : ∀ c ∈ spaces, isSpace c) (rest : List Char) :
    lex (spaces ++ rest) = lex rest := by
  rw [lex_eq, List.dropWhile_append_of_pos h, ← lex_eq]

theorem lex_token {cs rest : List Char} {t : Token} (h : lexOne cs = some (t, rest))
    (starts : Stops isSpace cs) : lex cs = (lex rest).map (t :: ·) := by
  have nonempty : cs ≠ [] := by
    rintro rfl
    cases h
  rw [lex_eq, starts.dropWhile, if_neg nonempty, h]
  rfl

/-- In front of `rest`, a text consists of some tokens. -/
def Lexes (rest cs : List Char) (ts : List Token) : Prop :=
  lex (cs ++ rest) = (lex rest).map (ts ++ ·)

theorem Lexes.append {rest cs cs' : List Char} {ts ts' : List Token} (h : Lexes (cs' ++ rest) cs ts)
    (h' : Lexes rest cs' ts') : Lexes rest (cs ++ cs') (ts ++ ts') := by
  rw [Lexes, List.append_assoc, h, h', Option.map_map]
  congr 1
  funext later
  simp

theorem lexes_newline (rest : List Char) (depth : Nat) : Lexes rest (newline depth) [] := by
  have spaces : ∀ c ∈ newline depth, isSpace c := by
    intro c hc
    rcases List.mem_cons.1 hc with rfl | hc
    · rfl
    · rw [List.eq_of_mem_replicate hc]
      rfl
  rw [Lexes, lex_spaces spaces]
  simp

theorem lexes_mark {c : Char} {t : Token} (h : mark? c = some t) (rest : List Char) :
    Lexes rest [c] [t] := by
  refine lex_token (by rw [List.singleton_append, lexOne, h]) (stops_cons ?_)
  cases space : isSpace c with
  | false => rfl
  | true =>
    simp only [isSpace, Bool.or_eq_true, beq_iff_eq, or_assoc] at space
    rcases space with rfl | rfl | rfl | rfl
    all_goals cases h

theorem lexes_text (rest : List Char) {key : JsonText} (h : key.isSome) :
    Lexes rest (writeText key) [.text key] := by
  obtain ⟨s, rfl⟩ := Option.isSome_iff_exists.1 h
  exact lex_token (lexOne_writeText s rest) (stops_cons rfl)

theorem lexes_number {n rest : List Char} (h : IsNumber n) (ends : EndsNumber rest) :
    Lexes rest n [.number n] := by
  obtain ⟨c, tail, rfl, first⟩ := h.head
  have read := lexNumber_append h ends
  rw [List.cons_append] at read
  obtain ⟨unmarked, unquoted, inside⟩ := other_of_number first
  refine lex_token ?_ (stops_cons inside)
  simp only [List.cons_append, lexOne, unmarked, if_neg unquoted, if_pos first, read, Option.map_some]

/-- A member's key, up to the value. -/
theorem lexes_key (rest : List Char) {key : JsonText} (h : key.isSome) (depth : Nat) :
    Lexes rest (newline depth ++ writeText key ++ [':', ' ']) [.text key, .colon] := by
  have space : Lexes rest [' '] [] := by
    rw [Lexes, lex_spaces (by simp [isSpace])]
    simp
  exact ((lexes_newline _ depth).append (lexes_text _ h)).append ((lexes_mark rfl _).append space)

theorem endsNumber_prettyItems (depth : Nat) (items : List Json) (rest : List Char) :
    EndsNumber (prettyItems depth items ++ rest) := by
  cases items <;> exact stops_cons rfl

theorem endsNumber_prettyMembers (depth : Nat) (members : List (JsonText × Json)) (rest : List Char) :
    EndsNumber (prettyMembers depth members ++ rest) := by
  cases members <;> exact stops_cons rfl

mutual
theorem lexes_pretty {rest : List Char} (ends : EndsNumber rest) (depth : Nat) : (j : Json) →
    Writable j → Lexes rest (pretty depth j) (tokens j)
  | .null, _ => lex_token rfl (stops_cons rfl)
  | .bool true, _ => lex_token rfl (stops_cons rfl)
  | .bool false, _ => lex_token rfl (stops_cons rfl)
  | .number n, .number h => lexes_number h ends
  | .text _, .text s => lexes_text rest rfl
  | .array [], _ => (lexes_mark rfl _).append (lexes_mark rfl rest)
  | .array (v :: items), .array h => by
    have first := lexes_pretty (endsNumber_prettyItems depth items rest) (depth + 1) v
      (h v List.mem_cons_self)
    have others := lexes_prettyItems rest depth items fun w hw => h w (List.mem_cons_of_mem v hw)
    rw [pretty, tokens]
    exact (((lexes_mark rfl _).append (lexes_newline _ (depth + 1))).append first).append others
  | .object [], _ => (lexes_mark rfl _).append (lexes_mark rfl rest)
  | .object ((k, v) :: members), .object keys values => by
    have key := lexes_key (pretty (depth + 1) v ++ (prettyMembers depth members ++ rest))
      (keys (k, v) List.mem_cons_self) (depth + 1)
    have first := lexes_pretty (endsNumber_prettyMembers depth members rest) (depth + 1) v
      (values (k, v) List.mem_cons_self)
    have others := lexes_prettyMembers rest depth members
      (fun m hm => keys m (List.mem_cons_of_mem _ hm)) (fun m hm => values m (List.mem_cons_of_mem _ hm))
    have whole := (((lexes_mark (c := '\x7b') rfl _).append key).append first).append others
    simpa [pretty, tokens] using whole

theorem lexes_prettyItems (rest : List Char) (depth : Nat) : (items : List Json) →
    (∀ v ∈ items, Writable v) → Lexes rest (prettyItems depth items) (itemTokens items)
  | [], _ => (lexes_newline _ depth).append (lexes_mark rfl rest)
  | v :: items, h => by
    have first := lexes_pretty (endsNumber_prettyItems depth items rest) (depth + 1) v
      (h v List.mem_cons_self)
    have others := lexes_prettyItems rest depth items fun w hw => h w (List.mem_cons_of_mem v hw)
    rw [prettyItems, itemTokens]
    exact (((lexes_mark rfl _).append (lexes_newline _ (depth + 1))).append first).append others

theorem lexes_prettyMembers (rest : List Char) (depth : Nat) : (members : List (JsonText × Json)) →
    (∀ m ∈ members, m.1.isSome) → (∀ m ∈ members, Writable m.2) →
      Lexes rest (prettyMembers depth members) (memberTokens members)
  | [], _, _ => (lexes_newline _ depth).append (lexes_mark rfl rest)
  | (k, v) :: members, keys, values => by
    have key := lexes_key (pretty (depth + 1) v ++ (prettyMembers depth members ++ rest))
      (keys (k, v) List.mem_cons_self) (depth + 1)
    have first := lexes_pretty (endsNumber_prettyMembers depth members rest) (depth + 1) v
      (values (k, v) List.mem_cons_self)
    have others := lexes_prettyMembers rest depth members
      (fun m hm => keys m (List.mem_cons_of_mem _ hm)) (fun m hm => values m (List.mem_cons_of_mem _ hm))
    have whole := (((lexes_mark (c := ',') rfl _).append key).append first).append others
    simpa [prettyMembers, memberTokens] using whole
end

theorem lex_prettyText {j : Json} (h : Writable j) : lex j.prettyText.toList = some (tokens j) := by
  have all := lexes_pretty (stops_nil _) 0 j h
  rw [Lexes, List.append_nil, lex_eq []] at all
  simpa [prettyText] using all

/-- Behind the bracket of an array, the tokens of its first item are those of any value. -/
theorem run_first (j : Json) (stack : List Frame) (ts : List Token) :
    run (.first stack) (tokens j ++ ts) = run (.value (.array [] :: stack)) (tokens j ++ ts) := by
  cases j with
  | array items => cases items <;> rfl
  | object members => cases members <;> rfl
  | _ => rfl

mutual
theorem run_tokens (ts : List Token) : (j : Json) → (stack : List Frame) →
    run (.value stack) (tokens j ++ ts) = run (.done stack j) ts
  | .null, _ => rfl
  | .bool _, _ => rfl
  | .number _, _ => rfl
  | .text _, _ => rfl
  | .array [], _ => rfl
  | .array (v :: items), stack => by
    rw [tokens, List.cons_append, List.append_assoc]
    calc run (.value stack) (.openArray :: (tokens v ++ (itemTokens items ++ ts)))
        = run (.first stack) (tokens v ++ (itemTokens items ++ ts)) := rfl
      _ = run (.done (.array [] :: stack) v) (itemTokens items ++ ts) := by
        rw [run_first, run_tokens _ v]
      _ = run (.done stack (.array (v :: items))) ts := run_itemTokens ts items stack [] v
  | .object [], _ => rfl
  | .object ((k, v) :: members), stack => by
    rw [tokens, List.cons_append, List.cons_append, List.cons_append, List.append_assoc]
    calc run (.value stack)
          (.openObject :: .text k :: .colon :: (tokens v ++ (memberTokens members ++ ts)))
        = run (.value (.object [] k :: stack)) (tokens v ++ (memberTokens members ++ ts)) := rfl
      _ = run (.done (.object [] k :: stack) v) (memberTokens members ++ ts) := by
        rw [run_tokens _ v]
      _ = run (.done stack (.object ((k, v) :: members))) ts :=
        run_memberTokens ts members stack [] k v

theorem run_itemTokens (ts : List Token) : (items : List Json) → (stack : List Frame) →
    (before : List Json) → (v : Json) →
      run (.done (.array before :: stack) v) (itemTokens items ++ ts) =
        run (.done stack (.array ((v :: before).reverse ++ items))) ts
  | [], _, before, v => by
    rw [List.append_nil]
    rfl
  | w :: items, stack, before, v => by
    rw [itemTokens, List.cons_append, List.append_assoc]
    calc run (.done (.array before :: stack) v) (.comma :: (tokens w ++ (itemTokens items ++ ts)))
        = run (.value (.array (v :: before) :: stack)) (tokens w ++ (itemTokens items ++ ts)) := rfl
      _ = run (.done stack (.array ((w :: v :: before).reverse ++ items))) ts := by
        rw [run_tokens _ w, run_itemTokens ts items]
      _ = _ := by simp

theorem run_memberTokens (ts : List Token) : (members : List (JsonText × Json)) →
    (stack : List Frame) → (before : List (JsonText × Json)) → (k : JsonText) → (v : Json) →
      run (.done (.object before k :: stack) v) (memberTokens members ++ ts) =
        run (.done stack (.object (((k, v) :: before).reverse ++ members))) ts
  | [], _, before, k, v => by
    rw [List.append_nil]
    rfl
  | (k', w) :: members, stack, before, k, v => by
    rw [memberTokens, List.cons_append, List.cons_append, List.cons_append, List.append_assoc]
    calc run (.done (.object before k :: stack) v)
          (.comma :: .text k' :: .colon :: (tokens w ++ (memberTokens members ++ ts)))
        = run (.value (.object ((k, v) :: before) k' :: stack))
            (tokens w ++ (memberTokens members ++ ts)) := rfl
      _ = run (.done stack (.object (((k', w) :: (k, v) :: before).reverse ++ members))) ts := by
        rw [run_tokens _ w, run_memberTokens ts members]
      _ = _ := by simp
end

theorem ofTokens?_tokens (j : Json) : ofTokens? (tokens j) = some j := by
  have all := run_tokens [] j []
  rw [List.append_nil] at all
  rw [ofTokens?, all]
  rfl

theorem read?_prettyText {j : Json} (h : Writable j) : read? j.prettyText = some j := by
  rw [read?, lex_prettyText h, Option.bind_some, ofTokens?_tokens]

end ModelClasses.Json
