import ModelClasses.Proofs.Text.Span
import ModelClasses.Naming
import Mathlib.Data.List.TakeWhile

/-! # Qualified names

A name without a dot is the simple name of what it is qualified to, whatever the package. -/

namespace ModelClasses.Naming

open Text

theorem reverse_ne_dot {name : List Char} (h : '.' ∉ name) :
    ∀ c ∈ name.reverse, (c != '.') = true := by
  intro c hc
  rw [bne_iff_ne]
  rintro rfl
  exact h (List.mem_reverse.1 hc)

theorem splitLastDot_eq_none {name : List Char} (h : '.' ∉ name) : splitLastDot name = none := by
  rw [splitLastDot, List.dropWhile_eq_nil_iff.2 (reverse_ne_dot h)]

theorem dot_notMem_of_splitLastDot_eq_none {name : List Char} (h : splitLastDot name = none) :
    '.' ∉ name := by
  rw [splitLastDot] at h
  split at h
  · rename_i dots
    intro dot
    have passes := List.dropWhile_eq_nil_iff.1 dots '.' (List.mem_reverse.2 dot)
    simp at passes
  · cases h

theorem splitLastDot_append (package : List Char) {name : List Char} (h : '.' ∉ name) :
    splitLastDot (package ++ '.' :: name) = some (package, name) := by
  have reversed : (package ++ '.' :: name).reverse = name.reverse ++ '.' :: package.reverse := by
    simp
  have stops : Stops (· != '.') ('.' :: package.reverse) := stops_cons rfl
  rw [splitLastDot, reversed, dropWhile_append_stops (reverse_ne_dot h) stops,
    takeWhile_append_stops (reverse_ne_dot h) stops]
  simp

theorem splitLastDot_eq_some {cs package name : List Char} (h : splitLastDot cs = some (package, name)) :
    cs = package ++ '.' :: name ∧ '.' ∉ name := by
  rw [splitLastDot] at h
  split at h
  · cases h
  · rename_i dot before rest
    cases h
    have notDot : dot = '.' := by
      have head := List.head?_dropWhile_not (· != '.') cs.reverse
      rw [rest] at head
      simpa using head
    have whole := List.takeWhile_append_dropWhile (p := (· != '.')) (l := cs.reverse)
    rw [rest, notDot] at whole
    constructor
    · have forwards := congrArg List.reverse whole
      simpa using forwards.symm
    · intro inside
      have passes := List.mem_takeWhile_imp (List.mem_reverse.1 inside)
      simp at passes

theorem qualify_packageOf {q : String} (h : packageOf q ≠ "") :
    qualify (packageOf q) (simpleName q) = q := by
  rw [packageOf] at h ⊢
  rw [simpleName]
  cases split : splitLastDot q.toList with
  | none =>
    rw [split] at h
    exact absurd rfl h
  | some parts =>
    obtain ⟨package, name⟩ := parts
    rw [split] at h
    rw [qualify, if_neg (by simpa using h), ← String.toList_inj]
    simp [(splitLastDot_eq_some split).1]

theorem dot_mem {q : String} (h : packageOf q ≠ "") : '.' ∈ q.toList := by
  rw [← qualify_packageOf h, qualify, if_neg (by simpa using h)]
  simp

theorem dot_notMem_simpleName {q : String} (h : packageOf q ≠ "") : '.' ∉ (simpleName q).toList := by
  rw [packageOf] at h
  rw [simpleName]
  cases split : splitLastDot q.toList with
  | none =>
    rw [split] at h
    exact absurd rfl h
  | some parts => simpa using (splitLastDot_eq_some split).2

theorem simpleName_eq_self {name : String} (h : '.' ∉ name.toList) : simpleName name = name := by
  rw [simpleName, splitLastDot_eq_none h]

theorem simpleName_qualify (package : String) {name : String} (h : '.' ∉ name.toList) :
    simpleName (qualify package name) = name := by
  rw [qualify]
  split
  · exact simpleName_eq_self h
  · have dotted : (package ++ "." ++ name).toList = package.toList ++ '.' :: name.toList := by simp
    rw [simpleName, dotted, splitLastDot_append _ h]
    exact String.ofList_toList

/-- A package in front does not change what stands behind the last dot. -/
theorem simpleName_qualify_eq (package name : String) :
    simpleName (qualify package name) = simpleName name := by
  cases split : splitLastDot name.toList with
  | none =>
    have simple := dot_notMem_of_splitLastDot_eq_none split
    rw [simpleName_qualify package simple, simpleName_eq_self simple]
  | some parts =>
    obtain ⟨before, simple⟩ := parts
    obtain ⟨whole, noDot⟩ := splitLastDot_eq_some split
    rw [qualify]
    split
    · rfl
    · have dotted : (package ++ "." ++ name).toList =
          (package.toList ++ '.' :: before) ++ '.' :: simple := by simp [whole]
      rw [simpleName, simpleName, dotted, splitLastDot_append _ noDot, split]

theorem dotSegments_cons {c : Char} (h : c ≠ '.') (cs : List Char) :
    ∃ segment more, dotSegments cs = segment :: more ∧
      dotSegments (c :: cs) = (c :: segment) :: more := by
  rw [dotSegments, if_neg h]
  induction cs with
  | nil => exact ⟨[], [], rfl, rfl⟩
  | cons d ds ih =>
    by_cases dot : d = '.'
    · exact ⟨[], dotSegments ds, by rw [dotSegments, if_pos dot], by rw [dotSegments, if_pos dot]⟩
    · rw [dotSegments, if_neg dot]
      obtain ⟨segment, more, split, -⟩ := ih
      exact ⟨d :: segment, more, by rw [split], by rw [split]⟩

theorem dotSegments_ne_nil (cs : List Char) : dotSegments cs ≠ [] := by
  cases cs with
  | nil => simp [dotSegments]
  | cons c cs =>
    by_cases dot : c = '.'
    · simp [dotSegments, dot]
    · obtain ⟨_, _, -, whole⟩ := dotSegments_cons dot cs
      simp [whole]

/-- The segments of a text, with the dots put back between them. -/
theorem intercalate_dotSegments (cs : List Char) : ['.'].intercalate (dotSegments cs) = cs := by
  induction cs with
  | nil => rfl
  | cons c cs ih =>
    by_cases dot : c = '.'
    · obtain ⟨segment, more, split⟩ := List.exists_cons_of_ne_nil (dotSegments_ne_nil cs)
      rw [dotSegments, if_pos dot, split, List.intercalate_cons_cons, ← split, ih, dot]
      rfl
    · obtain ⟨segment, more, split, whole⟩ := dotSegments_cons dot cs
      rw [split] at ih
      rw [whole]
      cases more with
      | nil =>
        rw [List.intercalate_singleton] at ih ⊢
        rw [ih]
      | cons next more =>
        rw [List.intercalate_cons_cons] at ih ⊢
        rw [← ih]
        rfl

theorem dotSegments_injective : Function.Injective dotSegments := by
  intro cs cs' same
  rw [← intercalate_dotSegments cs, same, intercalate_dotSegments]

/-- A segment has characters of the text, and no dot. -/
theorem mem_of_mem_dotSegments {cs segment : List Char} (h : segment ∈ dotSegments cs) :
    ∀ c ∈ segment, c ∈ cs ∧ c ≠ '.' := by
  induction cs generalizing segment with
  | nil =>
    rw [dotSegments, List.mem_singleton] at h
    simp [h]
  | cons d ds ih =>
    by_cases dot : d = '.'
    · rw [dotSegments, if_pos dot] at h
      rcases List.mem_cons.1 h with rfl | h
      · simp
      · exact fun c hc => ⟨List.mem_cons_of_mem d (ih h c hc).1, (ih h c hc).2⟩
    · obtain ⟨first, more, split, whole⟩ := dotSegments_cons dot ds
      rw [split] at ih
      rw [whole] at h
      intro c hc
      rcases List.mem_cons.1 h with rfl | h
      · rcases List.mem_cons.1 hc with rfl | hc
        · exact ⟨List.mem_cons_self, dot⟩
        · have inside := ih List.mem_cons_self c hc
          exact ⟨List.mem_cons_of_mem d inside.1, inside.2⟩
      · have inside := ih (List.mem_cons_of_mem first h) c hc
        exact ⟨List.mem_cons_of_mem d inside.1, inside.2⟩

theorem exists_dotSegment {c : Char} (notDot : c ≠ '.') {cs : List Char} (h : c ∈ cs) :
    ∃ segment ∈ dotSegments cs, c ∈ segment := by
  induction cs with
  | nil => cases h
  | cons d ds ih =>
    rw [List.mem_cons] at h
    by_cases dot : d = '.'
    · obtain ⟨segment, inside, hc⟩ := ih (h.resolve_left fun same => notDot (same.trans dot))
      exact ⟨segment, by rw [dotSegments, if_pos dot]; exact List.mem_cons_of_mem [] inside, hc⟩
    · obtain ⟨first, more, split, whole⟩ := dotSegments_cons dot ds
      rw [whole]
      rcases h with rfl | h
      · exact ⟨c :: first, List.mem_cons_self, List.mem_cons_self⟩
      · obtain ⟨segment, inside, hc⟩ := ih h
        rw [split, List.mem_cons] at inside
        rcases inside with rfl | inside
        · exact ⟨d :: segment, List.mem_cons_self, List.mem_cons_of_mem d hc⟩
        · exact ⟨segment, List.mem_cons_of_mem _ inside, hc⟩

@[simp] theorem qualify_inj {package a b : String} : qualify package a = qualify package b ↔ a = b := by
  rw [qualify, qualify]
  split <;> simp

theorem qualify_eq {package : String} (h : package ≠ "") (name : String) :
    qualify package name = package ++ "." ++ name := by
  rw [qualify, if_neg (by simpa using h)]

theorem length_qualify {package : String} (h : package ≠ "") (name : String) :
    (qualify package name).length = package.length + 1 + name.length := by
  rw [qualify_eq h, String.length_append, String.length_append]
  rfl

theorem qualify_ne_empty {package : String} (h : package ≠ "") (name : String) :
    qualify package name ≠ "" := by
  intro empty
  have length := length_qualify h name
  rw [empty, String.length_empty] at length
  omega

/-- A name that is qualified by one module after the other. -/
theorem foldl_qualify {package : String} (h : package ≠ "") {names : List String}
    (some : names ≠ []) :
    names.foldl qualify package = qualify package (".".intercalate names) := by
  induction names generalizing package with
  | nil => exact absurd rfl some
  | cons name names ih =>
    cases names with
    | nil => rw [List.foldl_cons, List.foldl_nil, String.intercalate_singleton]
    | cons next names =>
      rw [List.foldl_cons, ih (qualify_ne_empty h name) (List.cons_ne_nil next names),
        String.intercalate_cons_of_ne_nil (List.cons_ne_nil next names),
        qualify_eq (qualify_ne_empty h name), qualify_eq h, qualify_eq h]
      simp only [String.append_assoc]

end ModelClasses.Naming
