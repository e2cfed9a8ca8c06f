import ModelClasses.Proofs.Descriptor.Redeclaration
import ModelClasses.Proofs.Generation.Order
import ModelClasses.Proofs.Synthesis.Acceptance

/-! # What a file depends on

A file names the sources of the interfaces that add a property to it. Another declaration may be
changed without a difference to the file, as long as what it passes on stays: the supertypes of an
interface that has further interfaces above it, and those of an object that properties are created by.
An interface of the hierarchy must also still add nothing, so each of its properties has a name that
is declared before it. -/

namespace ModelClasses

/-- Declarations that are found by the same things. -/
def Declaration.SameHead (a b : Declaration) : Prop :=
  a.package = b.package ∧ a.name = b.name ∧ a.kind = b.kind

instance (a b : Declaration) : Decidable (a.SameHead b) :=
  inferInstanceAs (Decidable (a.package = b.package ∧ a.name = b.name ∧ a.kind = b.kind))

theorem Declaration.SameHead.qualifiedName {a b : Declaration} (h : a.SameHead b) :
    a.qualifiedName = b.qualifiedName := by
  rw [Declaration.qualifiedName, Declaration.qualifiedName, h.1, h.2.1]

namespace DeclarationGraph

/-- One declaration in the place of those that are found by the same things. -/
def substitute (e' x : Declaration) : Declaration := if x.SameHead e' then e' else x

theorem keeps_substitute (e' : Declaration) : Keeps (substitute e') := by
  refine ⟨fun x => ?_, fun x => ?_, fun x => ?_⟩ <;> rw [substitute] <;> split
  · rename_i same
    exact same.1.symm
  · rfl
  · rename_i same
    exact same.2.1.symm
  · rfl
  · rename_i same
    exact same.2.2.symm
  · rfl

theorem substitute_of_ne {e' x : Declaration} (h : x.qualifiedName ≠ e'.qualifiedName) :
    substitute e' x = x := if_neg fun same => h same.qualifiedName

variable {before after : List Declaration} {e e' : Declaration}

/-- A declaration that is hidden by an earlier one of its name may be any other one. -/
theorem get?_hidden (alike : e.SameHead e') (hidden : ∃ x ∈ before, x.qualifiedName = e.qualifiedName) :
    get? ⟨before ++ e :: after⟩ = get? ⟨before ++ e' :: after⟩ := by
  funext name
  simp only [get?, List.find?_append]
  by_cases own : e.qualifiedName = name
  · obtain ⟨x, hx, same⟩ := hidden
    have earlier : (before.find? (·.qualifiedName == name)).isSome :=
      List.find?_isSome.2 ⟨x, hx, by simp [same, own]⟩
    obtain ⟨first, found⟩ := Option.isSome_iff_exists.1 earlier
    rw [found]
    rfl
  · rw [List.find?_cons_of_neg (by simpa using own),
      List.find?_cons_of_neg (by simpa [← alike.qualifiedName] using own)]

theorem get?_first (first : ∀ x ∈ before, x.qualifiedName ≠ e.qualifiedName) :
    get? ⟨before ++ e :: after⟩ e.qualifiedName = some e := by
  have none : before.find? (·.qualifiedName == e.qualifiedName) = none := by
    rw [List.find?_eq_none]
    exact fun x hx => by simpa using first x hx
  rw [get?, List.find?_append, none, List.find?_cons_of_pos (by simp)]
  rfl

theorem get?_substitute (alike : e.SameHead e')
    (first : ∀ x ∈ before, x.qualifiedName ≠ e.qualifiedName) (name : String) :
    get? ⟨before ++ e' :: after⟩ name = (get? ⟨before ++ e :: after⟩ name).map (substitute e') := by
  by_cases own : e.qualifiedName = name
  · rw [← own, get?_first first, alike.qualifiedName, get?_first (alike.qualifiedName ▸ first)]
    exact congrArg some (if_pos alike).symm
  · have own' : e'.qualifiedName ≠ name := alike.qualifiedName ▸ own
    simp only [get?, List.find?_append]
    rw [List.find?_cons_of_neg (by simpa using own'), List.find?_cons_of_neg (by simpa using own),
      ← List.find?_append]
    cases found : (before ++ after).find? (·.qualifiedName == name) with
    | none => rfl
    | some x =>
      have named : x.qualifiedName = name := by simpa using List.find?_some found
      rw [Option.map_some, substitute_of_ne (named ▸ Ne.symm own')]

section

variable {g g' : DeclarationGraph} {visited : List String} {package : String}
  {ts : List TypeUsage} {order : List Declaration} (alike : e.SameHead e')
  (own : g.get? e.qualifiedName = some e)

include alike own

/-- A declaration that is visited is the one that its name finds, so no other one is substituted. -/
theorem Walk.substitute_of_ne (walk : g.Walk visited package ts order) {x : Declaration}
    (hx : x ∈ order) (other : x ≠ e) : substitute e' x = x := by
  refine DeclarationGraph.substitute_of_ne fun same => other ?_
  have named := walk.get?_of_mem hx
  rw [same, ← alike.qualifiedName, own] at named
  exact (Option.some.inj named).symm

theorem Walk.map_substitute_of_notMem (walk : g.Walk visited package ts order) {ds : List Declaration}
    (inside : ds ⊆ order) (h : e ∉ ds) : ds.map (substitute e') = ds := by
  have unchanged : ∀ x ∈ ds, substitute e' x = x := fun x hx =>
    walk.substitute_of_ne alike own (inside hx) fun same => h (same ▸ hx)
  exact (List.map_congr_left unchanged).trans (List.map_id' ds)

theorem Walk.map_substitute_of_mem {front back : List Declaration}
    (walk : g.Walk visited package ts (front ++ e :: back)) (nodup : (front ++ e :: back).Nodup) :
    (front ++ e :: back).map (substitute e') = front ++ e' :: back := by
  obtain ⟨-, behind, apart⟩ := List.nodup_append.1 nodup
  have inFront : e ∉ front := fun h => apart e h e List.mem_cons_self rfl
  rw [List.map_append, List.map_cons, substitute, if_pos alike,
    walk.map_substitute_of_notMem alike own (by simp) inFront,
    walk.map_substitute_of_notMem alike own (by simp) (List.nodup_cons.1 behind).1]

theorem Walk.map_substitute (found : ∀ name, g'.get? name = (g.get? name).map (substitute e'))
    (walk : g.Walk visited package ts order)
    (passesOn : e ∈ order → e'.supertypes = e.supertypes) :
    g'.Walk visited package ts (order.map (substitute e')) := by
  refine walk.map (keeps_substitute e') found fun x hx => ?_
  by_cases same : x = e
  · rw [same, substitute, if_pos alike, passesOn (same ▸ hx)]
  · rw [walk.substitute_of_ne alike own hx same]

end

end DeclarationGraph

namespace Descriptor

open DeclarationGraph

theorem keptAfter_eq_nil {seen : List String} {ps : List (Declaration × PropertyDeclaration)}
    (h : ∀ a ∈ ps, a.2.name ∈ seen) : keptAfter seen ps = [] := by
  induction ps with
  | nil => rfl
  | cons a ps ih =>
    rw [keptAfter_cons_seen (h a List.mem_cons_self)]
    exact ih fun b hb => h b (List.mem_cons_of_mem a hb)

/-- The properties that an interface adds behind those of an order. -/
def added (front : List Declaration) (d : Declaration) : List (Declaration × PropertyDeclaration) :=
  keptAfter ((kept front).map (·.2.name)) (d.properties.map fun p => (d, p))

theorem kept_append_cons (front back : List Declaration) (d : Declaration) :
    kept (front ++ d :: back) =
      kept front ++ (added front d ++
        keptAfter ((added front d).map (·.2.name) ++ (kept front).map (·.2.name)) (written back)) := by
  have split : written (front ++ d :: back) =
      written front ++ (d.properties.map (fun p => (d, p)) ++ written back) := by
    rw [← written_cons, written, written, written, List.flatMap_append]
  rw [kept_eq, kept_eq, split, keptAfter_append, List.append_nil, keptAfter_append, ← kept_eq]
  rfl

theorem added_eq_nil {front : List Declaration} {d : Declaration}
    (h : ∀ p ∈ d.properties, ∃ k ∈ front, Declares k p.name) : added front d = [] := by
  refine keptAfter_eq_nil fun a ha => ?_
  obtain ⟨p, hp, rfl⟩ := List.mem_map.1 ha
  obtain ⟨k, hk, declares⟩ := h p hp
  exact mem_names_kept.2 ⟨k, hk, declares⟩

section

variable {front back : List Declaration} {d e e' : Declaration}
  (silent : e ∉ contributing d (front ++ e :: back))

include silent

theorem added_eq_nil_of_silent : added front e = [] := by
  refine List.eq_nil_iff_forall_not_mem.2 fun a ha => silent ?_
  refine List.mem_filter.2 ⟨List.mem_append_right front List.mem_cons_self, ?_⟩
  obtain ⟨p, -, rfl⟩ := List.mem_map.1 (mem_of_mem_keptAfter ha)
  refine Bool.or_eq_true_iff.2 (.inr (List.any_eq_true.2 ⟨(e, p), ?_, beq_self_eq_true _⟩))
  rw [kept_append_cons]
  exact List.mem_append_right _ (List.mem_append_left _ ha)

variable (nothing : added front e' = [])

include nothing

theorem kept_replace : kept (front ++ e' :: back) = kept (front ++ e :: back) := by
  rw [kept_append_cons, kept_append_cons, nothing, added_eq_nil_of_silent silent]

theorem contributing_replace (named : e'.qualifiedName = e.qualifiedName) :
    contributing d (front ++ e' :: back) = contributing d (front ++ e :: back) := by
  have same : kept (front ++ e' :: back) = kept (front ++ e :: back) := kept_replace silent nothing
  rw [contributing, List.mem_filter, not_and] at silent
  have out := silent (List.mem_append_right front List.mem_cons_self)
  rw [contributing, contributing, same, List.filter_append, List.filter_append,
    List.filter_cons, List.filter_cons, if_neg (by rwa [named]), if_neg out]

end

/-- What is collected depends on the properties that are kept, and on whose files count. -/
theorem collectAll_transfer {g g' : DeclarationGraph} {s : Settings} {d : Declaration}
    {order order' : List Declaration} {c : Collection} (kinds : SameKinds g g')
    (first : g.DepthFirst d order) (first' : g'.DepthFirst d order')
    (sameKept : kept order' = kept order)
    (sameSources : contributing d order' = contributing d order)
    (collected : (collectAll g s d).result = .ok c) :
    ∃ c', (collectAll g' s d).result = .ok c' ∧ c'.properties = c.properties ∧
      c'.files = c.files := by
  have succeeds : failure? (collectAll g' s d).result = none := by
    rw [failure?_collectAll first', sameKept, ← describeProperty_congr kinds,
      ← failure?_collectAll first, collected]
    rfl
  obtain ⟨c', collected'⟩ := failure?_eq_none_iff.1 succeeds
  refine ⟨c', collected', ?_, ?_⟩
  · have each := collectAll_properties collected first
    have each' := collectAll_properties collected' first'
    rw [sameKept, ← describeProperty_congr kinds] at each'
    refine List.right_unique_forall₂' ?_ each' each
    intro a q q' described described'
    exact Except.ok.inj (described.symm.trans described')
  · rw [collectAll_files collected first, collectAll_files collected' first', sameSources]

/-- An interface of the hierarchy that adds nothing may change to one that adds nothing and passes on
the same. -/
theorem depthFirst_replace {g g' : DeclarationGraph} {d e e' : Declaration}
    {order : List Declaration} (alike : e.SameHead e') (own : g.get? e.qualifiedName = some e)
    (found : ∀ name, g'.get? name = (g.get? name).map (substitute e'))
    (first : g.DepthFirst d order) (silent : e ∉ contributing d order)
    (passesOn : e ∈ order → e'.supertypes = e.supertypes ∧
      ∀ p ∈ e'.properties, ∃ k, Before order k e ∧ Declares k p.name) :
    ∃ order', g'.DepthFirst d order' ∧ kept order' = kept order ∧
      contributing d order' = contributing d order := by
  have nodup := first.nodup.of_map
  obtain ⟨above, walk, rfl⟩ := first
  have walk' := walk.map_substitute alike own found fun h => (passesOn (List.mem_cons_of_mem d h)).1
  by_cases inside : e ∈ above
  · obtain ⟨-, shadowed⟩ := passesOn (List.mem_cons_of_mem d inside)
    obtain ⟨front, back, rfl⟩ := List.append_of_mem inside
    rw [walk.map_substitute_of_mem alike own (List.nodup_cons.1 nodup).2] at walk'
    have nothing : added (d :: front) e' = [] := added_eq_nil fun p hp => by
      obtain ⟨k, before, declares⟩ := shadowed p hp
      exact ⟨k, mem_of_before nodup before, declares⟩
    refine ⟨d :: (front ++ e' :: back), ⟨_, walk', rfl⟩, ?_, ?_⟩
    · exact kept_replace silent nothing
    · exact contributing_replace silent nothing alike.qualifiedName.symm
  · rw [walk.map_substitute_of_notMem alike own (List.Subset.refl above) inside] at walk'
    exact ⟨d :: above, ⟨above, walk', rfl⟩, rfl, rfl⟩

end Descriptor

namespace Synthesis

/-- A tag of a property names an object, which a further property is created by. -/
def CreatedBy (s : Settings) (d : Descriptor) (object : String) : Prop :=
  ∃ x ∈ creations s d, x.2.argument? Tag.create.valueArgument = some (.reference ⟨object, .singleton⟩)

/-- An object may change, if none of its supertypes does or no property is created by it. -/
theorem synthesize_replace {g g' : DeclarationGraph} {s : Settings} {d : Descriptor}
    {e e' : Declaration} (alike : e.SameHead e') (own : g.get? e.qualifiedName = some e)
    (found : ∀ name, g'.get? name = (g.get? name).map (DeclarationGraph.substitute e'))
    (asModifier : CreatedBy s d e.qualifiedName → e'.supertypes = e.supertypes) :
    synthesize g s d = synthesize g' s d := by
  refine synthesize_eq s d fun p hp a ha create => createProperty_eq fun modifier named => ?_
  refine modifierSignature_change (DeclarationGraph.keeps_substitute e') found ?_ s p
  intro x object
  by_cases same : x.qualifiedName = e.qualifiedName
  · have name := DeclarationGraph.qualifiedName_of_get? object
    rw [← name, same, own] at object
    obtain rfl := Option.some.inj object
    have listed : (p, a) ∈ creations s d :=
      List.mem_flatMap.2 ⟨p, hp, List.mem_map.2 ⟨a, List.mem_filter.2 ⟨ha, by simp [create]⟩, rfl⟩⟩
    rw [DeclarationGraph.substitute, if_pos alike]
    exact asModifier ⟨(p, a), listed, name ▸ named⟩
  · rw [DeclarationGraph.substitute_of_ne (alike.qualifiedName ▸ same)]

end Synthesis

namespace Generation

open DeclarationGraph

theorem packageNames_replace {before after : List Declaration} {e e' : Declaration}
    (alike : e.SameHead e') :
    packageNames ⟨before ++ e :: after⟩ = packageNames ⟨before ++ e' :: after⟩ := by
  have top : topLevelName e = topLevelName e' := by rw [topLevelName, topLevelName, alike.2.1]
  funext package
  rw [packageNames, packageNames, List.filter_append, List.filter_append, List.filter_cons,
    List.filter_cons, alike.1]
  split
  · rw [List.map_append, List.map_append, List.map_cons, List.map_cons, top]
  · rfl

theorem generate_replace {before after : List Declaration} {e e' d : Declaration} {s : Settings}
    {file : SourceFile} {source : String} (alike : e.SameHead e')
    (made : (generate ⟨before ++ e :: after⟩ s d).result = .ok file)
    (written : e.sourceFile = some source) (unrecorded : source ∉ file.originatingFiles)
    (passesOn : ∀ order, DepthFirst ⟨before ++ e :: after⟩ d order → e ∈ order →
      e'.supertypes = e.supertypes ∧
        ∀ p ∈ e'.properties, ∃ k, Before order k e ∧ Descriptor.Declares k p.name)
    (asModifier : ∀ descriptor,
      (Descriptor.build ⟨before ++ e :: after⟩ s d.package d).result = .ok descriptor →
        Synthesis.CreatedBy s descriptor e.qualifiedName → e'.supertypes = e.supertypes) :
    (generate ⟨before ++ e' :: after⟩ s d).result = .ok file := by
  by_cases hidden : ∃ x ∈ before, x.qualifiedName = e.qualifiedName
  · rwa [← generate_congr (get?_hidden alike hidden) (packageNames_replace alike)]
  · have first : ∀ x ∈ before, x.qualifiedName ≠ e.qualifiedName :=
      fun x hx same => hidden ⟨x, hx, same⟩
    have own : get? ⟨before ++ e :: after⟩ e.qualifiedName = some e := get?_first first
    have found (name : String) : get? ⟨before ++ e' :: after⟩ name =
        (get? ⟨before ++ e :: after⟩ name).map (substitute e') := get?_substitute alike first name
    have kinds := sameKinds_of_change (keeps_substitute e') found
    obtain ⟨descriptor, synthesis, delegated, built, synthesized, delegates, rfl⟩ :=
      generate_ok_iff.1 made
    have unmodified := asModifier descriptor built
    obtain ⟨interface, annotations, directive, inheritedInterfaces, c, resolved, given, named,
      inherits, collected, rfl⟩ := Descriptor.build_ok_iff.1 built
    obtain ⟨order, depthFirst, -⟩ := existsUnique_depthFirst ⟨before ++ e :: after⟩ d
    have silent : e ∉ Descriptor.contributing d order := by
      intro adds
      rw [Descriptor.collectAll_files collected depthFirst, List.mem_eraseDups] at unrecorded
      exact unrecorded (List.mem_filterMap.2 ⟨e, adds, written⟩)
    obtain ⟨order', depthFirst', sameKept, sameSources⟩ :=
      Descriptor.depthFirst_replace alike own found depthFirst silent (passesOn order depthFirst)
    obtain ⟨c', collected', properties, files⟩ := Descriptor.collectAll_transfer kinds depthFirst
      depthFirst' sameKept sameSources collected
    refine generate_ok_iff.2 ⟨_, synthesis, delegated, Descriptor.build_ok_iff.2 ⟨interface,
      annotations, directive, inheritedInterfaces, c', ?_, given, named, ?_, collected', rfl⟩,
      ?_, ?_, ?_⟩
    · rwa [← resolveAnnotations_congr kinds]
    · rwa [← Descriptor.inherited_change (keeps_substitute e') found]
    · rwa [properties, files, ← Synthesis.synthesize_replace alike own found unmodified]
    · rwa [properties, files]
    · rw [properties, files, packageNames_replace alike]

/-- An interface between two others has a property that is declared in front of it. Another type and
other annotations there change nothing. -/
theorem generate_replace_between :
    let a : Declaration := {
      package := "p", name := "A", kind := .interface, sourceFile := some "a.rs"
      supertypes := [⟨"B", [], false⟩]
      properties := [⟨"x", ⟨"Int", [], false⟩, []⟩]
      annotations := [⟨"Generate", [⟨"name", .string "Made"⟩]⟩] }
    let b : Declaration := {
      package := "p", name := "B", kind := .interface, sourceFile := some "b.rs"
      supertypes := [⟨"C", [], false⟩]
      properties := [⟨"x", ⟨"Long", [], false⟩, []⟩] }
    let c : Declaration := {
      package := "p", name := "C", kind := .interface, sourceFile := some "c.rs"
      properties := [⟨"y", ⟨"Int", [], false⟩, []⟩] }
    let b' : Declaration := { b with
      properties := [⟨"x", ⟨"String", [], true⟩, [⟨"Derived", []⟩]⟩], annotations := [⟨"Old", []⟩] }
    ∃ file, (generate ⟨[a, b, c]⟩ {} a).result = .ok file ∧
      file.originatingFiles = ["a.rs", "c.rs"] ∧ (generate ⟨[a, b', c]⟩ {} a).result = .ok file := by
  intro a b c b'
  have aboveB : Walk ⟨[a, b, c]⟩ ["p.A", "p.B"] "p" b.supertypes (c :: [] ++ []) :=
    .visit rfl (by decide) (.nil _ _) (.nil _ _)
  have aboveA : Walk ⟨[a, b, c]⟩ ["p.A"] "p" a.supertypes (b :: [c] ++ []) :=
    .visit rfl (by decide) aboveB (.nil _ _)
  have depthFirst : DepthFirst ⟨[a, b, c]⟩ a [a, b, c] := ⟨[b, c], aboveA, rfl⟩
  have collected := (Descriptor.collectAll_ok_iff (s := {}) depthFirst).2
    (.cons rfl (.cons rfl (.cons rfl (.nil _ _))))
  have built : (Descriptor.build ⟨[a, b, c]⟩ {} a.package a).result = .ok _ :=
    Descriptor.build_ok_iff.2 ⟨rfl, _, _, _, _, rfl, rfl, by decide, rfl, collected, rfl⟩
  have made : ∃ file, (generate ⟨[a, b, c]⟩ {} a).result = .ok file ∧
      file.originatingFiles = ["a.rs", "c.rs"] :=
    ⟨_, generate_ok_iff.2 ⟨_, _, _, built, rfl, rfl, rfl⟩, rfl⟩
  obtain ⟨file, made, sources⟩ := made
  have between : (generate ⟨[a] ++ b :: [c]⟩ {} a).result = .ok file := made
  have alike : b.SameHead b' := ⟨rfl, rfl, rfl⟩
  have passesOn (order : List Declaration) (other : DepthFirst ⟨[a] ++ b :: [c]⟩ a order)
      (_ : b ∈ order) : b'.supertypes = b.supertypes ∧
        ∀ p ∈ b'.properties, ∃ k, Before order k b ∧ Descriptor.Declares k p.name := by
    obtain ⟨_, _, unique⟩ := existsUnique_depthFirst ⟨[a, b, c]⟩ a
    obtain rfl := (unique _ other).trans (unique _ depthFirst).symm
    refine ⟨rfl, fun p hp => ⟨a, .cons_cons a (.cons_cons b (.cons c .slnil)), ?_⟩⟩
    rw [List.mem_singleton.1 hp]
    exact ⟨_, List.mem_cons_self, rfl⟩
  have unrecorded : "b.rs" ∉ file.originatingFiles := by simp [sources]
  have stable : (generate ⟨[a] ++ b' :: [c]⟩ {} a).result = .ok file :=
    generate_replace alike between rfl unrecorded passesOn fun _ _ _ => rfl
  exact ⟨file, made, sources, stable⟩

/-- An interface without properties is between two others, and its file is not recorded. Without its
supertype, a property is gone. -/
theorem generate_unrecorded :
    let a : Declaration := {
      package := "p", name := "A", kind := .interface, sourceFile := some "a.rs"
      supertypes := [⟨"B", [], false⟩]
      annotations := [⟨"Generate", [⟨"name", .string "Made"⟩]⟩] }
    let b : Declaration := {
      package := "p", name := "B", kind := .interface, sourceFile := some "b.rs"
      supertypes := [⟨"C", [], false⟩] }
    let c : Declaration := {
      package := "p", name := "C", kind := .interface, sourceFile := some "c.rs"
      properties := [⟨"x", ⟨"Int", [], false⟩, []⟩] }
    let b' : Declaration := { b with supertypes := [] }
    b.SameHead b' ∧ b.sourceFile = b'.sourceFile ∧
      ∃ file, (generate ⟨[a, b, c]⟩ {} a).result = .ok file ∧ "b.rs" ∉ file.originatingFiles ∧
        (generate ⟨[a, b', c]⟩ {} a).result ≠ .ok file := by
  intro a b c b'
  have aboveB : Walk ⟨[a, b, c]⟩ ["p.A", "p.B"] "p" b.supertypes (c :: [] ++ []) :=
    .visit rfl (by decide) (.nil _ _) (.nil _ _)
  have aboveA : Walk ⟨[a, b, c]⟩ ["p.A"] "p" a.supertypes (b :: [c] ++ []) :=
    .visit rfl (by decide) aboveB (.nil _ _)
  have aboveA' : Walk ⟨[a, b', c]⟩ ["p.A"] "p" a.supertypes (b' :: [] ++ []) :=
    .visit rfl (by decide) (.nil _ _) (.nil _ _)
  have depthFirst : DepthFirst ⟨[a, b, c]⟩ a [a, b, c] := ⟨[b, c], aboveA, rfl⟩
  have depthFirst' : DepthFirst ⟨[a, b', c]⟩ a [a, b'] := ⟨[b'], aboveA', rfl⟩
  have collected := (Descriptor.collectAll_ok_iff (s := {}) depthFirst).2
    (.cons rfl (.cons rfl (.cons rfl (.nil _ _))))
  have collected' := (Descriptor.collectAll_ok_iff (s := {}) depthFirst').2
    (.cons rfl (.cons rfl (.nil _ _)))
  have built : (Descriptor.build ⟨[a, b, c]⟩ {} a.package a).result = .ok _ :=
    Descriptor.build_ok_iff.2 ⟨rfl, _, _, _, _, rfl, rfl, by decide, rfl, collected, rfl⟩
  have built' : (Descriptor.build ⟨[a, b', c]⟩ {} a.package a).result = .ok _ :=
    Descriptor.build_ok_iff.2 ⟨rfl, _, _, _, _, rfl, rfl, by decide, rfl, collected', rfl⟩
  have made : ∃ file, (generate ⟨[a, b, c]⟩ {} a).result = .ok file ∧
      file.originatingFiles = ["a.rs", "c.rs"] :=
    ⟨_, generate_ok_iff.2 ⟨_, _, _, built, rfl, rfl, rfl⟩, rfl⟩
  have made' : ∃ file, (generate ⟨[a, b', c]⟩ {} a).result = .ok file ∧
      file.originatingFiles = ["a.rs"] :=
    ⟨_, generate_ok_iff.2 ⟨_, _, _, built', rfl, rfl, rfl⟩, rfl⟩
  obtain ⟨file, made, sources⟩ := made
  obtain ⟨file', made', sources'⟩ := made'
  refine ⟨⟨rfl, rfl, rfl⟩, rfl, file, made, by simp [sources], fun same => ?_⟩
  obtain rfl : file' = file := Except.ok.inj (made'.symm.trans same)
  rw [sources] at sources'
  cases sources'

end Generation

end ModelClasses
