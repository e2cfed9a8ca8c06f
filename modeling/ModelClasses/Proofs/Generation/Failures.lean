import ModelClasses.Proofs.Generation
import ModelClasses.Proofs.Synthesis.Attribution

/-! # The order of failures

All that can be wrong with a declaration, in one list: first what concerns the declaration itself,
then the types and annotations of the properties of the whole hierarchy, then what the properties are
made into. Generation fails with the first of the list. What concerns a property is attributed to it,
wherever the property is declared and the failing name is written. -/

namespace ModelClasses

/-- Where a failure arises. -/
inductive Stage
  | kind
  | classAnnotations
  | directive
  | className
  | supertypes
  | type (property : String)
  | annotations (property : String)
  | classification (property : String)
deriving DecidableEq

namespace Stage

/-- The property that is looked at; at the first five stages it is the declaration. -/
def property? : Stage → Option String
  | kind | classAnnotations | directive | className | supertypes => none
  | type property | annotations property | classification property => some property

/-- The failures of one stage. -/
def failing (stage : Stage) (failures : List GenerationError) : List (Stage × GenerationError) :=
  failures.map fun e => (stage, e)

@[simp] theorem map_snd_failing (stage : Stage) (failures : List GenerationError) :
    (stage.failing failures).map (·.2) = failures := by
  rw [failing, List.map_map]
  exact List.map_id failures

theorem property?_failing {stage : Stage} {failures : List GenerationError}
    (h : ∀ e ∈ failures, e.property? = stage.property?) :
    ∀ x ∈ stage.failing failures, x.2.property? = x.1.property? := by
  intro x hx
  obtain ⟨e, he, rfl⟩ := List.mem_map.1 hx
  exact h e he

end Stage

/-- What can fail after a step, if that succeeds. -/
def failuresAfter {ε α δ : Type} (r : Except ε α) (failures : α → List δ) : List δ :=
  match r with
  | .ok x => failures x
  | .error _ => []

theorem mem_failuresAfter {ε α δ : Type} {r : Except ε α} {failures : α → List δ} {e : δ}
    (h : e ∈ failuresAfter r failures) : ∃ x, r = .ok x ∧ e ∈ failures x := by
  cases r with
  | error => cases h
  | ok x => exact ⟨x, rfl, h⟩

namespace AnnotationValue

def isText : AnnotationValue → Bool
  | string _ => true
  | _ => false

def isFlag : AnnotationValue → Bool
  | bool _ => true
  | _ => false

end AnnotationValue

namespace Directive

/-- The failure of an argument that is there with a value of another type. -/
def mistyped (a : AnnotationRecord) (hasType : AnnotationValue → Bool) (argument : String) :
    List GenerationError :=
  match a.argument? argument with
  | some v => if hasType v then [] else [a.unsupported argument v none]
  | none => []

def failures (s : Settings) (annotations : List AnnotationRecord) : List GenerationError :=
  match annotations.find? fun a => s.tag? a.qualifiedName = some .generate with
  | some a =>
    mistyped a AnnotationValue.isFlag Tag.delegatedClassArgument ++
      [Tag.nameArgument, Tag.prefixArgument, Tag.suffixArgument].flatMap
        (mistyped a AnnotationValue.isText)
  | none => []

theorem failure?_flagArgument (a : AnnotationRecord) (argument : String) :
    failure? (flagArgument a argument) = (mistyped a AnnotationValue.isFlag argument).head? := by
  rw [flagArgument, mistyped]
  cases a.argument? argument with
  | none => rfl
  | some v => cases v <;> rfl

theorem failure?_textArgument (a : AnnotationRecord) (argument : String) :
    failure? (textArgument a argument) = (mistyped a AnnotationValue.isText argument).head? := by
  rw [textArgument, mistyped]
  cases a.argument? argument with
  | none => rfl
  | some v => cases v <;> rfl

theorem failure?_ofRecords (s : Settings) (annotations : List AnnotationRecord) :
    failure? (ofRecords s annotations) = (failures s annotations).head? := by
  rw [ofRecords, failures]
  cases annotations.find? fun a => s.tag? a.qualifiedName = some .generate with
  | none => rfl
  | some a =>
    refine failure?_bind (failure?_flagArgument a _) fun delegatedClass _ => ?_
    refine failure?_bind (failure?_textArgument a _) fun name _ => ?_
    refine failure?_bind (failure?_textArgument a _) fun namePrefix _ => ?_
    exact failure?_bind (failure?_textArgument a _) fun nameSuffix _ => rfl

theorem property?_failures (s : Settings) (annotations : List AnnotationRecord) :
    ∀ e ∈ failures s annotations, e.property? = none := by
  have mistyped (a : AnnotationRecord) (hasType : AnnotationValue → Bool) (argument : String) :
      ∀ e ∈ mistyped a hasType argument, e.property? = none := by
    intro e he
    rw [Directive.mistyped] at he
    split at he
    · split at he
      · cases he
      · rw [List.mem_singleton] at he
        rw [he]
        rfl
    · cases he
  intro e he
  rw [failures] at he
  split at he
  · rcases List.mem_append.1 he with he | he
    · exact mistyped _ _ _ e he
    · obtain ⟨argument, -, he⟩ := List.mem_flatMap.1 he
      exact mistyped _ _ _ e he
  · cases he

end Directive

namespace Generation

variable (g : DeclarationGraph) (s : Settings) (d : Declaration)

/-- The directive of a declaration, if its annotations are resolved. -/
def directive : Except GenerationError Directive := do
  let annotations ← g.resolveAnnotations s d.package d.annotations
  Directive.ofRecords s annotations

/-- What is wrong with a declaration itself. -/
def declarationFailures : List (Stage × GenerationError) :=
  Stage.kind.failing
    (if d.kind = .interface then [] else [.notAnInterface d.qualifiedName d.kind.text]) ++
  Stage.classAnnotations.failing (g.annotationFailures s d.package none d.annotations) ++
  Stage.directive.failing
    (failuresAfter (g.resolveAnnotations s d.package d.annotations) (Directive.failures s)) ++
  Stage.className.failing
    (failuresAfter (directive g s d) fun directive =>
      if directive.name.isEmpty ∨ directive.className = d.simpleName then
        [.invalidName d.qualifiedName directive.className]
      else []) ++
  Stage.supertypes.failing
    ((d.supertypes.filter fun t => (g.parent? d.package t).isSome).flatMap
      (g.typeFailures d.package ("supertypes of " ++ d.qualifiedName) none))

/-- What is wrong with a property as it is written in an interface. -/
def resolutionFailures (a : Declaration × PropertyDeclaration) : List (Stage × GenerationError) :=
  (Stage.type a.2.name).failing
    (g.typeFailures a.1.package ("property " ++ a.2.name ++ " of " ++ a.1.qualifiedName)
      (some a.2.name) a.2.type) ++
  (Stage.annotations a.2.name).failing
    (g.annotationFailures s a.1.package (some a.2.name) a.2.annotations)

/-- What is wrong with what a property is to be made into. -/
def classificationFailures (a : Declaration × PropertyDeclaration) :
    List (Stage × GenerationError) :=
  (Stage.classification a.2.name).failing
    (failuresAfter (Descriptor.describeProperty g s a.1 a.2).result (Synthesis.failures g s))

/-- All failures of a declaration, the interfaces of its hierarchy being in an order. -/
def failures (order : List Declaration) : List (Stage × GenerationError) :=
  declarationFailures g s d ++
  (Descriptor.kept order).flatMap (resolutionFailures g s) ++
  (Descriptor.kept order).flatMap (classificationFailures g s)

variable {g s d}

theorem failure?_describeProperty (a : Declaration × PropertyDeclaration) :
    failure? (Descriptor.describeProperty g s a.1 a.2).result =
      ((resolutionFailures g s a).map (·.2)).head? := by
  rw [Descriptor.describeProperty, Outcome.failure?_result_mapError]
  calc
    _ = (g.typeFailures a.1.package ("property " ++ a.2.name ++ " of " ++ a.1.qualifiedName) none
            a.2.type ++
          g.annotationFailures s a.1.package none a.2.annotations).head?.map
        (·.onProperty a.2.name) := by
      refine congrArg _ (Outcome.failure?_result_bind (DeclarationGraph.failure?_resolve _) ?_)
      intro type _
      rw [Outcome.failure?_bind_pure]
      exact DeclarationGraph.failure?_resolveAnnotations s a.2.annotations
    _ = ((resolutionFailures g s a).map (·.2)).head? := by
      simp only [resolutionFailures, List.map_append, Stage.map_snd_failing, ← List.head?_map,
        DeclarationGraph.typeFailures, DeclarationGraph.map_onProperty_unresolved,
        DeclarationGraph.map_onProperty_annotationFailures]

theorem failure?_inherited :
    failure? (Descriptor.inherited g d).result =
      ((d.supertypes.filter fun t => (g.parent? d.package t).isSome).flatMap
        (g.typeFailures d.package ("supertypes of " ++ d.qualifiedName) none)).head? := by
  rw [Descriptor.inherited, Outcome.failure?_forEach, List.head?_flatMap]
  simp only [DeclarationGraph.failure?_resolve]

theorem failure?_collectAll {order : List Declaration} (first : g.DepthFirst d order) :
    failure? (Descriptor.collectAll g s d).result =
      (((Descriptor.kept order).flatMap (resolutionFailures g s)).map (·.2)).head? := by
  rw [Descriptor.failure?_collectAll first, List.map_flatMap, List.head?_flatMap]
  simp only [failure?_describeProperty]

theorem failure?_build {package : String} {order : List Declaration}
    (first : g.DepthFirst d order) :
    failure? (Descriptor.build g s package d).result =
      ((declarationFailures g s d ++
        (Descriptor.kept order).flatMap (resolutionFailures g s)).map (·.2)).head? := by
  simp only [declarationFailures, List.map_append, Stage.map_snd_failing, List.append_assoc]
  rw [Descriptor.build]
  by_cases interface : d.kind = .interface
  · rw [if_neg (not_not.2 interface), if_pos interface, List.nil_append]
    refine Outcome.failure?_result_bind (DeclarationGraph.failure?_resolveAnnotations s _) ?_
    intro annotations resolved
    rw [Outcome.result_liftM] at resolved
    rw [resolved]
    refine Outcome.failure?_result_bind (Directive.failure?_ofRecords s annotations) ?_
    intro found given
    have directed : directive g s d = .ok found := by
      rw [directive, resolved]
      exact given
    rw [directed]
    dsimp only [failuresAfter]
    split
    · rfl
    · rw [List.nil_append]
      refine Outcome.failure?_result_bind failure?_inherited fun inheritedInterfaces _ => ?_
      rw [Outcome.failure?_bind_pure, failure?_collectAll first]
  · rw [if_pos interface, if_neg interface]
    rfl

theorem failure?_synthesize_kept {descriptor : Descriptor} {package : String}
    {order : List Declaration} (first : g.DepthFirst d order)
    (built : (Descriptor.build g s package d).result = .ok descriptor) :
    failure? (Synthesis.synthesize g s descriptor).result =
      (((Descriptor.kept order).flatMap (classificationFailures g s)).map (·.2)).head? := by
  obtain ⟨-, _, _, _, c, -, -, -, -, collected, rfl⟩ := Descriptor.build_ok_iff.1 built
  rw [Synthesis.failure?_synthesize, List.map_flatMap]
  congr 1
  refine (flatMap_eq_of_forall₂ ?_ (Descriptor.collectAll_properties collected first)).symm
  intro a p described
  rw [classificationFailures, Stage.map_snd_failing, described]
  rfl

theorem failure?_generate {order : List Declaration} (first : g.DepthFirst d order) :
    failure? (generate g s d).result = ((failures g s d order).map (·.2)).head? := by
  rw [generate, failures, List.map_append]
  refine Outcome.failure?_result_bind (failure?_build first) fun descriptor built => ?_
  rw [← failure?_synthesize_kept first built, Outcome.result_bind]
  cases (Synthesis.synthesize g s descriptor).result with
  | error e => rfl
  | ok made =>
    refine (Outcome.failure?_bind_pure _ _).trans ?_
    rw [Delegation.delegate?]
    split <;> rfl

theorem property?_of_mem_failures {order : List Declaration} :
    ∀ x ∈ failures g s d order, x.2.property? = x.1.property? := by
  intro x hx
  simp only [failures, declarationFailures, resolutionFailures, List.mem_append,
    List.mem_flatMap] at hx
  rcases hx with ((((((hx | hx) | hx) | hx) | hx) | ⟨a, -, hx | hx⟩) | ⟨a, -, hx⟩)
  · refine Stage.property?_failing ?_ x hx
    split <;> simp [GenerationError.property?, Stage.property?]
  · exact Stage.property?_failing DeclarationGraph.property?_annotationFailures x hx
  · refine Stage.property?_failing ?_ x hx
    intro e he
    obtain ⟨annotations, -, he⟩ := mem_failuresAfter he
    exact Directive.property?_failures s annotations e he
  · refine Stage.property?_failing ?_ x hx
    intro e he
    obtain ⟨directive, -, he⟩ := mem_failuresAfter he
    split at he
    · rw [List.mem_singleton] at he
      rw [he]
      rfl
    · cases he
  · refine Stage.property?_failing ?_ x hx
    intro e he
    obtain ⟨t, -, he⟩ := List.mem_flatMap.1 he
    exact DeclarationGraph.property?_unresolved e he
  · exact Stage.property?_failing DeclarationGraph.property?_unresolved x hx
  · exact Stage.property?_failing DeclarationGraph.property?_annotationFailures x hx
  · refine Stage.property?_failing ?_ x hx
    intro e he
    obtain ⟨p, described, he⟩ := mem_failuresAfter he
    obtain ⟨name, -, -⟩ := Descriptor.describeProperty_ok described
    rw [Synthesis.property?_failures g s p e he, name]
    rfl

theorem generate_first_failure (g : DeclarationGraph) (s : Settings) (d : Declaration) :
    ∃ order, g.DepthFirst d order ∧ (∀ other, g.DepthFirst d other → other = order) ∧
      (∀ e, (generate g s d).result = .error e ↔
        ∃ stage later, failures g s d order = (stage, e) :: later) ∧
      ∀ x ∈ failures g s d order, x.2.property? = x.1.property? := by
  obtain ⟨order, depthFirst, unique⟩ := g.existsUnique_depthFirst d
  refine ⟨order, depthFirst, unique, ?_, property?_of_mem_failures⟩
  intro e
  rw [← failure?_eq_some_iff, failure?_generate depthFirst, List.head?_map, Option.map_eq_some_iff]
  constructor
  · rintro ⟨⟨stage, e⟩, first, rfl⟩
    obtain ⟨later, split⟩ := List.head?_eq_some_iff.1 first
    exact ⟨stage, later, split⟩
  · rintro ⟨stage, later, split⟩
    exact ⟨(stage, e), by rw [split]; rfl, rfl⟩

/-- A supertype of a modifier has an unknown argument. The inherited property that it was to modify
is the one that fails, before the next one, which has two defaults. -/
theorem generate_first_failure_inherited :
    let a : Declaration := {
      package := "p", name := "A", kind := .interface
      supertypes := [⟨"q.B", [], false⟩]
      properties := [⟨"x", ⟨"Int", [], false⟩, []⟩]
      annotations := [⟨"Generate", [⟨"name", .string "Made"⟩]⟩] }
    let b : Declaration := {
      package := "q", name := "B", kind := .interface
      properties := [
        ⟨"y", ⟨"Int", [], false⟩, [⟨"Create",
          [⟨"newProp", .string "bigger"⟩, ⟨"valueModifier", .reference "Grow"⟩]⟩]⟩,
        ⟨"z", ⟨"Int", [], false⟩, [⟨"IntDefault", []⟩, ⟨"LongDefault", []⟩]⟩] }
    let grow : Declaration := {
      package := "q", name := "Grow", kind := .object
      supertypes := [⟨"ValueModifier", [⟨"Int", [], false⟩, ⟨"Missing", [], false⟩], false⟩] }
    let g : DeclarationGraph := ⟨[a, b, grow]⟩
    let e : GenerationError := .unresolvedType "Missing" "supertypes of q.Grow" (some "y")
    (generate g {} a).result = .error e ∧
      ∃ later, failures g {} a [a, b] = (.classification "y", e) :: later ∧
        (.classification "z",
          .conflictingAnnotations "z" ["annotations.IntDefault", "annotations.LongDefault"]) ∈ later := by
  intro a b grow g e
  have aboveA : g.Walk ["p.A"] "p" a.supertypes (b :: [] ++ []) :=
    .visit rfl (by decide) (.nil _ _) (.nil _ _)
  have depthFirst : g.DepthFirst a [a, b] := ⟨[b], aboveA, rfl⟩
  obtain ⟨order, -, unique, first, -⟩ := generate_first_failure g {} a
  obtain rfl := unique _ depthFirst
  have all : failures g {} a [a, b] = [(.classification "y", e), (.classification "z",
      .conflictingAnnotations "z" ["annotations.IntDefault", "annotations.LongDefault"])] := by
    decide +kernel
  exact ⟨(first e).2 ⟨_, _, all⟩, _, all, List.mem_singleton_self _⟩

end Generation

end ModelClasses
