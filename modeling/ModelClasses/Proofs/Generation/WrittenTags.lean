import ModelClasses.Proofs.Generation.Discovery

/-! # Tags as they are written

A property is classified by the tags of its resolved annotations. Resolution keeps the annotations in
their order, names each as its tag is named and leaves texts as they are, so what a tag asks for can be
read where the property is declared: whether it is derived, and how the properties that are created from
it are called. -/

namespace ModelClasses

namespace DeclarationGraph

variable {g : DeclarationGraph} {s : Settings} {package : String}

/-- The tag that an annotation stands for where it is written. -/
def tagOf? (g : DeclarationGraph) (s : Settings) (package : String) (u : AnnotationUsage) :
    Option Tag :=
  s.tag? (g.annotationName s package u.name)

/-- A declared property has the tag of one that is computed. -/
def isDerived (g : DeclarationGraph) (s : Settings) (a : Declaration × PropertyDeclaration) : Bool :=
  a.2.annotations.any fun u => g.tagOf? s a.1.package u == some .derived

/-- The annotations of a declared property that ask for a further one. -/
def createUsages (g : DeclarationGraph) (s : Settings) (a : Declaration × PropertyDeclaration) :
    List AnnotationUsage :=
  a.2.annotations.filter fun u => g.tagOf? s a.1.package u == some .create

/-- The names of the properties that are created from a declared one. -/
def createdNames (g : DeclarationGraph) (s : Settings) (a : Declaration × PropertyDeclaration) :
    List String :=
  (g.createUsages s a).map (·.text Tag.newPropertyArgument)

theorem tag?_resolveUsage {u : AnnotationUsage} {r : AnnotationRecord}
    (h : g.resolveUsage s package u = .ok r) : s.tag? r.qualifiedName = g.tagOf? s package u := by
  obtain ⟨arguments, -, rfl⟩ := map_eq_ok_iff.1 h
  rfl

/-- An argument that is a text has been written as that text. -/
theorem text_of_argument? {u : AnnotationUsage} {r : AnnotationRecord}
    (h : g.resolveUsage s package u = .ok r) {argument t : String}
    (given : r.argument? argument = some (.string t)) : u.text argument = t := by
  have read : Directive.textArgument r argument = .ok t := by rw [Directive.textArgument, given]
  exact (textArgument_resolveUsage h read).symm

end DeclarationGraph

namespace Descriptor

variable {g : DeclarationGraph} {s : Settings} {a : Declaration × PropertyDeclaration}
  {p : PropertyDescriptor} (described : (describeProperty g s a.1 a.2).result = .ok p)

include described

theorem resolved_annotations :
    List.Forall₂ (fun u r => g.resolveUsage s a.1.package u = .ok r) a.2.annotations p.annotations :=
  mapM_eq_ok_iff.1 (describeProperty_ok described).2.2

theorem isDerived_describeProperty : p.isDerived s = g.isDerived s a := by
  have tags : a.2.annotations.map (g.tagOf? s a.1.package) =
      p.annotations.map (fun r => s.tag? r.qualifiedName) := by
    refine map_eq_of_forall₂ ?_ (resolved_annotations described)
    intro u r resolved
    exact (DeclarationGraph.tag?_resolveUsage resolved).symm
  have same := congrArg (fun tags => tags.any fun tag => tag == some Tag.derived) tags
  rw [List.any_map, List.any_map] at same
  exact same.symm

theorem createTags_describeProperty :
    List.Forall₂ (fun u r => g.resolveUsage s a.1.package u = .ok r) (g.createUsages s a)
      (p.createTags s) := by
  refine List.rel_filter ?_ (resolved_annotations described)
  intro u r resolved
  simp only [DeclarationGraph.tag?_resolveUsage resolved]

/-- The properties that are created from a property have the names that its tags are written with. -/
theorem names_created {c : ClassifiedProperty} (h : Synthesis.Classifies g s p c) :
    c.created.map (·.name) = g.createdNames s a := by
  have each := forall₂_trans (createTags_describeProperty described) h.creates
  refine (map_eq_of_forall₂ ?_ each).symm
  rintro u q ⟨r, resolved, creates⟩
  exact DeclarationGraph.text_of_argument? resolved creates.name

end Descriptor

end ModelClasses
