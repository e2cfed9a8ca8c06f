import ModelClasses.Proofs.Generation
import ModelClasses.Proofs.Resolution.AnnotationRecords
import ModelClasses.Proofs.Tag

/-! # The declarations of a pass

A pass takes a declaration if one of its annotations, by what its name stands for, asks for a class.
The directive is read from the annotations after they have been resolved. Resolution keeps their order
and gives each the name that discovery has looked at, so both find the same annotation. -/

namespace ModelClasses

/-- A text argument as it is written; it is empty when it is left out. -/
def AnnotationUsage.text (u : AnnotationUsage) (argument : String) : String :=
  match u.argument? argument with
  | some (.string t) => t
  | _ => ""

namespace DeclarationGraph

/-- An annotation asks for a class. -/
def IsDirective (g : DeclarationGraph) (s : Settings) (package : String) (u : AnnotationUsage) :
    Prop :=
  g.annotationName s package u.name = s.generateTag

instance (g : DeclarationGraph) (s : Settings) (package : String) :
    DecidablePred (g.IsDirective s package) :=
  fun u => inferInstanceAs (Decidable (g.annotationName s package u.name = s.generateTag))

/-- The first annotation of a declaration that asks for a class. -/
def directiveUsage? (g : DeclarationGraph) (s : Settings) (d : Declaration) :
    Option AnnotationUsage :=
  d.annotations.find? fun u => g.IsDirective s d.package u

variable {g : DeclarationGraph} {s : Settings} {package : String}

/-- A resolved annotation has the arguments of the written one. -/
theorem argument?_resolveUsage {u : AnnotationUsage} {r : AnnotationRecord}
    (h : g.resolveUsage s package u = .ok r) (argument : String) :
    Option.Rel (g.ValueStandsFor package) (u.argument? argument) (r.argument? argument) := by
  have found := find?_of_forall₂ (p := (·.name == argument)) (q := (·.name == argument)) ?_
    (resolveUsage_ok_iff.1 h).arguments
  · rw [AnnotationUsage.argument?, AnnotationRecord.argument?]
    generalize u.arguments.find? _ = written at found ⊢
    generalize r.arguments.find? _ = read at found ⊢
    cases found with
    | none => exact .none
    | some stands => exact .some stands.value
  · intro a b stands
    rw [stands.name]

theorem textArgument_resolveUsage {u : AnnotationUsage} {r : AnnotationRecord}
    (h : g.resolveUsage s package u = .ok r) {argument t : String}
    (given : Directive.textArgument r argument = .ok t) : t = u.text argument := by
  have written := argument?_resolveUsage h argument
  rw [Directive.textArgument] at given
  rw [AnnotationUsage.text]
  generalize u.argument? argument = v at written
  generalize r.argument? argument = w at written given
  cases written with
  | none =>
    cases given
    rfl
  | some stands =>
    split at given
    · contradiction
    · rename_i same
      cases same
      cases given
      cases stands with
      | string => rfl
    · cases given

end DeclarationGraph

namespace Directive

/-- The annotation that a directive is read from. -/
def record? (s : Settings) (annotations : List AnnotationRecord) : Option AnnotationRecord :=
  annotations.find? fun a => s.tag? a.qualifiedName = some .generate

theorem ofRecords_of_record? {s : Settings} {annotations : List AnnotationRecord}
    {a : AnnotationRecord} (h : record? s annotations = some a) :
    ofRecords s annotations = ofRecord a := by
  rw [record?] at h
  rw [ofRecords, h]

/-- The name of the class is in the annotation as it is written. -/
theorem className_ofRecord {g : DeclarationGraph} {s : Settings} {package : String}
    {u : AnnotationUsage} {a : AnnotationRecord} (h : g.resolveUsage s package u = .ok a)
    {directive : Directive} (given : ofRecord a = .ok directive) :
    directive.className =
      u.text Tag.prefixArgument ++ u.text Tag.nameArgument ++ u.text Tag.suffixArgument := by
  obtain ⟨delegatedClass, -, given⟩ := bind_eq_ok_iff.1 given
  obtain ⟨name, hname, given⟩ := bind_eq_ok_iff.1 given
  obtain ⟨namePrefix, hprefix, given⟩ := bind_eq_ok_iff.1 given
  obtain ⟨nameSuffix, hsuffix, given⟩ := bind_eq_ok_iff.1 given
  cases given
  rw [className, DeclarationGraph.textArgument_resolveUsage h hname,
    DeclarationGraph.textArgument_resolveUsage h hprefix,
    DeclarationGraph.textArgument_resolveUsage h hsuffix]

end Directive

namespace Generation

variable {g : DeclarationGraph} {s : Settings} {d : Declaration}

theorem isAnnotated_iff :
    isAnnotated g s d = true ↔ ∃ u ∈ d.annotations, g.IsDirective s d.package u := by
  simp only [isAnnotated, List.any_eq_true, decide_eq_true_eq, s.tag?_eq_generate_iff,
    DeclarationGraph.IsDirective]

theorem isAnnotated_iff_directiveUsage? :
    isAnnotated g s d = true ↔ (g.directiveUsage? s d).isSome = true := by
  simp only [isAnnotated_iff, DeclarationGraph.directiveUsage?, List.find?_isSome,
    decide_eq_true_eq]

/-- Discovery and the directive find the same annotation. -/
theorem record?_resolveAnnotations {records : List AnnotationRecord}
    (h : g.resolveAnnotations s d.package d.annotations = .ok records) :
    Option.Rel (fun u a => g.resolveUsage s d.package u = .ok a) (g.directiveUsage? s d)
      (Directive.record? s records) := by
  refine find?_of_forall₂ ?_ (mapM_eq_ok_iff.1 h)
  intro u a resolved
  obtain ⟨arguments, -, rfl⟩ := map_eq_ok_iff.1 resolved
  rw [decide_eq_decide, s.tag?_eq_generate_iff]
  rfl

theorem className_build {records : List AnnotationRecord} {u : AnnotationUsage} {a : AnnotationRecord}
    (resolved : g.resolveAnnotations s d.package d.annotations = .ok records)
    (record : Directive.record? s records = some a) (read : g.resolveUsage s d.package u = .ok a)
    {package : String} {descriptor : Descriptor}
    (built : (Descriptor.build g s package d).result = .ok descriptor) :
    descriptor.className =
      u.text Tag.prefixArgument ++ u.text Tag.nameArgument ++ u.text Tag.suffixArgument := by
  obtain ⟨-, records', directive, _, c, resolved', given, -, -, -, rfl⟩ :=
    Descriptor.build_ok_iff.1 built
  obtain rfl : records = records' := Except.ok.inj (resolved.symm.trans resolved')
  rw [Directive.ofRecords_of_record? record] at given
  exact Directive.className_ofRecord read given

/-- A file for every one of some declarations that has one, and a failure for every other one. -/
structure Accounts (g : DeclarationGraph) (s : Settings) (ds : List Declaration) (report : Report) :
    Prop where
  generated : List.Forall₂ (fun d file => (generate g s d).result = .ok file)
    (ds.filter fun d => (generate g s d).result.isOk) report.generated
  failures : List.Forall₂
    (fun d failure => failure.declaration = d.qualifiedName ∧ failure.sourceFile = d.sourceFile ∧
      (generate g s d).result = .error failure.error)
    (ds.filter fun d => !(generate g s d).result.isOk) report.failures

theorem accounts_ofOutcomes (ds : List Declaration) :
    Accounts g s ds (ofOutcomes (ds.map (outcome g s))) := by
  have each : List.Forall₂ (fun d entry => outcome g s d = entry) ds (ds.map (outcome g s)) :=
    List.forall₂_map_right_iff.2 (List.forall₂_same.2 fun _ _ => rfl)
  constructor
  · refine forall₂_filterMap each ?_
    rintro d _ rfl
    rw [outcome]
    cases (generate g s d).result with
    | ok file => exact ⟨rfl, rfl⟩
    | error e => rfl
  · refine forall₂_filterMap each ?_
    rintro d _ rfl
    rw [outcome]
    cases (generate g s d).result with
    | ok file => rfl
    | error e => exact ⟨rfl, rfl, rfl, rfl⟩

/-- Where all declarations that ask for a class get one, the files are theirs. -/
theorem generated_of_ok {ds : List Declaration} {files : List SourceFile} (asking : annotated g s = ds)
    (made : List.Forall₂ (fun d file => (generate g s d).result = .ok file) ds files) :
    (process g s).generated = files := by
  rw [process, asking]
  clear asking
  induction made with
  | nil => rfl
  | @cons d file _ _ first _ ih =>
    have ok : outcome g s d = .ok file := by
      rw [outcome, first]
      rfl
    rw [List.map_cons, ok]
    exact congrArg (file :: ·) ih

theorem process_complete (g : DeclarationGraph) (s : Settings) :
    Accounts g s (g.declarations.filter fun d => ∃ u ∈ d.annotations, g.IsDirective s d.package u)
      (process g s) ∧
    ∀ d ∈ g.declarations, d.kind = .interface →
      ∀ records, g.resolveAnnotations s d.package d.annotations = .ok records →
        (d ∈ annotated g s ↔ (Directive.record? s records).isSome) ∧
        (d ∈ annotated g s → ∃ u a, g.directiveUsage? s d = some u ∧
          g.resolveUsage s d.package u = .ok a ∧
          Directive.ofRecords s records = Directive.ofRecord a ∧
          ∀ package descriptor, (Descriptor.build g s package d).result = .ok descriptor →
            descriptor.className =
              u.text Tag.prefixArgument ++ u.text Tag.nameArgument ++ u.text Tag.suffixArgument) := by
  have same : (isAnnotated g s) =
      fun d => decide (∃ u ∈ d.annotations, g.IsDirective s d.package u) := by
    funext d
    rw [Bool.eq_iff_iff, decide_eq_true_eq, isAnnotated_iff]
  constructor
  · rw [process, annotated, same]
    exact accounts_ofOutcomes _
  · intro d declared interface records resolved
    have listed : d ∈ annotated g s ↔ isAnnotated g s d = true := by
      rw [annotated, List.mem_filter]
      exact and_iff_right declared
    have found := record?_resolveAnnotations resolved
    rw [listed, isAnnotated_iff_directiveUsage?]
    generalize usage : g.directiveUsage? s d = u at found ⊢
    generalize record : Directive.record? s records = a at found ⊢
    cases found with
    | none => simp
    | @some u a read =>
      refine ⟨by simp, fun _ => ⟨u, a, rfl, read, Directive.ofRecords_of_record? record, ?_⟩⟩
      exact fun package descriptor => className_build resolved record read

/-- A declaration that fails does not keep the next one from being generated. Where the package has
an annotation of the directive's name, that name alone asks for nothing: one interface is left out,
and the other one's directive is its second annotation. -/
theorem process_complete_shadowed :
    let broken : Declaration := {
      package := "p", name := "Broken", kind := .class_, sourceFile := some "broken.rs"
      annotations := [⟨"Generate", [⟨"name", .string "Mended"⟩]⟩] }
    let item : Declaration := {
      package := "q", name := "Item", kind := .interface
      annotations := [⟨"Generate", []⟩, ⟨"annotations.Generate",
        [⟨"prefix", .string "My"⟩, ⟨"name", .string "Item"⟩]⟩] }
    let other : Declaration := {
      package := "q", name := "Other", kind := .interface, annotations := [⟨"Generate", []⟩] }
    let g : DeclarationGraph :=
      ⟨[broken, item, other, { package := "q", name := "Generate", kind := .annotationClass }]⟩
    (∃ file, (process g {}).generated = [file] ∧ (generate g {} item).result = .ok file) ∧
      (process g {}).failures =
        [⟨"p.Broken", some "broken.rs", .notAnInterface "p.Broken" "class"⟩] ∧
      other ∉ annotated g {} ∧
      ∃ descriptor, (Descriptor.build g {} "q" item).result = .ok descriptor ∧
        descriptor.className = "My" ++ "Item" ++ "" := by
  intro broken item other g
  obtain ⟨accounts, agree⟩ := process_complete g {}
  have depthFirst : g.DepthFirst item [item] := ⟨[], .nil _ _, rfl⟩
  have collected := (Descriptor.collectAll_ok_iff (s := {}) depthFirst).2 (.cons rfl (.nil _ _))
  have built : ∃ descriptor, (Descriptor.build g {} "q" item).result = .ok descriptor ∧
      ∃ made, (Synthesis.synthesize g {} descriptor).result = .ok made ∧
        (Delegation.delegate? {} descriptor made.derived).result = .ok none :=
    ⟨_, Descriptor.build_ok_iff.2 ⟨rfl, _, _, _, _, rfl, rfl, by decide, rfl, collected, rfl⟩, _, rfl,
      rfl⟩
  obtain ⟨descriptor, built, made, synthesized, delegated⟩ := built
  have generated := generate_ok_iff.2 ⟨descriptor, made, none, built, synthesized, delegated, rfl⟩
  have failed : (generate g {} broken).result = .error (.notAnInterface "p.Broken" "class") := rfl
  have asking : (g.declarations.filter fun d => ∃ u ∈ d.annotations, g.IsDirective {} d.package u) =
      [broken, item] := rfl
  rw [asking] at accounts
  have made_of : [broken, item].filter (fun d => (generate g {} d).result.isOk) = [item] := by
    simp [failed, generated, Except.isOk, Except.toBool]
  have left_over : [broken, item].filter (fun d => !(generate g {} d).result.isOk) = [broken] := by
    simp [failed, generated, Except.isOk, Except.toBool]
  obtain ⟨files, failures⟩ := accounts
  rw [made_of, List.forall₂_cons_left_iff] at files
  rw [left_over, List.forall₂_cons_left_iff] at failures
  obtain ⟨file, _, made, ⟨⟩, files⟩ := files
  obtain ⟨⟨_, _, e⟩, _, ⟨rfl, rfl, failing⟩, ⟨⟩, failures⟩ := failures
  obtain rfl : GenerationError.notAnInterface "p.Broken" "class" = e :=
    Except.error.inj (failed.symm.trans failing)
  obtain ⟨shadowed, -⟩ := agree other (by simp [g]) rfl _ rfl
  obtain ⟨agrees, first⟩ := agree item (by simp [g]) rfl _ rfl
  obtain ⟨u, a, usage, -, -, named⟩ := first (agrees.2 rfl)
  obtain rfl : _ = u := Option.some.inj usage
  refine ⟨⟨file, files, made⟩, failures, fun listed => ?_, descriptor, built, named _ _ built⟩
  exact absurd (shadowed.1 listed) (by decide)

end Generation

end ModelClasses
