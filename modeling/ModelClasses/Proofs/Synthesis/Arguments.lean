import ModelClasses.Synthesis
import ModelClasses.Proofs.Outcome
import ModelClasses.Proofs.Tag

/-! # What tags ask of their arguments

For each tag, exactly the arguments with which it is of use: a literal of its type, the name of an
object, the text of an expression, or an object whose supertypes say that it takes values of the
property's type. -/

namespace ModelClasses

namespace Synthesis

variable {g : DeclarationGraph} {s : Settings} {p : PropertyDescriptor} {a : AnnotationRecord}

theorem required_ok_iff {argument : String} {v : AnnotationValue} :
    required p a argument = .ok v ↔ a.argument? argument = some v := by
  rw [required]
  cases a.argument? argument <;> simp

theorem singleton_ok_iff {argument role name : String} {v : AnnotationValue} :
    singleton p a argument role v = .ok name ↔ v = .reference ⟨name, .singleton⟩ := by
  constructor
  · intro h
    unfold singleton at h
    split at h
    · cases h
      rfl
    · cases h
    · cases h
  · rintro rfl
    rfl

/-- The values that the literals of a type have. -/
inductive HasLiteral : LiteralKind → AnnotationValue → Prop
  | boolean (b : Bool) : HasLiteral .boolean (.bool b)
  | byte {i : Int64} (bounds : -128 ≤ i.toInt ∧ i.toInt < 128) : HasLiteral .byte (.integer i)
  | short {i : Int64} (bounds : -32768 ≤ i.toInt ∧ i.toInt < 32768) :
      HasLiteral .short (.integer i)
  | int {i : Int64} (bounds : -2147483648 ≤ i.toInt ∧ i.toInt < 2147483648) :
      HasLiteral .int (.integer i)
  | long (i : Int64) : HasLiteral .long (.integer i)
  /-- A character is one UTF-16 unit. -/
  | char {c : Char} (bound : c.toNat ≤ 0xFFFF) : HasLiteral .char (.char c)
  | float (x : Decimal.Binary .single) : HasLiteral .float (.float x)
  | double (x : Decimal.Binary .double) : HasLiteral .double (.double x)
  | string (text : String) : HasLiteral .string (.string text)

theorem hasLiteral_iff {kind : LiteralKind} {v : AnnotationValue} :
    (literalMatches kind v = true ∧ v.isRenderable = true) ↔ HasLiteral kind v := by
  constructor
  · rintro ⟨fits, renderable⟩
    rw [literalMatches.eq_def] at fits
    split at fits
    · exact .boolean _
    · exact .byte ((Decimal.Word.isSigned_iff 8 _).1 fits)
    · exact .short ((Decimal.Word.isSigned_iff 16 _).1 fits)
    · exact .int ((Decimal.Word.isSigned_iff 32 _).1 fits)
    · exact .long _
    · rw [AnnotationValue.isRenderable, decide_eq_true_iff] at renderable
      exact .char renderable
    · exact .float _
    · exact .double _
    · exact .string _
    · cases fits
  · intro h
    cases h with
    | byte bounds => exact ⟨(Decimal.Word.isSigned_iff 8 _).2 bounds, rfl⟩
    | short bounds => exact ⟨(Decimal.Word.isSigned_iff 16 _).2 bounds, rfl⟩
    | int bounds => exact ⟨(Decimal.Word.isSigned_iff 32 _).2 bounds, rfl⟩
    | char bound =>
      refine ⟨rfl, ?_⟩
      rw [AnnotationValue.isRenderable, decide_eq_true_iff]
      exact bound
    | boolean | long | float | double | string => exact ⟨rfl, rfl⟩

theorem literalDefault_ok_iff {kind : LiteralKind} :
    (∃ e, defaultValue p (.literalDefault kind) a = .ok e) ↔
      ∃ v, a.argument? (Tag.literalDefault kind).valueArgument = some v ∧ HasLiteral kind v := by
  simp only [defaultValue, bind_eq_ok_iff, required_ok_iff, ← hasLiteral_iff]
  constructor
  · rintro ⟨e, v, given, h⟩
    split at h
    · rename_i fits
      exact ⟨v, given, fits⟩
    · cases h
  · rintro ⟨v, given, fits⟩
    exact ⟨.literal v, v, given, by rw [if_pos fits]; rfl⟩

theorem providerDefault_ok_iff :
    (∃ e, defaultValue p .providerDefault a = .ok e) ↔
      ∃ name, a.argument? Tag.providerDefault.valueArgument = some (.reference ⟨name, .singleton⟩) := by
  simp only [defaultValue, bind_eq_ok_iff, required_ok_iff, singleton_ok_iff]
  constructor
  · rintro ⟨e, v, given, name, rfl, -⟩
    exact ⟨name, given⟩
  · rintro ⟨name, given⟩
    exact ⟨_, _, given, name, rfl, rfl⟩

theorem deriveText_ok_iff {text : String} :
    deriveText p a = .ok text ↔ a.argument? Tag.derived.valueArgument = some (.string text) := by
  simp only [deriveText, bind_eq_ok_iff, required_ok_iff]
  constructor
  · rintro ⟨v, given, h⟩
    split at h
    · cases h
      exact given
    · cases h
  · intro given
    exact ⟨_, given, rfl⟩

theorem copyRecord_ok_iff :
    (∃ copy, copyRecord p a = .ok copy) ↔ ∀ x ∈ a.arguments, x.value.isRenderable = true := by
  rw [← failure?_eq_none_iff, copyRecord, failure?_map, failure?_mapM, List.findSome?_eq_none_iff]
  refine forall₂_congr fun x _ => ?_
  rw [copyArgument]
  split
  · rename_i renderable
    simp [renderable]
  · rename_i unrenderable
    simp [unrenderable, unsupported]

/-- A name that is written in a package stands for the interface of modifiers: it is resolved to it,
or it is unknown and is the interface's name, in full or without the package. -/
def NamesModifier (g : DeclarationGraph) (s : Settings) (package name : String) : Prop :=
  g.resolveName? package name = some s.valueModifier ∨
    g.resolveName? package name = none ∧ (name = s.valueModifier ∨ name = Tag.modifierName)

theorem supertypeName_eq_iff {package name : String} :
    supertypeName g s package name = s.valueModifier ↔ NamesModifier g s package name := by
  rw [supertypeName, NamesModifier]
  cases g.resolveName? package name with
  | some qualified => simp
  | none =>
    simp only [List.find?_cons, List.find?_nil, s.simpleName_valueModifier,
      s.simpleName_valueProvider]
    by_cases bare : name = Tag.modifierName
    · simp [bare]
    · have notModifier : (Tag.modifierName == name) = false := beq_eq_false_iff_ne.2 (Ne.symm bare)
      by_cases provider : name = Tag.providerName
      · subst provider
        -- the name of the other interface is no name of this one, with or without a package
        have full : Tag.providerName ≠ s.valueModifier := by
          intro same
          have names := congrArg Naming.simpleName same
          rw [s.simpleName_valueModifier, Naming.simpleName_eq_self (by decide)] at names
          exact bare names
        simp [notModifier, s.valueProvider_ne_valueModifier, full, bare]
      · have notProvider : (Tag.providerName == name) = false :=
          beq_eq_false_iff_ne.2 (Ne.symm provider)
        simp [notModifier, notProvider, bare]

/-- An object of the graph makes values of one type from values of another. The types are the two
arguments of the first of its supertypes that stands for the interface of modifiers. -/
def Modifies (g : DeclarationGraph) (s : Settings) (modifier : String) (input output : TypeName) :
    Prop :=
  ∃ d, g.get? modifier = some d ∧
    ∃ before t after, d.supertypes = before ++ t :: after ∧
      (∀ u ∈ before, ¬ NamesModifier g s d.package u.name) ∧ NamesModifier g s d.package t.name ∧
      ∃ taken given, t.arguments = [taken, given] ∧
        g.resolveStrict d.package ("supertypes of " ++ modifier) taken = .ok input ∧
        g.resolveStrict d.package ("supertypes of " ++ modifier) given = .ok output

theorem modifierSignature_ok_iff {modifier : String} {input output : TypeName} :
    modifierSignature g s p modifier = .ok (input, output) ↔ Modifies g s modifier input output := by
  rw [modifierSignature, Modifies]
  cases g.get? modifier with
  | none => simp
  | some d =>
    simp only [Option.some.injEq, exists_eq_left']
    constructor
    · intro h
      split at h
      · rename_i name taken given nullable found
        obtain ⟨named, before, after, split, others⟩ := List.find?_eq_some_iff_append.1 found
        obtain ⟨input', resolved, h⟩ := bind_eq_ok_iff.1 h
        obtain ⟨output', resolved', h⟩ := bind_eq_ok_iff.1 h
        cases h
        refine ⟨before, _, after, split, ?_, supertypeName_eq_iff.1 (beq_iff_eq.1 named), taken,
          given, rfl, mapError_eq_ok_iff.1 resolved, mapError_eq_ok_iff.1 resolved'⟩
        intro u hu isModifier
        have other := others u hu
        rw [supertypeName_eq_iff.2 isModifier] at other
        simp at other
      · cases h
    · rintro ⟨before, ⟨name, arguments, nullable⟩, after, split, others, named, taken, given, rfl,
        resolved, resolved'⟩
      have found : d.supertypes.find?
          (fun t => supertypeName g s d.package t.name == s.valueModifier) =
            some ⟨name, [taken, given], nullable⟩ := by
        refine List.find?_eq_some_iff_append.2 ⟨?_, before, after, split, ?_⟩
        · exact beq_iff_eq.2 (supertypeName_eq_iff.2 named)
        · intro u hu
          simpa using mt supertypeName_eq_iff.1 (others u hu)
      rw [found]
      simp only [resolved, resolved']
      rfl

theorem createdName_ok_iff {name : String} :
    createdName p a = .ok name ↔
      a.argument? Tag.newPropertyArgument = some (.string name) ∧ name ≠ "" := by
  simp only [createdName, bind_eq_ok_iff, required_ok_iff]
  constructor
  · rintro ⟨v, given, h⟩
    split at h
    · split at h
      · cases h
      · rename_i nonempty
        cases h
        exact ⟨given, by simpa using nonempty⟩
    · cases h
  · rintro ⟨given, nonempty⟩
    exact ⟨_, given, by simp [nonempty]; rfl⟩

theorem createProperty_ok_iff {q : Property} :
    createProperty g s p a = .ok q ↔
      ∃ name modifier output, a.argument? Tag.newPropertyArgument = some (.string name) ∧
        name ≠ "" ∧
        a.argument? Tag.create.valueArgument = some (.reference ⟨modifier, .singleton⟩) ∧
        Modifies g s modifier p.type output ∧
        q = {
          name
          type := output
          isOverride := false
          initializer := .expression (.call modifier modifyFunction [.name p.name]) } := by
  simp only [createProperty, bind_eq_ok_iff, createdName_ok_iff, required_ok_iff, singleton_ok_iff]
  constructor
  · rintro ⟨name, ⟨named, nonempty⟩, v, given, modifier, rfl, ⟨input, output⟩, signature, h⟩
    dsimp only at h
    split at h
    · cases h
    · rename_i sameType
      cases h
      rw [not_not.1 sameType] at signature
      exact ⟨name, modifier, output, named, nonempty, given, modifierSignature_ok_iff.1 signature,
        rfl⟩
  · rintro ⟨name, modifier, output, named, nonempty, given, modifies, rfl⟩
    refine ⟨name, ⟨named, nonempty⟩, _, given, modifier, rfl, (p.type, output),
      modifierSignature_ok_iff.2 modifies, ?_⟩
    dsimp only
    rw [if_neg (not_not.2 rfl)]
    rfl

end Synthesis

end ModelClasses
