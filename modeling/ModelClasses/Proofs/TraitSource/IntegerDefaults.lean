import ModelClasses.Proofs.Generation.IntegerDefaults
import ModelClasses.Proofs.TraitSource.Interfaces

/-! # Integers in attributes

A tag with a number is read if the number is one of 64 bits, whatever else the file has; the sign is
part of the number. What is read is the number that is written, so the tag is good for exactly the
numbers of its type. -/

namespace ModelClasses.TraitSource

open Decimal

/-- A number in an attribute: digits, and whether there is a minus sign before them. -/
structure WrittenInteger where
  isNegative : Bool := false
  text : List Char
  digits : Nat

namespace WrittenInteger

def value (n : WrittenInteger) : Int := if n.isNegative then -n.digits else n.digits

def expression (n : WrittenInteger) : SourceExpression :=
  if n.isNegative then .negated ⟨n.text, .integer n.digits⟩ else .literal ⟨n.text, .integer n.digits⟩

theorem argumentValue_expression (n : WrittenInteger) :
    n.expression.argumentValue = integerValue n.value := by
  obtain ⟨isNegative, text, digits⟩ := n
  cases isNegative <;> rfl

end WrittenInteger

namespace Attribute

/-- A tag with a number for its value. -/
def ofInteger (tag : String) (n : WrittenInteger) : Attribute where
  path := [⟨tag, false⟩]
  body := .named [(.identifier ⟨Tag.soleArgument, false⟩, n.expression)]

theorem capital_vocabulary : ∀ entry ∈ Tag.vocabulary,
    entry.1.toList.head?.any Char.isUpper = true ∧ entry.1 ∉ moduleWords ∧ entry.1 ≠ "generate" := by
  decide +kernel

theorem pathName_singleton {name : String} (h : name ∉ moduleWords) :
    pathName [⟨name, false⟩] = name := by
  have kept : [name].filter (!moduleWords.contains ·) = [name] := by
    rw [List.filter_eq_self, List.forall_mem_singleton]
    simpa using h
  rw [pathName, List.map_singleton, kept, String.intercalate_singleton]

theorem arguments_ofInteger (tag : String) (n : WrittenInteger) :
    arguments (ofInteger tag n).body =
      (integerValue n.value).map fun v => [⟨Tag.soleArgument, v⟩] := by
  have argument : argumentOf (.identifier ⟨Tag.soleArgument, false⟩) n.expression =
      (integerValue n.value).map fun v => ⟨Tag.soleArgument, v⟩ := by
    have camel : Naming.toCamelCase Tag.soleArgument = Tag.soleArgument := by decide
    rw [argumentOf, n.argumentValue_expression, camel]
    cases integerValue n.value <;> rfl
  rw [ofInteger, arguments, List.mapM_cons, List.mapM_nil]
  dsimp only
  rw [argument]
  cases integerValue n.value <;> rfl

theorem usages_ofInteger {tag : String} {t : Tag} (entry : (tag, t) ∈ Tag.vocabulary)
    (n : WrittenInteger) :
    usages [ofInteger tag n] =
      (integerValue n.value).map fun v => [⟨tag, [⟨Tag.soleArgument, v⟩]⟩] := by
  obtain ⟨capital, word, notDirective⟩ := capital_vocabulary _ entry
  have directive : isDirective (ofInteger tag n).isGlobal (ofInteger tag n).path = false := by
    simp [isDirective, ofInteger, directivePath, notDirective]
  have annotation : isAnnotation (ofInteger tag n) = true := capital
  have named : pathName (ofInteger tag n).path = tag := pathName_singleton word
  have usage : usage? (ofInteger tag n) =
      (integerValue n.value).map fun v => some ⟨tag, [⟨Tag.soleArgument, v⟩]⟩ := by
    rw [usage?, directive, annotation, arguments_ofInteger, named]
    cases integerValue n.value <;> rfl
  rw [usages, List.mapM_cons, List.mapM_nil, usage]
  cases integerValue n.value <;> rfl

end Attribute

theorem exists_toInt_iff {n : Int} : (∃ i : Int64, i.toInt = n) ↔ Word.isSigned 64 n = true := by
  constructor
  · rintro ⟨i, rfl⟩
    exact Word.isSigned_toInt i
  · intro fits
    exact ⟨Int64.ofInt n, Word.long?_eq_some_iff.1 (if_pos fits)⟩

theorem integerValue_ok_iff {n : Int} {v : ArgumentValue} :
    integerValue n = .ok v ↔ ∃ i : Int64, i.toInt = n ∧ v = .integer i := by
  rw [integerValue]
  cases long : Word.long? n with
  | none =>
    refine iff_of_false nofun ?_
    rintro ⟨i, same, -⟩
    rw [Word.long?_eq_some_iff.2 same] at long
    cases long
  | some i =>
    have same := Word.long?_eq_some_iff.1 long
    constructor
    · rintro ⟨⟩
      exact ⟨i, same, rfl⟩
    · rintro ⟨j, same', rfl⟩
      rw [Int64.toInt_inj.1 (same.trans same'.symm)]

namespace SourceItem

variable {o : Origin} {attributes : List Attribute} {name : Identifier}
  {supertypes : List SourceType}

/-- An interface is read if all of its parts are. -/
theorem content_interface_succeeds_iff {methods : List Method} :
    (∃ c, (content o (.interface attributes name supertypes methods)).result = .ok c) ↔
      (∃ types, SourceType.usages supertypes = .ok types) ∧
      (∃ annotations, Attribute.usages attributes = .ok annotations) ∧
      ∀ m ∈ methods, ∃ p?, (property? name.name m).result = .ok p? := by
  rw [← Outcome.forEach_succeeds_iff]
  constructor
  · rintro ⟨c, read⟩
    obtain ⟨d, read, -⟩ := content_interface_ok_iff.1 read
    obtain ⟨types, annotations, properties, lowered, given, each, -⟩ :=
      interfaceDeclaration_ok_iff.1 read
    exact ⟨⟨types, lowered⟩, ⟨annotations, given⟩, properties, Outcome.forEach_ok_iff.2 each⟩
  · rintro ⟨⟨types, lowered⟩, ⟨annotations, given⟩, properties, each⟩
    exact ⟨_, content_interface_ok_iff.2 ⟨_, interfaceDeclaration_ok_iff.2
      ⟨types, annotations, properties, lowered, given, Outcome.forEach_ok_iff.1 each, rfl⟩, rfl⟩⟩

theorem property?_succeeds_iff {interface : String} {m : Method} {type : SourceType}
    (h : m.propertyType? = some type) :
    (∃ p?, (property? interface m).result = .ok p?) ↔
      (∃ usage, type.usage = .ok usage) ∧
        ∃ annotations, Attribute.usages m.attributes = .ok annotations := by
  constructor
  · rintro ⟨p?, read⟩
    obtain ⟨usage, annotations, lowered, given, -⟩ := (property?_ok_iff h).1 read
    exact ⟨⟨usage, lowered⟩, annotations, given⟩
  · rintro ⟨⟨usage, lowered⟩, annotations, given⟩
    exact ⟨_, (property?_ok_iff h).2 ⟨usage, annotations, lowered, given, rfl⟩⟩

variable {tag : String} {t : Tag} {before after : List Method} {m : Method}

/-- Of an accessor with a number in its attribute, the number must be one of 64 bits; the rest of the
interface is read as without the attribute. -/
theorem content_ofInteger_succeeds_iff (entry : (tag, t) ∈ Tag.vocabulary)
    (accessor : m.propertyType?.isSome = true) (n : WrittenInteger) :
    (∃ c, (content o (.interface attributes name supertypes
        (before ++ { m with attributes := [.ofInteger tag n] } :: after))).result = .ok c) ↔
      Word.isSigned 64 n.value = true ∧
      ∃ c, (content o (.interface attributes name supertypes
        (before ++ { m with attributes := [] } :: after))).result = .ok c := by
  obtain ⟨type, accessor⟩ := Option.isSome_iff_exists.1 accessor
  have read (attributes : List Attribute) :
      (∃ p?, (property? name.name { m with attributes }).result = .ok p?) ↔
        (∃ usage, type.usage = .ok usage) ∧
          ∃ annotations, Attribute.usages attributes = .ok annotations :=
    property?_succeeds_iff (m := { m with attributes }) accessor
  have fits : (∃ annotations, Attribute.usages [.ofInteger tag n] = .ok annotations) ↔
      Word.isSigned 64 n.value = true := by
    rw [Attribute.usages_ofInteger entry, ← failure?_eq_none_iff, failure?_map,
      failure?_eq_none_iff, ← exists_toInt_iff]
    simp only [integerValue_ok_iff]
    exact ⟨fun ⟨_, i, same, _⟩ => ⟨i, same⟩, fun ⟨i, same⟩ => ⟨_, i, same, rfl⟩⟩
  have none : ∃ annotations, Attribute.usages [] = .ok annotations := ⟨[], rfl⟩
  simp only [content_interface_succeeds_iff, List.forall_mem_append, List.forall_mem_cons, read,
    fits, none, and_true]
  tauto

end SourceItem

theorem accessors_append_cons {before after : List Method} {m : Method}
    (accessor : m.propertyType?.isSome = true) :
    accessors (before ++ m :: after) = accessors before ++ m :: accessors after := by
  simp [accessors, accessor]

theorem declarationsOf_integerDefault {o : Origin} {place : ItemPlace}
    {attributes : List Attribute} {name : Identifier} {supertypes : List SourceType}
    (before after : List Method) {m : Method} (accessor : m.propertyType?.isSome = true)
    {tag : String} {kind : LiteralKind} {bits : Nat}
    (entry : (tag, .literalDefault kind) ∈ Tag.vocabulary) (width : kind.width? = some bits)
    (n : WrittenInteger) :
    let item (own : List Attribute) : SourceItem :=
      .interface attributes name supertypes (before ++ { m with attributes := own } :: after)
    ((∃ g, (declarationsOf o (place.fill (item [.ofInteger tag n]))).result = .ok g) ↔
      Word.isSigned 64 n.value = true ∧
        ∃ g, (declarationsOf o (place.fill (item []))).result = .ok g) ∧
    ∀ g, (declarationsOf o (place.fill (item [.ofInteger tag n]))).result = .ok g →
      (∀ x ∈ g.declarations, x.simpleName ≠ tag) →
      ∃ i : Int64, i.toInt = n.value ∧
        ∃ d ∈ g.declarations, d.kind = .interface ∧
          d.package = (o.within place.modules).package ∧ d.name = name.name ∧
          ∃ earlier p later, d.properties = earlier ++ p :: later ∧
            earlier.map (·.name) = (accessors before).map Method.propertyName ∧
            p.name = m.propertyName ∧
            ∀ s, Generation.IntegerDefault g s d p tag bits i := by
  intro item
  refine ⟨?_, ?_⟩
  · simp only [item, ItemPlace.declarationsOf_fill_succeeds_iff,
      SourceItem.content_ofInteger_succeeds_iff entry accessor]
    tauto
  · intro g read undeclared
    obtain ⟨d, inside, interface, package, sameName, declared⟩ := ItemPlace.exists_interface read
    rw [accessors_append_cons (m := { m with attributes := [.ofInteger tag n] }) accessor] at declared
    obtain ⟨earlier, rest, properties, each, others⟩ := exists_append_of_forall₂ declared
    obtain ⟨p, later, declares, -, rfl⟩ := List.forall₂_cons_left_iff.1 others
    obtain ⟨v, given, sole⟩ := map_eq_ok_iff.1
      ((Attribute.usages_ofInteger entry n).symm.trans declares.annotations)
    obtain ⟨i, value, rfl⟩ := integerValue_ok_iff.1 given
    exact ⟨i, value, d, inside, interface, package, sameName, earlier, p, later, properties,
      (map_eq_of_forall₂ (fun _ _ h => h.name.symm) each).symm, declares.name,
      fun s => Generation.integerDefault entry width undeclared sole.symm⟩

/-- The smallest number of 64 bits, whose digits alone are none of 64 bits. -/
theorem declarationsOf_integerDefault_least :
    let least : WrittenInteger := {
      isNegative := true, text := "9223372036854775808".toList, digits := 9223372036854775808 }
    let start : Method := {
      name := ⟨"start", false⟩, takesOnlyReceiver := true
      result := some (.named [] ⟨"i64", false⟩ []) }
    let asks : Attribute := {
      path := Attribute.directivePath
      body := .directive (some [.value "name" (.literal ⟨"\"Made\"".toList, .string "Made"⟩)]) }
    let place : ItemPlace := .inside [] ⟨"m", false⟩ (.here [] []) []
    let item : SourceItem := .interface [asks] ⟨"T", false⟩ []
      [{ start with attributes := [.ofInteger "LongDefault" least] }]
    ∃ g d file model parameter default,
      (declarationsOf { package := "p" } (place.fill item)).result = .ok g ∧
      d ∈ g.declarations ∧ (Generation.generate g {} d).result = .ok file ∧
      file.classes.head? = some model ∧ parameter ∈ model.constructor ∧ parameter.name = "start" ∧
      parameter.default = some default ∧ default.ReadsAs Int64.minValue := by
  intro least start asks place item
  let made : Declaration := {
    package := "p.m", name := "T", kind := .interface
    properties := [⟨"start", ⟨"Long", [], false⟩,
      [⟨"LongDefault", [⟨"value", .integer (Int64.ofInt (-9223372036854775808))⟩]⟩]⟩]
    annotations := [⟨"Generate", [⟨"name", .string "Made"⟩]⟩] }
  have read : (declarationsOf { package := "p" } (place.fill item)).result = .ok ⟨[made]⟩ := by
    dsimp only [place, item, start, least, asks]
    rfl
  have generated : ∃ file, (Generation.generate ⟨[made]⟩ {} made).result = .ok file :=
    ⟨_, Generation.generate_of_alone ⟨[], .nil _ _, rfl⟩ rfl rfl rfl (by decide) rfl rfl rfl rfl⟩
  obtain ⟨file, generated⟩ := generated
  have entry : ("LongDefault", .literalDefault .long) ∈ Tag.vocabulary := by simp [Tag.vocabulary]
  obtain ⟨-, numbers⟩ := declarationsOf_integerDefault [] [] (m := start) rfl entry rfl least
  obtain ⟨i, value, d, inside, -, -, -, earlier, p, later, split, first, name, each⟩ :=
    numbers _ read (by decide)
  obtain rfl := List.mem_singleton.1 inside
  have alone : ∀ other ∈ earlier, other.name ≠ p.name := by
    rw [List.map_eq_nil_iff.1 first]
    exact fun _ h => absurd h List.not_mem_nil
  obtain ⟨-, model, others, parameter, default, classes, own, sameName, given, reads⟩ :=
    (each {}).generated earlier later split alone file generated
  obtain rfl : i = Int64.minValue := Int64.toInt_inj.1 value
  exact ⟨_, _, file, model, parameter, default, read, inside, generated, by rw [classes]; rfl, own,
    sameName.trans (name.trans (by decide)), given, reads⟩

end ModelClasses.TraitSource
