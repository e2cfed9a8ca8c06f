import ModelClasses.Synthesis

/-! # Delegated classes

A class that implements an interface by passing each interface it extends on to a constructor
parameter. Derived properties are computed anew; other properties of the interface itself remain
without an implementation, and a warning names them. -/

namespace ModelClasses

namespace Delegation

/-- The properties that no parameter and no expression implements. -/
def undelegated (d : Descriptor) (derived : List DerivedProperty) : List String :=
  (d.properties.filter fun p =>
    p.declaredIn = d.sourceInterface.qualifiedName ∧ ¬ derived.any (·.name == p.name)).map (·.name)

def parameterName (interface : TypeName) : String := Naming.decapitalize interface.simpleName

def model (s : Settings) (d : Descriptor) (derived : List DerivedProperty) : ClassModel where
  name := s.delegatedPrefix ++ d.className
  supertypes :=
    ⟨d.sourceInterface, none⟩ :: d.inheritedInterfaces.map fun i => ⟨i, some (parameterName i)⟩
  constructor := d.inheritedInterfaces.map fun i => ⟨parameterName i, i, none⟩
  properties := derived.map fun p =>
    { name := p.name
      type := p.type
      isOverride := true
      initializer := .expression (.verbatim p.deriveFrom) }

/-- There is no delegated class unless it is asked for and the interface extends another one. -/
def delegate? (s : Settings) (d : Descriptor) (derived : List DerivedProperty) :
    Attempt (Option ClassModel) :=
  if d.delegatedClass ∧ ¬ d.inheritedInterfaces.isEmpty then
    let missing := undelegated d derived
    ⟨.ok (some (model s d derived)),
      if missing.isEmpty then []
      else [.undelegatedProperties d.sourceInterface.qualifiedName missing]⟩
  else pure none

end Delegation

end ModelClasses
