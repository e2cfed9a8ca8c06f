import ModelClasses.Outcome
import ModelClasses.DeclarationGraph
import ModelClasses.TypeName

/-! # Resolution of types

What a name means to a declaration: a declaration with that qualified name, one in the
declaration's own package, or a built-in type. -/

namespace ModelClasses

/-- The packages whose types are visible everywhere by their simple names. -/
def defaultImports : List String := ["kotlin", "kotlin.collections"]

def builtinTypes : List String := [
  "kotlin.Any", "kotlin.Array", "kotlin.Boolean", "kotlin.Byte", "kotlin.Char",
  "kotlin.CharSequence", "kotlin.Double", "kotlin.Float", "kotlin.Int", "kotlin.Long",
  "kotlin.Nothing", "kotlin.Number", "kotlin.Short", "kotlin.String", "kotlin.Unit",
  "kotlin.collections.Collection", "kotlin.collections.Iterable", "kotlin.collections.List",
  "kotlin.collections.Map", "kotlin.collections.MutableCollection",
  "kotlin.collections.MutableIterable", "kotlin.collections.MutableList",
  "kotlin.collections.MutableMap", "kotlin.collections.MutableSet", "kotlin.collections.Set"]

def isBuiltin (qualified : String) : Bool := builtinTypes.contains qualified

namespace DeclarationGraph

/-- The qualified name that a name stands for in a package. -/
def resolveName? (g : DeclarationGraph) (package name : String) : Option String :=
  if g.contains name then some name
  else if !package.isEmpty && g.contains (Naming.qualify package name) then
    some (Naming.qualify package name)
  else if isBuiltin name then some name
  else (defaultImports.map (Naming.qualify · name)).find? isBuiltin

/-- The declaration that a name stands for in a package. -/
def declaration? (g : DeclarationGraph) (package name : String) : Option Declaration :=
  (g.resolveName? package name).bind g.get?

mutual
/-- A type all of whose names must be known. -/
def resolveStrict (g : DeclarationGraph) (package context : String) :
    TypeUsage → Except GenerationError TypeName
  | ⟨name, arguments, nullable⟩ =>
    match g.resolveName? package name with
    | none => .error (.unresolvedType name context none)
    | some qualified =>
      (resolveArguments g package context arguments).map fun ts => ⟨qualified, ts, nullable⟩

def resolveArguments (g : DeclarationGraph) (package context : String) :
    List TypeUsage → Except GenerationError (List TypeName)
  | [] => .ok []
  | t :: rest =>
    match resolveStrict g package context t with
    | .error e => .error e
    | .ok t => (resolveArguments g package context rest).map (t :: ·)
end

/-- A type whose own name may be unknown, in which case it is kept as it is written. -/
def resolve (g : DeclarationGraph) (package context : String) (usage : TypeUsage) :
    Attempt TypeName :=
  let arguments := g.resolveArguments package context usage.arguments
  match g.resolveName? package usage.name with
  | some qualified => ⟨arguments.map fun ts => ⟨qualified, ts, usage.nullable⟩, []⟩
  | none =>
    ⟨arguments.map fun ts => ⟨usage.name, ts, usage.nullable⟩, [.unknownType usage.name context]⟩

end DeclarationGraph

end ModelClasses
