import ModelClasses.Declaration

/-! # Graphs of declarations

Declarations in the order in which they were added, looked up by qualified name. Of several
declarations with one qualified name the first is found. -/

namespace ModelClasses

structure DeclarationGraph where
  declarations : List Declaration := []

namespace DeclarationGraph

def empty : DeclarationGraph := {}

def insert (g : DeclarationGraph) (d : Declaration) : DeclarationGraph :=
  ⟨g.declarations ++ [d]⟩

def ofList (ds : List Declaration) : DeclarationGraph := ds.foldl insert empty

def get? (g : DeclarationGraph) (qualified : String) : Option Declaration :=
  g.declarations.find? (·.qualifiedName == qualified)

def contains (g : DeclarationGraph) (qualified : String) : Bool := (g.get? qualified).isSome

def size (g : DeclarationGraph) : Nat := g.declarations.length

theorem declarations_insert (g : DeclarationGraph) (d : Declaration) :
    (g.insert d).declarations = g.declarations ++ [d] := rfl

theorem declarations_ofList (ds : List Declaration) : (ofList ds).declarations = ds := by
  suffices ∀ g : DeclarationGraph, (ds.foldl insert g).declarations = g.declarations ++ ds from
    (this empty).trans (List.nil_append ds)
  induction ds with
  | nil => simp
  | cons d ds ih => intro g; simp [ih, declarations_insert]

theorem get?_insert (g : DeclarationGraph) (d : Declaration) (q : String) :
    (g.insert d).get? q = (g.get? q).or (if d.qualifiedName == q then some d else none) := by
  simp only [get?, declarations_insert, List.find?_append]
  congr 1
  by_cases h : d.qualifiedName == q <;> simp [h]

theorem qualifiedName_of_get? {g : DeclarationGraph} {name : String} {d : Declaration}
    (h : g.get? name = some d) : d.qualifiedName = name := by
  simpa using List.find?_some h

theorem mem_of_get? {g : DeclarationGraph} {name : String} {d : Declaration}
    (h : g.get? name = some d) : d ∈ g.declarations :=
  List.mem_of_find?_eq_some h

end DeclarationGraph

end ModelClasses
