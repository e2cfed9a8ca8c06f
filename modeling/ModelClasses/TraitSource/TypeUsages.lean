import ModelClasses.Declaration
import ModelClasses.TraitSource.Item
import ModelClasses.TraitSource.SourceError

/-! # Types of declarations from source types

References and pointers stand for what they point to, an optional type is nullable, and the types
of the standard library have names of their own. -/

namespace ModelClasses.TraitSource

/-- The words that lead to a module and are no part of its name. -/
def moduleWords : List String := ["crate", "self", "super"]

/-- The name that a path stands for: its segments with dots between them. -/
def pathName (segments : List Identifier) : String :=
  ".".intercalate ((segments.map (·.name)).filter (!moduleWords.contains ·))

namespace SourceType

/-- The types that have another name in declarations. Unsigned numbers take the next wider signed
type. -/
def knownTypes : List (String × String) := [
  ("String", "String"), ("str", "String"), ("bool", "Boolean"), ("char", "Char"), ("i8", "Byte"),
  ("i16", "Short"), ("i32", "Int"), ("i64", "Long"), ("isize", "Long"), ("u8", "Short"),
  ("u16", "Int"), ("u32", "Long"), ("u64", "Long"), ("usize", "Long"), ("f32", "Float"),
  ("f64", "Double"), ("Vec", "List"), ("VecDeque", "List"), ("HashMap", "Map"),
  ("BTreeMap", "Map"), ("HashSet", "Set"), ("BTreeSet", "Set")]

def listName : String := "List"

def optionalName : String := "Option"

/-- Pointers that stand for what they point to. -/
def pointerNames : List String := ["Box", "Rc", "Arc"]

/-- The name of a type that is written as a path. -/
def nameOf (qualifier : List Identifier) (name : Identifier) : String :=
  (knownTypes.lookup name.name).getD (pathName (qualifier ++ [name]))

/-- A path with its arguments. -/
def apply (qualifier : List Identifier) (name : Identifier) (arguments : List TypeUsage) :
    TypeUsage :=
  match arguments with
  | [t] =>
    if name.name = optionalName then { t with nullable := true }
    else if pointerNames.contains name.name then t
    else { name := nameOf qualifier name, arguments }
  | _ => { name := nameOf qualifier name, arguments }

mutual
def usage : SourceType → Except SourceProblem TypeUsage
  | named qualifier name arguments => do return apply qualifier name (← usages arguments)
  | function _ => .error .functionType
  | reference target => usage target
  | parenthesized inner => usage inner
  | slice element => do return { name := listName, arguments := [← usage element] }
  | projection _ tokens => .error (.type tokens)
  | other tokens => .error (.type tokens)

def usages : List SourceType → Except SourceProblem (List TypeUsage)
  | [] => .ok []
  | t :: rest => do
    let u ← usage t
    return u :: (← usages rest)
end

end SourceType

end ModelClasses.TraitSource
