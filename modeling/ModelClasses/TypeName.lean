import ModelClasses.Naming

/-! # Resolved types

A type whose name is qualified, as are the names of its arguments. -/

namespace ModelClasses

structure TypeName where
  qualifiedName : String
  arguments : List TypeName := []
  nullable : Bool := false
deriving Inhabited

namespace TypeName

mutual
def decEq : (a b : TypeName) → Decidable (a = b)
  | ⟨n, as, x⟩, ⟨m, bs, y⟩ =>
    if hn : n = m then
      match listDecEq as bs with
      | isTrue hs =>
        if hx : x = y then isTrue (by rw [hn, hs, hx])
        else isFalse fun h => hx (TypeName.mk.inj h).2.2
      | isFalse hs => isFalse fun h => hs (TypeName.mk.inj h).2.1
    else isFalse fun h => hn (TypeName.mk.inj h).1

def listDecEq : (as bs : List TypeName) → Decidable (as = bs)
  | [], [] => isTrue rfl
  | [], _ :: _ => isFalse nofun
  | _ :: _, [] => isFalse nofun
  | a :: as, b :: bs =>
    match decEq a b with
    | isTrue h =>
      match listDecEq as bs with
      | isTrue hs => isTrue (by rw [h, hs])
      | isFalse hs => isFalse fun e => hs (List.cons.inj e).2
    | isFalse h => isFalse fun e => h (List.cons.inj e).1
end

instance : DecidableEq TypeName := decEq

def named (qualifiedName : String) : TypeName := { qualifiedName }

def simpleName (t : TypeName) : String := Naming.simpleName t.qualifiedName

def package (t : TypeName) : String := Naming.packageOf t.qualifiedName

def withNullable (t : TypeName) (nullable : Bool) : TypeName := { t with nullable }

/-- Texts with a comma and a space between them. -/
def commaSeparated (texts : List (List Char)) : List Char := [',', ' '].intercalate texts

/-- The text of a type whose name is written as `name`, with its arguments already written. -/
def withArguments (name : List Char) (arguments : List (List Char)) (nullable : Bool) : List Char :=
  name ++ (if arguments.isEmpty then [] else '<' :: commaSeparated arguments ++ ['>']) ++
    (if nullable then ['?'] else [])

mutual
/-- The text of a type, its names written by `name`. -/
def render (name : String → List Char) : TypeName → List Char
  | ⟨qualified, arguments, nullable⟩ =>
    withArguments (name qualified) (renderList name arguments) nullable

def renderList (name : String → List Char) : List TypeName → List (List Char)
  | [] => []
  | t :: rest => render name t :: renderList name rest
end

/-- The text of a type in messages, with all names in full. -/
def text (t : TypeName) : String := String.ofList (t.render String.toList)

end TypeName

end ModelClasses
