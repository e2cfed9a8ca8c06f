import ModelClasses.LogFilter
import ModelClasses.Settings
import ModelClasses.Text.Quoted
import ModelClasses.Toml.Reader

/-! # Manifests

The file that holds a user's settings, and the package of declarations that are read from source
text. -/

namespace ModelClasses

open Json

structure Manifest where
  generator : Settings := {}
  package : Option String := none
deriving DecidableEq

/-- What may be wrong with the settings of a manifest. -/
inductive ManifestError
  | annotationsPackage (name : String)
  | delegatedPrefix (name : String)
  | indent
  | logLevel (filter : String)
  | sourcePackage (name : String)
deriving DecidableEq

def ManifestError.message : ManifestError → String
  | annotationsPackage name => "Invalid annotations_package: " ++ Text.quoted name
  | delegatedPrefix name => "delegated_prefix must be an identifier: " ++ Text.quoted name
  | indent => "indent must consist of spaces or tabs"
  | logLevel filter => "Invalid log_level: " ++ Text.quoted filter
  | sourcePackage name => "Invalid source package: " ++ Text.quoted name

namespace Manifest

def defaultPath : String := "imogen.toml"

def isIdentifierText : List Char → Bool
  | [] => false
  | c :: rest =>
    (Text.isAlphabetic c || c == '_') && rest.all fun x => Text.isAlphanumeric x || x == '_'

/-- A letter or an underscore, and then letters, digits and underscores. -/
def isIdentifier (s : String) : Bool := isIdentifierText s.toList

/-- Identifiers with dots between them. -/
def isQualifiedName (s : String) : Bool := (Naming.dotSegments s.toList).all isIdentifierText

def packageOfJson? (room : Nat) (j : Json) : Option (Option String) :=
  match room, j.record? ["package"] with
  | _ + 1, some [package] => optional none (nullable string?) package
  | _, _ => none

def ofJson? : Nat → Json → Option Manifest
  | 0, _ => none
  | room + 1, j =>
    match j.record? ["generator", "source"] with
    | some [generator, source] => do
      let generator ← optional {} (Settings.ofJson? room) generator
      let package ← optional none (packageOfJson? room) source
      return ⟨generator, package⟩
    | _ => none

/-- The manifest that a text holds. -/
def read? (text : String) : Option Manifest :=
  (Toml.read? text).bind fun t => ofJson? nestingLimit t.toJson

/-- The package of declarations that are read from source text. -/
def sourcePackage (m : Manifest) : String := m.package.getD ""

/-- The first setting that is not valid. -/
def check (m : Manifest) : Except ManifestError Unit :=
  let s := m.generator
  if !s.annotationsPackage.isEmpty && !isQualifiedName s.annotationsPackage then
    .error (.annotationsPackage s.annotationsPackage)
  else if !isIdentifier s.delegatedPrefix then .error (.delegatedPrefix s.delegatedPrefix)
  else if s.indent.isEmpty || !s.indent.toList.all Toml.isLineSpace then .error .indent
  else if !LogFilter.isValid s.logLevel then .error (.logLevel s.logLevel)
  else if !m.sourcePackage.isEmpty && !isQualifiedName m.sourcePackage then
    .error (.sourcePackage m.sourcePackage)
  else .ok ()

end Manifest

end ModelClasses
