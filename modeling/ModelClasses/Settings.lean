import ModelClasses.Naming
import ModelClasses.Json.Format
import ModelClasses.Json.Record

/-! # Settings

What a user may decide about the classes that are generated and where they go. -/

namespace ModelClasses

open Json

structure Settings where
  /-- The package of the annotations that steer generation. -/
  annotationsPackage : String := "annotations"
  /-- What the name of a delegated class has in front of the class's own name. -/
  delegatedPrefix : String := "Delegated"
  /-- Whether a class with constructor parameters is a data class. -/
  dataClasses : Bool := true
  indent : String := "  "
  logLevel : String := "info"
  outputDir : String := "generated"
  /-- Where the record of generated files and their sources goes, if it is wanted. -/
  dependencyManifest : Option String := none
deriving DecidableEq

namespace Settings

/-- The qualified name of an annotation that steers generation. -/
def qualify (s : Settings) (simpleName : String) : String :=
  Naming.qualify s.annotationsPackage simpleName

def fieldNames : List String :=
  ["annotations_package", "delegated_prefix", "data_classes", "indent", "log_level", "output_dir",
    "dependency_manifest"]

def ofJson? : Nat → Json → Option Settings
  | 0, _ => none
  | _ + 1, j =>
    match j.record? fieldNames with
    | some [annotationsPackage, delegatedPrefix, dataClasses, indent, logLevel, outputDir,
        dependencyManifest] => do
      let defaults : Settings := {}
      let annotationsPackage ← optional defaults.annotationsPackage string? annotationsPackage
      let delegatedPrefix ← optional defaults.delegatedPrefix string? delegatedPrefix
      let dataClasses ← optional defaults.dataClasses bool? dataClasses
      let indent ← optional defaults.indent string? indent
      let logLevel ← optional defaults.logLevel string? logLevel
      let outputDir ← optional defaults.outputDir string? outputDir
      let dependencyManifest ← optional none (nullable string?) dependencyManifest
      return ⟨annotationsPackage, delegatedPrefix, dataClasses, indent, logLevel, outputDir,
        dependencyManifest⟩
    | _ => none

/-- The settings that a document holds; an empty text holds the default ones. -/
def read? [Format] (text : String) : Option Settings :=
  if text.isEmpty then some {} else (Format.read? text).bind (ofJson? nestingLimit)

end Settings

end ModelClasses
