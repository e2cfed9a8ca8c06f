import ModelClasses.Arguments
import ModelClasses.DeclarationDocument
import ModelClasses.Emission
import ModelClasses.FileTree
import ModelClasses.Json.Standard
import ModelClasses.Manifest
import ModelClasses.TraitSource.Declarations

/-! # Commands

What the commands of the program do: declarations are read from a file, classes are generated from
them, and the generated files are written or only named. -/

namespace ModelClasses

inductive CommandError
  | manifestFile (path : String) (fault : FileFault)
  | manifestText
  | manifest (e : ManifestError)
  | documentFile (path : String) (fault : FileFault)
  | documentText (path : String)
  | sourceFile (path : String) (fault : FileFault)
  | sourceTokens (path : String)
  | source (path : String) (e : TraitSource.SourceError)
  /-- A file below the output directory is not written. -/
  | output (root path : String) (fault : FileFault)
  /-- The record of dependencies is not written. -/
  | record (record path : String) (fault : FileFault)
  | failures (count : Nat)

namespace CommandError

def writing (path : String) (fault : FileFault) : List String :=
  ["failed to write " ++ path ++ ": " ++ fault.message, fault.message]

/-- The messages of a failure, from the outermost to the innermost. -/
def messages : CommandError → List String
  | manifestFile path fault => ["Failed to read manifest: " ++ Text.quoted path, fault.message]
  | manifestText => ["Failed to parse manifest"]
  | manifest e => [e.message]
  | documentFile path fault => ["Failed to read declarations: " ++ path, fault.message]
  | documentText path => ["Failed to parse declarations: " ++ path]
  | sourceFile path fault => ["Failed to read source file: " ++ path, fault.message]
  | sourceTokens path =>
    ["Failed to parse Rust file: " ++ path ++ ": cannot parse string into token stream"]
  | source path e => ("Failed to read declarations from " ++ path) :: e.messages
  | output root path fault =>
    ("Failed to write generated files to " ++ root) :: writing path fault
  | record r path fault => ("Failed to write dependency manifest: " ++ r) :: writing path fault
  | failures count => [Nat.repr count ++ " declaration(s) failed"]

end CommandError

/-- What a command has told so far: its lines, the failures of declarations, and warnings. -/
structure Transcript where
  lines : List String := []
  failures : List String := []
  warnings : List Warning := []

namespace Transcript

def textOf (lines : List String) : String := String.join (lines.map (· ++ "\n"))

def printed (t : Transcript) : String := textOf t.lines

def complaints (t : Transcript) : String := textOf t.failures

end Transcript

/-- A part of a command. What was told stays told when the command fails. -/
abbrev Session (m : Type → Type) := ExceptT CommandError (StateT Transcript m)

namespace Session

variable {m : Type → Type} [Monad m] {α : Type}

def print (line : String) : Session m Unit :=
  modify fun t => { t with lines := t.lines ++ [line] }

def complain (line : String) : Session m Unit :=
  modify fun t => { t with failures := t.failures ++ [line] }

def warn (ws : List Warning) : Session m Unit :=
  modify fun t => { t with warnings := t.warnings ++ ws }

def ofOutcome {ε : Type} (wrap : ε → CommandError) (o : Outcome ε α) : Session m α := do
  warn o.warnings
  match o.result with
  | .ok a => return a
  | .error e => throw (wrap e)

/-- Something done with a file. -/
def withFile (wrap : FileFault → CommandError) (action : m (Except FileFault α)) :
    Session m α := do
  match ← (action : Session m (Except FileFault α)) with
  | .ok a => return a
  | .error fault => throw (wrap fault)

end Session

namespace Command

open Session

variable {m : Type → Type} [Monad m]

def readManifest (files : FileAccess m) (path : String) : Session m Manifest := do
  let text ← withFile (.manifestFile path) (files.load path)
  match Manifest.read? text with
  | some manifest => return manifest
  | none => throw .manifestText

/-- The manifest that is asked for, or the one in its usual place, or the default one. -/
def findManifest (files : FileAccess m) (config : Option String) : Session m Manifest := do
  match config with
  | some path => readManifest files path
  | none =>
    if ← files.isFile Manifest.defaultPath then readManifest files Manifest.defaultPath else return {}

def loadManifest (files : FileAccess m) (config : Option String) : Session m Manifest := do
  let manifest ← findManifest files config
  match manifest.check with
  | .ok () => return manifest
  | .error e => throw (.manifest e)

/-- The extension of files with trait source; any other file holds a document. -/
def sourceExtension : String := "rs"

def readSource (files : FileAccess m) (path package : String) : Session m DeclarationGraph := do
  let text ← withFile (.sourceFile path) (files.load path)
  match TraitSource.Tokens.read? text with
  | none => throw (.sourceTokens path)
  | some tokens =>
    ofOutcome (.source path)
      (TraitSource.declarationsOfTokens { sourceFile := some path, package } tokens)

def readDocument (files : FileAccess m) (path : String) : Session m DeclarationGraph := do
  let text ← withFile (.documentFile path) (files.load path)
  match DeclarationGraph.read? text with
  | some g => return g
  | none => throw (.documentText path)

/-- The declarations of a command's input. Only trait source takes a package. -/
def readDeclarations (files : FileAccess m) (c : Command) (manifest : Manifest) :
    Session m DeclarationGraph := do
  if Path.extension? c.input = some sourceExtension then
    readSource files c.input (c.package.getD manifest.sourcePackage)
  else
    if c.package.isSome then warn [.unusedPackage]
    readDocument files c.input

/-- Writes a file, and makes the directories that it is in. -/
def writeFile (files : FileAccess m) (wrap : String → FileFault → CommandError)
    (path text : String) : Session m Unit := do
  match Path.parent? path with
  | some parent =>
    if !parent.isEmpty then withFile (wrap parent) (files.makeDirectories parent)
  | none => pure ()
  withFile (wrap path) (files.save path text)

def writeRecord (files : FileAccess m) (path : String) (record : DependencyRecord) :
    Session m Unit :=
  writeFile files (.record path) path record.write

/-- Writes the files of a report below a directory, each with its own text. -/
def writeFiles (files : FileAccess m) (s : Settings) (root : String) (generated : List SourceFile) :
    Session m Unit :=
  generated.forM fun file =>
    writeFile files (.output root) (Path.join root file.relativePath) (file.render s.indent)

def successMark : String := "✓ "

def failureMark : String := "✗ "

def failureLine (f : Failure) : String :=
  failureMark ++ "[E" ++ Nat.repr f.error.code ++ "] " ++ f.message

/-- Tells how a pass went. A pass with failures is a failure of the command. -/
def summarize (report : Generation.Report) : Session m Unit := do
  report.failures.forM fun f => complain (failureLine f)
  print ""
  print (Nat.repr report.generated.length ++ " file(s) generated, " ++
    Nat.repr report.failures.length ++ " declaration(s) failed")
  if !report.isSuccess then throw (.failures report.failures.length)

def process (g : DeclarationGraph) (s : Settings) : Session m Generation.Report := do
  warn (Generation.processWarnings g s)
  return Generation.process g s

def generate (files : FileAccess m) (c : Command) (manifest : Manifest) : Session m Unit := do
  let g ← readDeclarations files c manifest
  let s := manifest.generator
  let report ← process g s
  let root := c.output.getD s.outputDir
  writeFiles files s root report.generated
  report.generated.forM fun file => print (successMark ++ Path.join root file.relativePath)
  if let some path := s.dependencyManifest then
    writeRecord files path ⟨report.generated.map .ofFile⟩
  summarize report

def check (files : FileAccess m) (c : Command) (manifest : Manifest) : Session m Unit := do
  print ("Checking declarations: " ++ c.input)
  let g ← readDeclarations files c manifest
  let report ← process g manifest.generator
  for file in report.generated do
    for model in file.classes do
      print (successMark ++ Naming.qualify file.package model.name)
  summarize report

def perform (files : FileAccess m) (c : Command) : Session m Unit := do
  let manifest ← loadManifest files c.config
  match c.kind with
  | .generate => generate files c manifest
  | .check => check files c manifest

/-- Runs a command, and gives its failure, if it fails, and what it told. -/
def run (files : FileAccess m) (c : Command) : m (Except CommandError Unit × Transcript) :=
  (perform files c).run.run {}

end Command

/-- What the program shows, and the code it ends with. -/
structure ProgramResult where
  code : Nat
  printed : String := ""
  complaints : String := ""

namespace Invocation

def versionText : String := "imogen 0.9.0\n"

def helpText : String :=
  "Generate Kotlin model classes from annotated interfaces\n\n" ++
  "Usage: imogen [OPTIONS] <COMMAND>\n\n" ++
  "Commands:\n" ++
  "  generate  Generate implementations for every annotated interface\n" ++
  "  check     Run the generator without writing files\n" ++
  "  help      Print this message or the help of the given subcommand(s)\n\n" ++
  "Options:\n" ++
  "  -c, --config <CONFIG>  Path to imogen.toml (default: ./imogen.toml if present)\n" ++
  "  -h, --help             Print help\n" ++
  "  -V, --version          Print version\n"

def misuseText : String :=
  "error: the arguments are not understood\n\nFor more information, try '--help'.\n"

/-- The messages of a failure: the first one, and the others below as its causes. -/
def errorText : List String → String
  | [] => ""
  | [message] => "Error: " ++ message ++ "\n"
  | [message, cause] => "Error: " ++ message ++ "\n\nCaused by:\n    " ++ cause ++ "\n"
  | message :: causes =>
    "Error: " ++ message ++ "\n\nCaused by:\n" ++
      String.join (causes.zipIdx.map fun (cause, i) => s!"    {i}: " ++ cause ++ "\n")

def warningLine (w : Warning) : String :=
  "WARN " ++ w.message ++ String.join (w.details.map fun d => " " ++ d.1 ++ "=" ++ d.2) ++ "\n"

def resultOf (r : Except CommandError Unit × Transcript) : ProgramResult :=
  let told := String.join (r.2.warnings.map warningLine) ++ r.2.complaints
  match r.1 with
  | .ok () => ⟨0, r.2.printed, told⟩
  | .error e => ⟨1, r.2.printed, told ++ errorText e.messages⟩

/-- What the program does for its arguments. -/
def perform {m : Type → Type} [Monad m] (files : FileAccess m) : Invocation → m ProgramResult
  | version => return ⟨0, versionText, ""⟩
  | help => return ⟨0, helpText, ""⟩
  | misuse => return ⟨2, "", misuseText⟩
  | run command => do return resultOf (← command.run files)

end Invocation

end ModelClasses
