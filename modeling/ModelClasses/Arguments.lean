import ModelClasses.Outcome

/-! # Command line arguments

A command is a word with options behind it. An option is given by a letter or by a name, and its
value is attached to it or is the next argument. An option is given at most once at each of the two
levels, in front of the command and behind it. -/

namespace ModelClasses

inductive CommandKind
  | generate
  | check
deriving DecidableEq

/-- What a user asks for. -/
structure Command where
  kind : CommandKind
  input : String
  output : Option String := none
  package : Option String := none
  config : Option String := none
deriving DecidableEq

/-- What the arguments of the program say. -/
inductive Invocation
  | run (command : Command)
  | version
  | help
  | misuse
deriving DecidableEq

namespace Arguments

inductive OptionName
  | config
  | input
  | output
  | package
deriving DecidableEq

namespace OptionName

def letter : OptionName → Char
  | config => 'c'
  | input => 'i'
  | output => 'o'
  | package => 'p'

def word : OptionName → String
  | config => "config"
  | input => "input"
  | output => "output"
  | package => "package"

/-- The value of a path may not be empty. -/
def allowsEmpty : OptionName → Bool
  | package => true
  | _ => false

end OptionName

/-- The values of the options that were given. -/
abbrev Values := List (OptionName × String)

/-- What is known where an argument is read. -/
structure Level where
  options : List OptionName
  hasVersion : Bool

def topLevel : Level := ⟨[.config], true⟩

def commandLevel : CommandKind → Level
  | .generate => ⟨[.config, .input, .output, .package], false⟩
  | .check => ⟨[.config, .input, .package], false⟩

/-- Something other than options: the end, a word, or a request that is met at once. -/
inductive Stop
  | done (values : Values)
  | word (values : Values) (text : String) (rest : List String)
  | version
  | help
  | misuse

/-- An option with a value, unless it was given before or has no such value. -/
def Values.add? (values : Values) (o : OptionName) (value : String) : Option Values :=
  if (values.lookup o).isSome || value.isEmpty && !o.allowsEmpty then none
  else some (values ++ [(o, value)])

/-- A name and the value attached to it by an equals sign. -/
def splitEquals (cs : List Char) : String × Option String :=
  match cs.dropWhile (· != '=') with
  | [] => (String.ofList cs, none)
  | _ :: value => (String.ofList (cs.takeWhile (· != '=')), some (String.ofList value))

/-- A value that is an argument of its own starts with no dash, but it may be one. -/
def isValue (argument : String) : Bool := argument == "-" || !argument.startsWith "-"

/-- What an argument that starts with a dash asks for. -/
inductive Request
  | option (o : OptionName) (value : Option String)
  | version
  | help
  | misuse

/-- What an argument behind two dashes asks for. -/
def Level.named (level : Level) (cs : List Char) : Request :=
  let (word, value) := splitEquals cs
  match level.options.find? (·.word == word) with
  | some o => .option o value
  | none =>
    if value.isSome then .misuse
    else if word == "help" then .help
    else if word == "version" && level.hasVersion then .version
    else .misuse

/-- What an argument behind one dash asks for. An equals sign may part the letter and the value. -/
def Level.lettered (level : Level) (letter : Char) (rest : List Char) : Request :=
  match level.options.find? (·.letter == letter) with
  | some o =>
    match rest with
    | [] => .option o none
    | '=' :: value => .option o (some (String.ofList value))
    | value => .option o (some (String.ofList value))
  | none =>
    if letter == 'h' then .help else if letter == 'V' && level.hasVersion then .version else .misuse

def Level.request (level : Level) (argument : String) : Request :=
  match argument.toList with
  | '-' :: '-' :: cs => level.named cs
  | '-' :: c :: cs => level.lettered c cs
  | _ => .misuse

/-- Reads options up to something else. Two dashes end the options, and nothing may follow them. -/
def Level.read (level : Level) (values : Values) : List String → Stop
  | [] => .done values
  | argument :: rest =>
    if argument == "--" then (if rest.isEmpty then .done values else .misuse)
    else if isValue argument then .word values argument rest
    else
      match level.request argument with
      | .version => .version
      | .help => .help
      | .misuse => .misuse
      | .option o (some value) =>
        match values.add? o value with
        | some more => level.read more rest
        | none => .misuse
      | .option o none =>
        match rest with
        | value :: rest =>
          if isValue value then
            match values.add? o value with
            | some more => level.read more rest
            | none => .misuse
          else .misuse
        | [] => .misuse

def kind? (word : String) : Option CommandKind :=
  if word == "generate" then some .generate else if word == "check" then some .check else none

/-- A command needs an input. Its own configuration counts more than one in front of it. -/
def commandOf (kind : CommandKind) (outer values : Values) : Invocation :=
  match values.lookup .input with
  | none => .misuse
  | some input => .run {
      kind, input
      output := values.lookup .output
      package := values.lookup .package
      config := (values.lookup .config).or (outer.lookup .config) }

/-- The options behind a command. -/
def readCommand (kind : CommandKind) (outer : Values) (arguments : List String) : Invocation :=
  match (commandLevel kind).read [] arguments with
  | .done values => commandOf kind outer values
  | .version => .version
  | .help => .help
  | _ => .misuse

/-- The words behind a request for help name at most one command. -/
def readHelp : List String → Invocation
  | [] => .help
  | [word] => if (kind? word).isSome || word == "help" then .help else .misuse
  | _ => .misuse

def read (arguments : List String) : Invocation :=
  match topLevel.read [] arguments with
  | .word values word rest =>
    match kind? word with
    | some kind => readCommand kind values rest
    | none => if word == "help" then readHelp rest else .misuse
  | .version => .version
  | .help => .help
  | _ => .misuse

end Arguments

end ModelClasses
