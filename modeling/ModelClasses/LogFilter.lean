import ModelClasses.Text.CharClass

/-! # Log filters

A filter is a list of directives with commas between them: a level, a target, or a target with a
level behind an equals sign. A span in brackets may stand after the target. -/

namespace ModelClasses.LogFilter

def levels : List String := ["trace", "debug", "info", "warn", "error", "off"]

/-- A level is a word in any case, a digit up to five, or nothing. -/
def isLevel (cs : List Char) : Bool :=
  cs.isEmpty || levels.contains (String.ofList (cs.map Char.toLower)) ||
    (cs.length == 1 && cs.all fun c => '0' ≤ c && c ≤ '5')

def startsTarget (c : Char) : Bool :=
  c == '-' || c == ':' || c == '_' || Text.isAlphanumeric c

/-- What may follow a target or a span: nothing, or a level. -/
def isLevelPart : List Char → Bool
  | [] => true
  | c :: level => c == '=' && isLevel level

/-- A span reaches to its closing bracket. -/
def isSpanPart (cs : List Char) : Bool :=
  match cs.dropWhile (· != ']') with
  | [] => false
  | _ :: rest => isLevelPart rest

def trim (cs : List Char) : List Char :=
  ((cs.dropWhile Text.isBlank).reverse.dropWhile Text.isBlank).reverse

def isDirective (cs : List Char) : Bool :=
  match trim cs with
  | [] => false
  | '[' :: rest => isSpanPart rest
  | c :: rest =>
    startsTarget c &&
      match rest.dropWhile fun x => x != '=' && x != '[' with
      | '[' :: span => isSpanPart span
      | level => isLevelPart level

/-- The parts of a text between commas. -/
def commaParts : List Char → List (List Char)
  | [] => [[]]
  | c :: rest =>
    if c = ',' then [] :: commaParts rest
    else
      match commaParts rest with
      | [] => [[c]]
      | part :: more => (c :: part) :: more

/-- Empty directives are passed over. -/
def isValid (filter : String) : Bool :=
  ((commaParts filter.toList).filter (!·.isEmpty)).all isDirective

end ModelClasses.LogFilter
