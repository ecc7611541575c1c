/-!
# Options of the command line

The command takes the path of a dataset and options that start with two hyphens.
An option with a value takes it after an equals sign or from the next argument. A
name may be shortened as long as it stands for one option only.
-/

namespace InvoiceReadiness.CommandLine

/-- What a command is to do. -/
structure Options where
  dataset : String
  /-- The path of a list of custom checks. -/
  checks : Option String
  /-- Whether the protocol of the run is written beside its result. -/
  trace : Bool
  json : Bool
  matrix : Bool
  /-- The path to which the traceability report is written. -/
  export? : Option String

/-- The options by name. -/
inductive Name where
  | checks | trace | json | matrix | exportCsv
  deriving DecidableEq

def Name.all : List Name := [.checks, .trace, .json, .matrix, .exportCsv]

def Name.spelling : Name → String
  | checks => "--checks"
  | trace => "--trace"
  | json => "--json"
  | matrix => "--matrix"
  | exportCsv => "--export-csv"

def Name.takesValue : Name → Bool
  | checks => true
  | exportCsv => true
  | _ => false

/-- The option that a name or the beginning of one stands for. -/
def Name.ofText? (s : List Char) : Option Name :=
  match Name.all.filter fun name => name.spelling.toList == s with
  | [name] => some name
  | _ =>
    match Name.all.filter fun name => s.isPrefixOf name.spelling.toList with
    | [name] => some name
    | _ => none

/-- An argument: a path, or an option with its value. -/
inductive Argument where
  | path (s : String)
  | option (name : Name) (value : String)

def isOption (s : String) : Bool :=
  ['-', '-'].isPrefixOf s.toList

/-- The arguments that words stand for; none if one cannot be read. -/
def argumentsOf : List String → Option (List Argument)
  | [] => some []
  | word :: rest =>
    if !isOption word then (argumentsOf rest).map (.path word :: ·)
    else
      let name := word.toList.takeWhile fun c => c != '='
      let after := word.toList.drop name.length
      match Name.ofText? name, after, rest with
      | none, _, _ => none
      | some option, '=' :: value, rest =>
        if option.takesValue then
          (argumentsOf rest).map (.option option (String.ofList value) :: ·)
        else none
      | some option, _, rest =>
        if !option.takesValue then (argumentsOf rest).map (.option option "" :: ·)
        else
          match rest with
          | [] => none
          | value :: more =>
            if isOption value then none
            else (argumentsOf more).map (.option option value :: ·)

/-- The paths among arguments. -/
def paths (arguments : List Argument) : List String :=
  arguments.filterMap fun argument =>
    match argument with
    | .path s => some s
    | .option _ _ => none

/-- The last value of an option, if it is given and not empty. -/
def valueOf (arguments : List Argument) (name : Name) : Option String :=
  let values := arguments.filterMap fun argument =>
    match argument with
    | .path _ => none
    | .option other value => if other = name then some value else none
  values.getLast?.filter fun value => value != ""

def isGiven (arguments : List Argument) (name : Name) : Bool :=
  arguments.any fun argument =>
    match argument with
    | .path _ => false
    | .option other _ => other == name

/-- The options that the words of a command line state; there has to be one dataset. -/
def Options.ofWords (words : List String) : Option Options := do
  let arguments ← argumentsOf words
  match paths arguments with
  | [dataset] =>
    return {
      dataset
      checks := valueOf arguments .checks
      trace := isGiven arguments .trace
      json := isGiven arguments .json
      matrix := isGiven arguments .matrix
      export? := valueOf arguments .exportCsv }
  | _ => none

/-- How the command is used. -/
def usage : String :=
  "usage: [--checks PATH] [--trace] [--json] [--matrix] [--export-csv PATH] dataset"

end InvoiceReadiness.CommandLine
