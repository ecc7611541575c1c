import InvoiceReadiness.Numeric.Tolerance
import InvoiceReadiness.Value.Conversion
import InvoiceReadiness.Value.Key
import InvoiceReadiness.Value.Path

/-!
# Configurations of custom checks

A custom check is configured by an object. It names one of five rules and the
records that the rule looks at; the rule's parameters are in an object of their
own. An unknown rule, an unknown scope, parameters that are no object and a
tolerance that is no number are refused when the configuration is loaded.
Parameters that are absent are not: the check is loaded, and skipped when run.
-/

namespace InvoiceReadiness.Custom

/-- The records that a custom check looks at. -/
inductive Scope where
  | buyers | header | lines | crossFile
  deriving DecidableEq

def Scope.name : Scope → String
  | buyers => "buyers"
  | header => "header"
  | lines => "lines"
  | crossFile => "cross-file"

def Scope.ofName? (name : String) : Option Scope :=
  [buyers, header, lines, crossFile].find? fun scope => scope.name == name

/-- The rules that a custom check can apply. -/
inductive RuleType where
  | missing | duplicate | math | regex | formula
  deriving DecidableEq

def RuleType.name : RuleType → String
  | missing => "missing"
  | duplicate => "duplicate"
  | math => "math"
  | regex => "regex"
  | formula => "custom_formula"

def RuleType.ofName? (name : String) : Option RuleType :=
  [missing, duplicate, math, regex, formula].find? fun rule => rule.name == name

/-- A rule with its parameters; a parameter that is not given is null. -/
inductive Rule where
  /-- The field is absent or blank. -/
  | missing (field : Value)
  /-- The fields together have the same text in more than one record. -/
  | duplicate (fields : List Value)
  /-- Two amounts are not in the given relation. -/
  | math (left right operator : Value) (tolerance : Binary64)
  /-- The field's text is filled and has no match for the pattern. -/
  | regex (field pattern : Value)
  /-- The formula does not hold. -/
  | formula (formula : Value)

namespace Rule

def type : Rule → RuleType
  | missing _ => .missing
  | duplicate _ => .duplicate
  | math .. => .math
  | regex .. => .regex
  | formula _ => .formula

/-- The parameters by name. -/
def parameters : Rule → Members
  | missing field => [("field", field)]
  | duplicate fields => [("fields", .list fields)]
  | math left right operator tolerance =>
    [("left_expression", left), ("right_expression", right), ("operator", operator),
      ("tolerance", .ofFloat tolerance)]
  | regex field pattern => [("field", field), ("pattern", pattern)]
  | formula text => [("formula", text)]

/-- The names of the parameters that the rule needs and does not have. -/
def absent (rule : Rule) : List String :=
  rule.parameters.filterMap fun (name, value) =>
    if name == "tolerance" || value.isFilled then none else some name

/-- The fields of a duplicate rule: a list, or a text with commas. -/
def duplicateFields (given : Value) : Result (List Value) := do
  let fields ←
    match given with
    | .text s =>
      pure ((splitAtChar ',' s.toList).map fun part =>
        Value.text (String.ofList (trimBlanks part)))
    | v => if v.isFilled then v.elements else pure []
  return fields.filter Value.isFilled

/-- The tolerance of a math rule. -/
def toleranceOf (given : Value) : Result Binary64 :=
  if given.isNull then .ok monetaryTolerance
  else
    match given.toBinary64 with
    | .ok x => .ok x
    | .error .numberTooLarge => .error .numberTooLarge
    | .error _ => do throw (.config (.tolerance (← given.quotedText)))

/-- The rule of a type with the parameters of an object. -/
def ofParameters (type : RuleType) (given : Record) : Result Rule :=
  let parameter (name : String) : Value := (given.get name).orElse .null
  match type with
  | .missing => .ok (missing (parameter "field"))
  | .duplicate => (duplicateFields (given.get "fields")).map duplicate
  | .math => do
    let tolerance ← toleranceOf (given.get "tolerance")
    return math (parameter "left_expression") (parameter "right_expression")
      (parameter "operator") tolerance
  | .regex => .ok (regex (parameter "field") (parameter "pattern"))
  | .formula => .ok (formula (parameter "formula"))

end Rule

/-- A loaded custom check. -/
structure Check where
  id : Value
  name : Value
  description : Value
  scope : Scope
  rule : Rule
  severity : Value
  template : Value
  condition : Value
  isActive : Bool

namespace Check

/-- The member of a configuration that has to name one of a known set. -/
def named {α : Type} (given : Value) (ofName? : String → Option α) (label : Value)
    (refusal : String → String → ConfigFault) : Result α := do
  let _ ← given.key
  let found := match given with
    | .text s => ofName? s
    | _ => none
  match found with
  | some a => return a
  | none => do throw (.config (refusal (← label.shown) (← given.quotedText)))

/-- Whether a check is to be run: its flag under either of its names, or yes. -/
def activity (given : Record) : Bool :=
  if given.has "is_active" then (given.get "is_active").isFilled
  else if given.has "is_enabled" then (given.get "is_enabled").isFilled
  else true

/-- The parameters of a configuration; they are an object, if they are given. -/
def parametersOf (given : Record) (label : Value) : Result Record :=
  match (given.get "parameters").orElse (.object []) with
  | .object members => .ok ⟨members⟩
  | _ => do throw (.config (.parameters (← label.shown)))

/-- The check that an object describes. -/
def ofRecord (given : Record) : Result Check := do
  let label := ((given.get "name").orElse (given.get "id")).orElse (.text "(unnamed)")
  let type ← named (given.get "rule_type") RuleType.ofName? label .ruleType
  let scope ← named (given.get "dataset_scope") Scope.ofName? label .datasetScope
  let parameters ← parametersOf given label
  let name ←
    if (given.get "name").isFilled then pure (given.get "name")
    else do pure (.text (← label.shown))
  let rule ← Rule.ofParameters type parameters
  return {
    id := given.get "id"
    name
    description := (given.get "description").orElse (.text "")
    scope
    rule
    severity := (given.get "severity").orElse (.text "Medium")
    template := (given.get "message_template").orElse (.text "")
    condition := ((given.get "condition").orElse (parameters.get "condition")).orElse .null
    isActive := activity given }

/-- The check that a configuration describes; it has to be an object. -/
def ofValue : Value → Result Check
  | .object members => ofRecord ⟨members⟩
  | _ => .error (.config .notAnObject)

end Check

/-- The checks that a list of configurations describes. -/
def loadAll (configs : List Value) : Result (List Check) :=
  configs.mapM Check.ofValue

end InvoiceReadiness.Custom
