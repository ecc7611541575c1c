import InvoiceReadiness.Custom.Config
import InvoiceReadiness.Dataset.Finding
import InvoiceReadiness.Expression.Evaluation
import InvoiceReadiness.Pattern.Reader
import InvoiceReadiness.Pattern.Search
import InvoiceReadiness.Text.Template

/-!
# Running custom checks

A check looks at the records of its scope that pass its condition and reports
those that break its rule, in their order; a duplicate rule reports group by
group instead. A check whose rule lacks a parameter, or whose pattern is no
pattern, reports nothing. A record on which an amount or a formula cannot be
evaluated is passed over.
-/

namespace InvoiceReadiness.Custom

def Scope.kind : Scope → RecordKind
  | buyers => .buyers
  | header => .headers
  | lines => .lines
  | crossFile => .headers

namespace Check

/-- The finding of a check about a record, its template filled. -/
def report (check : Check) (data : Dataset) (r : Record) (extra : Members)
    (field expected actual : Value) : Result Finding := do
  let message ← Template.fillValue check.template r.value extra
  let place ← data.coordinates r
  return {
    checkId := check.id.orElse (.text "custom")
    checkName := check.name
    severity := check.severity
    message, place, field, expected, actual }

def runMissing (check : Check) (data : Dataset) (field : Value) (records : List Record) :
    Result (List Finding) :=
  collect records fun r => do
    if ← (← r.resolveAt field).isBlank then
      return some (← check.report data r [] field .null (.text "(empty)"))
    else return none

/-- The part of a composite key that a field gives. -/
def keyPart (v : Value) : Result String :=
  if v.isNull then .ok "" else v.plain

/-- The composite key of a record. -/
def compositeKey (fields : List Value) (r : Record) : Result String := do
  let parts ← fields.mapM fun field => do keyPart (← r.resolveAt field)
  return "|".intercalate parts

/-- Records with the same composite key, in the order of the first of each. -/
def groupByKey (fields : List Value) (records : List Record) :
    Result (Index (List Record)) :=
  records.foldlM (fun index r => do
    let key ← compositeKey fields r
    return index.alter (.text key) (.text key) fun group => group.getD [] ++ [r]) Index.empty

def runDuplicate (check : Check) (data : Dataset) (fields : List Value)
    (records : List Record) : Result (List Finding) := do
  let groups ← groupByKey fields records
  let found ← groups.entries.mapM fun entry => do
    let count := entry.value.length
    if count < 2 then return []
    entry.value.mapM fun r => do
      let names ← fields.mapM Value.asText
      check.report data r [("count", .ofNat count)] (.text (", ".intercalate names)) .null
        (.text s!"{count} duplicates")
  return found.flatten

/-- Whether two amounts are in the relation that an operator names. -/
def holds (operator : Value) (left right : Number) (tolerance : Binary64) : Result Bool :=
  match operator with
  | .text "=" => left.agree right (.float tolerance)
  | .text "!=" => (left.agree right (.float tolerance)).map (!·)
  | .text ">" => .ok (right.lt left)
  | .text "<" => .ok (left.lt right)
  | .text ">=" => .ok (right.le left)
  | .text "<=" => .ok (left.le right)
  | _ => .ok false

/-- What a math rule has to say about one record. -/
def mathFinding (check : Check) (data : Dataset) (left right operator : Value)
    (tolerance : Binary64) (r : Record) : Result (Option Finding) := do
  match ← Expression.arithmetic left r.value, ← Expression.arithmetic right r.value with
  | some x, some y =>
    if ← holds operator x y tolerance then return none
    else
      return some (← check.report data r [("left", .number x), ("right", .number y)] left
        (.number y) (.number x))
  | _, _ => return none

def runMath (check : Check) (data : Dataset) (left right operator : Value)
    (tolerance : Binary64) (records : List Record) : Result (List Finding) :=
  collect records (check.mathFinding data left right operator tolerance)

def runRegex (check : Check) (data : Dataset) (field patternText : Value)
    (records : List Record) : Result (List Finding) := do
  match patternText with
  | .text source =>
    match Pattern.ofText source with
    | .error .invalid => return []
    | .error (.fault cause) => throw cause
    | .ok pattern =>
      collect records fun r => do
        let v ← r.resolveAt field
        if ← v.isBlank then return none
        else if pattern.foundIn (← v.plain) then return none
        else
          return some (← check.report data r [] field (.text s!"matches {source}") v)
  | _ => throw .operandKind

def runFormula (check : Check) (data : Dataset) (formula : Value) (records : List Record) :
    Result (List Finding) :=
  collect records fun r =>
    match Expression.formula formula r.value with
    | .error (.expression _) => return none
    | .error fault => throw fault
    | .ok true => return none
    | .ok false => do return some (← check.report data r [] .null .null .null)

/-- The records that a check looks at. -/
def selected (check : Check) (data : Dataset) : Result (List Record) :=
  (data.records check.scope.kind).filterM fun r =>
    Expression.condition check.condition r.value

/-- The findings of a check, active or not. -/
def run (check : Check) (data : Dataset) : Result (List Finding) := do
  if !check.rule.absent.isEmpty then return []
  let records ← check.selected data
  match check.rule with
  | .missing field => check.runMissing data field records
  | .duplicate fields => check.runDuplicate data fields records
  | .math left right operator tolerance =>
    check.runMath data left right operator tolerance records
  | .regex field pattern => check.runRegex data field pattern records
  | .formula text => check.runFormula data text records

end Check

/-- The findings of the active checks, in the order of the checks. -/
def runAll (checks : List Check) (data : Dataset) : Result (List Finding) := do
  let found ← checks.mapM fun check => if check.isActive then check.run data else return []
  return found.flatten

/-- The findings of checks that are loaded one by one as they are run. -/
def runConfigs (configs : List Value) (data : Dataset) : Result (List Finding) := do
  let found ← configs.mapM fun config => do
    let check ← Check.ofValue config
    if check.isActive then check.run data else return []
  return found.flatten

end InvoiceReadiness.Custom
