import InvoiceReadiness.Pint.LineProcedures
import InvoiceReadiness.Pint.Pack
import InvoiceReadiness.Pint.PartyProcedures

/-!
# Running the check pack

Most checks of the pack have a procedure of their own, found by the identifier of
the check. Any other check is run by what kind of rule it is: a field must hold a
code of a list, or a field must have a value. A check with neither finds nothing.

One check alone passes its faults on. A run of all checks keeps them apart: a
check that meets a fault opens no case, and the others are not affected.
-/

namespace InvoiceReadiness.Pint

/-! ## Procedures by kind of rule -/

/-- The field of the parameters must hold a code of the list of the parameters. -/
def codeInList : Procedure := fun task => do
  let field ← task.parameter "field"
  if !field.isFilled then return []
  let list ← task.parameter "codelist"
  if !list.isFilled then return []
  let field ← canonical field
  let list ← list.shown
  let kind ← kindOfField field (task.check.get "scope")
  collect (task.data.records kind) fun r => do
    let v ← r.resolveAt field
    if ← v.isBlank then return none
    if ← isCodeIn (.text list) v then return none
    let place ← recordPlace task.data r
    let text ← v.shown
    let name ← field.shown
    return some (← task.report {
      place
      field
      observed := text
      expected := s!"Value from codelist: {list}"
      message := s!"Field \"{name}\" has invalid value \"{text}\" for codelist {list}" })

/-- The field of the parameters must have a value. -/
def presence : Procedure := fun task => do
  let field ← task.parameter "field"
  if !field.isFilled then return []
  let field ← canonical field
  let kind ← kindOfField field (task.check.get "scope")
  collect (task.data.records kind) fun r => do
    if !(← (← r.resolveAt field).isBlank) then return none
    let place ← recordPlace task.data r
    let name ← field.shown
    let checkName ← (task.check.get "check_name").shown
    return some (← task.report {
      place
      field
      observed := emptyText
      expected := requiredText
      message := s!"Missing required field \"{name}\" - {checkName}" })

/-! ## Choice of a procedure -/

/-- The procedures of checks that have their own. -/
def procedures : List (String × Procedure) :=
  [("UAE-UC1-CHK-001", headerPresence),
   ("UAE-UC1-CHK-002", headerPresence),
   ("UAE-UC1-CHK-003", headerPattern),
   ("UAE-UC1-CHK-004", headerPresence),
   ("UAE-UC1-CHK-005", headerPresence),
   ("UAE-UC1-CHK-006", currencyCode),
   ("UAE-UC1-CHK-007", taxCurrency),
   ("UAE-UC1-CHK-008", exchangeRate),
   ("UAE-UC1-CHK-009", paymentDueDate),
   ("UAE-UC1-CHK-010", headerPattern),
   ("UAE-UC1-CHK-011", allowedValues "business_process" "business process type"),
   ("UAE-UC1-CHK-013", sellerTrn),
   ("UAE-UC1-CHK-015", sellerAddress),
   ("UAE-UC1-CHK-016", allowedValues "seller_subdivision" "UAE subdivision"),
   ("UAE-UC1-CHK-017", buyerName),
   ("UAE-UC1-CHK-018", buyerTrn),
   ("UAE-UC1-CHK-020", buyerAddress),
   ("UAE-UC1-CHK-021", lineNetSum),
   ("UAE-UC1-CHK-022", maxDecimals),
   ("UAE-UC1-CHK-023", maxDecimals),
   ("UAE-UC1-CHK-024", maxDecimals),
   ("UAE-UC1-CHK-025", headerTotals),
   ("UAE-UC1-CHK-026", maxDecimals),
   ("UAE-UC1-CHK-027", taxBreakdown),
   ("UAE-UC1-CHK-028", lineVat),
   ("UAE-UC1-CHK-029", lineVatSum),
   ("UAE-UC1-CHK-030", hasLines),
   ("UAE-UC1-CHK-031", lineNumber),
   ("UAE-UC1-CHK-032", lineQuantity),
   ("UAE-UC1-CHK-034", lineNet)]

/-- The procedures by kind of rule. -/
def ruleProcedures : List (String × Procedure) :=
  [(RuleType.codeList.name, codeInList), (RuleType.presence.name, presence)]

/-- What a list of named procedures holds under a name that is itself data. -/
def procedureNamed (table : List (String × Procedure)) (name : Value) :
    Result (Option Procedure) := do
  let _ ← name.key
  match name with
  | .text s => return (table.find? fun entry => entry.1 == s).map Prod.snd
  | _ => return none

/-- The procedure that a check runs. -/
def procedureOf (check : Record) : Result (Option Procedure) := do
  match ← procedureNamed procedures (check.get "check_id") with
  | some procedure => return some procedure
  | none => procedureNamed ruleProcedures (check.get "rule_type")

/-! ## Runs -/

/-- The cases that a check opens, enabled or not. -/
def runRecord (check : Record) (data : Dataset) : Result (List Case) := do
  match ← procedureOf check with
  | some procedure =>
    procedure { check, parameters := (check.get "parameters").orElse (.object []), data }
  | none =>
    let _ ← (check.get "check_id").shown
    let _ ← (check.get "rule_type").quotedText
    return []

/-- The cases that a check opens, where the check is itself data. -/
def runCheck (check : Value) (data : Dataset) : Result (List Case) := do
  runRecord (← check.record) data

/--
The cases that an enabled check opens in a run of many. A fault counts as no
cases, but the check has to have a name that can be written into the protocol of
the run if there is anything to say about it.
-/
def runEnabled (data : Dataset) (check : Value) : Result (List Case) := do
  let check ← check.record
  if !(check.get "is_enabled").isFilled then return []
  match runRecord check data with
  | .ok [] => return []
  | .ok cases =>
    let _ ← (check.get "check_id").shown
    return cases
  | .error _ =>
    let _ ← (check.get "check_id").shown
    return []

/-- The cases that the enabled checks open, in the order of the checks. -/
def runAll (checks : List Value) (data : Dataset) : Result (List Case) := do
  return (← checks.mapM (runEnabled data)).flatten

/-- The checks of the pack as data. -/
def packValues : List Value := pack.map fun check => check.record.value

end InvoiceReadiness.Pint
