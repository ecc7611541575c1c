import InvoiceReadiness.Baseline.Run
import InvoiceReadiness.Pint.Case

/-!
# Scores

A run is summed up by numbers that depend on its findings only through their
severities: a score from which every finding takes its penalty, a risk to which
every finding adds its weight, and a health that relates the risk to the number
of invoices. Findings of any origin are scored alike, so they come here as
incidents: what a finding says about its check, its severity and its invoice.

## Main results

* `score_le` — a score is at most one hundred.
* `score_append_le`, `risk_append` — further findings never raise a score, and
  risks add up.
-/

namespace InvoiceReadiness

/-- What scores look at in a finding. -/
structure Incident where
  severity : Value
  checkId : Value
  checkName : Value
  invoiceId : Value
  sellerTrn : Value

namespace Incident

/-- The incident that a record describes. -/
def ofRecord (r : Record) : Incident where
  severity := r.get "severity"
  checkId := r.get "check_id"
  checkName := r.get "check_name"
  invoiceId := r.get "invoice_id"
  sellerTrn := r.get "seller_trn"

def ofFinding (f : Finding) : Incident where
  severity := f.severity
  checkId := f.checkId
  checkName := f.checkName
  invoiceId := f.place.invoiceId
  sellerTrn := f.place.sellerTrn

def ofCase (c : Pint.Case) : Incident where
  severity := c.severity
  checkId := c.checkId
  checkName := c.checkName
  invoiceId := c.observation.place.invoiceId
  sellerTrn := c.observation.place.sellerTrn

/-- The incidents of a run, in the order in which a summary takes them. -/
def ofRun (findings : List Finding) (cases : List Pint.Case)
    (outcomes : List Baseline.Outcome) : List Incident :=
  findings.map ofFinding ++ cases.map ofCase ++
    outcomes.flatMap fun outcome => outcome.findings.map ofFinding

end Incident

namespace Scoring

/-! ## Severities -/

/-- The severity that a value names, if it names one. -/
def severityOf (v : Value) : Result (Option Severity) := do
  let _ ← v.key
  match v with
  | .text name => return Severity.ofName? name
  | _ => return none

/-- The known severities of incidents. -/
def severitiesOf (incidents : List Incident) : Result (List Severity) := do
  return (← incidents.mapM fun incident => severityOf incident.severity).filterMap
    fun severity => severity

/-- The number of findings of each severity, as an object. -/
def countsValue (severities : List Severity) : Value :=
  .object (Severity.all.map fun s => (s.name, .ofNat (severities.count s)))

/-! ## Scores of severities -/

/-- The points that findings take from a score of one hundred. -/
def penalty (severities : List Severity) : Nat :=
  severities.foldr (fun s total => s.penalty + total) 0

/-- One hundred less the penalties, and never less than zero. -/
def score (severities : List Severity) : Nat := 100 - penalty severities

/-- The sum of the weights of findings. -/
def risk (severities : List Severity) : Nat :=
  severities.foldr (fun s total => s.riskWeight + total) 0

/-- A score is at most one hundred. -/
theorem score_le (severities : List Severity) : score severities ≤ 100 :=
  Nat.sub_le 100 (penalty severities)

@[simp] theorem risk_append (xs ys : List Severity) : risk (xs ++ ys) = risk xs + risk ys := by
  induction xs with
  | nil => simp [risk]
  | cons s xs ih =>
    simp only [risk, List.cons_append, List.foldr_cons] at ih ⊢
    rw [ih, Nat.add_assoc]

@[simp] theorem penalty_append (xs ys : List Severity) :
    penalty (xs ++ ys) = penalty xs + penalty ys := by
  induction xs with
  | nil => simp [penalty]
  | cons s xs ih =>
    simp only [penalty, List.cons_append, List.foldr_cons] at ih ⊢
    rw [ih, Nat.add_assoc]

/-- Further findings never raise a score. -/
theorem score_append_le (xs ys : List Severity) : score (xs ++ ys) ≤ score xs := by
  simp only [score, penalty_append]
  omega

/-- The part of one severity in the risk of counts that are data. -/
def weighedCount (counts : Record) (s : Severity) : Result Number :=
  if counts.has s.name then
    match (counts.get s.name).number? with
    | some n => n.mul (.whole s.riskWeight)
    | none => .error .operandKind
  else .ok .zero

/-- The risk of counts that are data, summed up from the gravest severity down. -/
def riskOfCounts (counts : Record) : Result Number :=
  Severity.all.foldlM (fun sum s => do sum.add (← weighedCount counts s)) .zero

/-- The nearest whole number, a half going to the even neighbour. -/
def nearestWhole (x : Number) : Result Int :=
  match x with
  | .whole n => .ok n
  | .float y =>
    match y.round? with
    | some n => .ok n
    | none => y.wholePart

/-- A whole number held between zero and one hundred. -/
def clampPercent (n : Int) : Int := max 0 (min 100 n)

/--
One hundred less twice the risk per invoice, held between zero and one hundred.
Without invoices nothing is unhealthy.
-/
def healthOf (severities : List Severity) (invoices : Number) : Result Int := do
  if !invoices.isNonzero then return 100
  let perInvoice ← (Number.whole (risk severities)).div invoices
  let lost ← perInvoice.mul (.whole 2)
  return clampPercent (← nearestWhole (← (Number.whole 100).sub lost))

/-- The health of incidents, where the number of invoices is itself data. -/
def health (incidents : List Incident) (invoices : Value) : Result Int := do
  match invoices.number? with
  | some n =>
    if !n.isNonzero then return 100
    healthOf (← severitiesOf incidents) n
  | none =>
    let _ ← severitiesOf incidents
    throw .operandKind

/-! ## Sellers -/

/-- The scores of one seller. -/
structure SellerScore where
  trn : Value
  risk : Nat
  health : Int
  severities : List Severity
  incidents : Nat
  invoices : Nat

/-- The scores of a seller as an object. -/
def SellerScore.value (s : SellerScore) : Value :=
  .object [
    ("seller_trn", s.trn),
    ("risk_score", .ofNat s.risk),
    ("health_score", .ofInt s.health),
    ("critical_count", .ofNat (s.severities.count .critical)),
    ("high_count", .ofNat (s.severities.count .high)),
    ("medium_count", .ofNat (s.severities.count .medium)),
    ("low_count", .ofNat (s.severities.count .low)),
    ("total_exceptions", .ofNat s.incidents),
    ("total_invoices", .ofNat s.invoices)]

/-- The invoice identifiers of each seller among headers, each identifier once. -/
def invoicesBySeller (headers : List Record) : Result (Index (Index Unit)) :=
  headers.foldlM (fun index header => do
    let seller := header.get "seller_trn"
    let invoice := header.get "invoice_id"
    let sellerKey ← seller.key
    let invoiceKey ← invoice.key
    return index.alter sellerKey seller fun known =>
      (known.getD Index.empty).insert invoiceKey invoice ()) Index.empty

/-- The scores of the sellers among headers, in the order in which they first come. -/
def sellers (incidents : List Incident) (headers : List Record) :
    Result (List SellerScore) := do
  let invoices ← invoicesBySeller headers
  let keyed ← incidents.mapM fun incident => do
    return (← incident.sellerTrn.key, incident)
  invoices.entries.mapM fun entry => do
    let own := (keyed.filter fun pair => pair.1 == entry.key).map Prod.snd
    let severities ← severitiesOf own
    let count : Nat := entry.value.entries.length
    return {
      trn := entry.shown
      risk := risk severities
      health := ← healthOf severities (.whole count)
      severities
      incidents := own.length
      invoices := count }

/-! ## Summaries -/

/-- How often a check has failed. -/
structure CheckCount where
  name : Value
  count : Nat

/-- How many checks a summary lists. -/
def topLimit : Nat := 10

/-- The counts of incidents by check; the first incident of a check gives its name. -/
def countByCheck (incidents : List Incident) : Result (Index CheckCount) :=
  incidents.foldlM (fun index incident => do
    let key ← incident.checkId.key
    return index.alter key incident.checkId fun known =>
      let known := known.getD ⟨incident.checkName, 0⟩
      { known with count := known.count + 1 }) Index.empty

/-- The checks that failed most often; among equals the one that failed first. -/
def topFailing (counts : Index CheckCount) : List (Entry CheckCount) :=
  (counts.entries.mergeSort fun x y => y.value.count ≤ x.value.count).take topLimit

/-- The number of different invoices that incidents name. -/
def failingInvoices (incidents : List Incident) : Result Nat := do
  let index ← incidents.foldlM (fun (index : Index Unit) incident => do
    if !incident.invoiceId.isFilled then return index
    return index.insert (← incident.invoiceId.key) incident.invoiceId ()) Index.empty
  return index.entries.length

/-- The percentage of invoices without an incident; all of them if there are none. -/
def passRate (invoices : Number) (failing : Nat) : Result Number := do
  if !Number.zero.lt invoices then return .float (Binary64.ofInt 100)
  let rate ← (← invoices.sub (.whole failing)).div invoices
  rate.mul (.whole 100)

/-- The summary of a run. -/
structure Summary where
  invoices : Value
  incidents : Nat
  severities : List Severity
  /-- The percentage of invoices without an incident, to two places. -/
  passRate : Number
  health : Int
  top : List (Entry CheckCount)

/-- The score of the run. -/
def Summary.score (s : Summary) : Nat := Scoring.score s.severities

/-- The summary as an object. -/
def Summary.value (s : Summary) : Value :=
  .object [
    ("total_invoices", s.invoices),
    ("total_exceptions", .ofNat s.incidents),
    ("exceptions_by_severity", countsValue s.severities),
    ("pass_rate", .number s.passRate),
    ("score", .ofNat s.score),
    ("health_score", .ofInt s.health),
    ("top_failing_checks", .list (s.top.map fun entry => .object [
      ("check_id", entry.shown),
      ("check_name", entry.value.name),
      ("count", .ofNat entry.value.count)]))]

/-- The summary of incidents, where the number of invoices is itself data. -/
def summary (incidents : List Incident) (invoices : Value) : Result Summary := do
  let counts ← countByCheck incidents
  let failing ← failingInvoices incidents
  match invoices.number? with
  | none => throw .operandKind
  | some total =>
    let rate ← passRate total failing
    let severities ← severitiesOf incidents
    return {
      invoices
      incidents := incidents.length
      severities
      passRate := rate.roundPlaces 2
      health := ← health incidents invoices
      top := topFailing counts }

end Scoring

end InvoiceReadiness
