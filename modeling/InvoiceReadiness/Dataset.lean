import InvoiceReadiness.Value.Key
import InvoiceReadiness.Value.Shown

/-!
# Datasets

A validation run works on three kinds of records: buyers, invoice headers and
invoice lines. A `Dataset` holds them with three indices that are built once:
the buyers by `buyer_id`, the headers by `invoice_id`, and the lines grouped by
`invoice_id`. Of two buyers or headers with one identifier the later counts.
-/

namespace InvoiceReadiness

/-- The kinds of records in a dataset. -/
inductive RecordKind where
  | buyers | headers | lines
  deriving DecidableEq

def RecordKind.name : RecordKind → String
  | buyers => "buyers"
  | headers => "headers"
  | lines => "lines"

/-- The three kinds of records, with what is needed to find them. -/
structure Dataset where
  buyers : List Record
  headers : List Record
  lines : List Record
  /-- The last buyer with each `buyer_id`. -/
  buyerIndex : Index Record
  /-- The last header with each `invoice_id`. -/
  headerIndex : Index Record
  /-- The lines with each `invoice_id`, in their order. -/
  lineGroups : Index (List Record)

/-- Where a finding was made: the invoice, its parties and the line. -/
structure Coordinates where
  invoiceId : Value
  invoiceNumber : Value
  sellerTrn : Value
  buyerId : Value
  lineId : Value
  lineNumber : Value

namespace Coordinates

/-- No coordinates at all. -/
def nowhere : Coordinates := ⟨.null, .null, .null, .null, .null, .null⟩

/-- The coordinates of a header by its own cells. -/
def ofHeader (header : Record) : Coordinates :=
  { nowhere with
    invoiceId := header.get "invoice_id"
    invoiceNumber := header.get "invoice_number"
    sellerTrn := header.get "seller_trn"
    buyerId := header.get "buyer_id" }

end Coordinates

/-- What there is to say about records one by one; some may give nothing to say. -/
def collect {α : Type} (records : List Record) (f : Record → Result (Option α)) :
    Result (List α) := do
  return (← records.mapM f).filterMap fun found => found

namespace Dataset

/-- Records filed under the key that a cell gives; a later one takes an earlier one's place. -/
def indexBy (cell : String) (records : List Record) : Result (Index Record) :=
  records.foldlM (fun index r => do
    let key ← (r.get cell).key
    return index.insert key (r.get cell) r) Index.empty

/-- Records grouped under the key that a cell gives. -/
def groupBy (cell : String) (records : List Record) : Result (Index (List Record)) :=
  records.foldlM (fun index r => do
    let key ← (r.get cell).key
    return index.alter key (r.get cell) fun group => group.getD [] ++ [r]) Index.empty

/-- A dataset of records. -/
def ofRecords (buyers headers lines : List Record) : Result Dataset := do
  let buyerIndex ← indexBy "buyer_id" buyers
  let headerIndex ← indexBy "invoice_id" headers
  let lineGroups ← groupBy "invoice_id" lines
  return { buyers, headers, lines, buyerIndex, headerIndex, lineGroups }

/--
The records that a list of values is, indexed on the way: an element that is no
object and an identifier that is no key are met in the order of the elements.
-/
private def takeRecords (cell : String) (values : List Value) : Result (List Record) :=
  values.mapM fun v => do
    let r ← v.record
    let _ ← (r.get cell).key
    return r

/-- The values of a section of the payload; an absent or empty section has none. -/
private def sectionOf (payload : Record) (name : String) : Result (List Value) :=
  let v := payload.get name
  if v.isFilled then v.elements else .ok []

/-- The dataset that a payload with the members `buyers`, `headers` and `lines` is. -/
def ofValue (payload : Value) : Result Dataset := do
  let payload ← payload.record
  let buyerValues ← sectionOf payload "buyers"
  let headerValues ← sectionOf payload "headers"
  let lineValues ← sectionOf payload "lines"
  let buyers ← takeRecords "buyer_id" buyerValues
  let headers ← takeRecords "invoice_id" headerValues
  let lines ← takeRecords "invoice_id" lineValues
  ofRecords buyers headers lines

/-- The records of one kind. -/
def records (data : Dataset) : RecordKind → List Record
  | .buyers => data.buyers
  | .headers => data.headers
  | .lines => data.lines

/-- The kind that a name stands for. -/
def kindOfName (name : Value) : Result RecordKind :=
  match name with
  | .text "buyers" => .ok .buyers
  | .text "headers" => .ok .headers
  | .text "lines" => .ok .lines
  | v => do throw (.unknownKind (← v.shown))

/-- The lines of an invoice. -/
def linesFor (data : Dataset) (invoiceId : Value) : Result (List Record) := do
  return (data.lineGroups.get? (← invoiceId.key)).getD []

/-- The header that a record points at by its `invoice_id`. -/
def headerFor (data : Dataset) (r : Record) : Result (Option Record) :=
  match r.get "invoice_id" with
  | .null => .ok none
  | .text "" => .ok none
  | v => do return data.headerIndex.get? (← v.key)

/-- The coordinates of a record: the values of its header first, then its own. -/
def coordinates (data : Dataset) (r : Record) : Result Coordinates := do
  let header := (← data.headerFor r).getD Record.empty
  let cell (name : String) : Value := (header.get name).orElse (r.get name)
  return {
    invoiceId := r.get "invoice_id"
    invoiceNumber := cell "invoice_number"
    sellerTrn := cell "seller_trn"
    buyerId := cell "buyer_id"
    lineId := r.get "line_id"
    lineNumber := r.get "line_number" }

end Dataset

end InvoiceReadiness
