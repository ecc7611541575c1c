import InvoiceReadiness.Matching.Normal
import InvoiceReadiness.Matching.Similarity
import InvoiceReadiness.Value.Key

/-!
# Ranking candidates against a query

A query is compared with a candidate's name, invoice number, registration number
and reference, each in its normal form, and the best similarity is the
candidate's score. Candidates below the least score of a strictness profile are
left out; the others are ordered by falling score, equal scores in the order
given. A blank query lists every candidate with score one.
-/

namespace InvoiceReadiness.Matching

/-- How similar a candidate has to be. -/
inductive Strictness where
  | strict | balanced | loose
  deriving DecidableEq

def Strictness.name : Strictness → String
  | strict => "strict"
  | balanced => "balanced"
  | loose => "loose"

/-- The least score that counts. -/
def Strictness.leastScore : Strictness → Binary64
  | strict => Binary64.decimal 86 2
  | balanced => Binary64.decimal 72 2
  | loose => Binary64.decimal 58 2

def Strictness.ofName? (name : String) : Option Strictness :=
  [strict, balanced, loose].find? fun profile => profile.name == name

/-- The profile that a value names. -/
def Strictness.ofValue (v : Value) : Result Strictness := do
  let _ ← v.key
  let found := match v with
    | .text s => ofName? s
    | _ => none
  match found with
  | some profile => return profile
  | none => throw (.unknownStrictness (← v.quotedText))

/-- What a query is compared with. -/
structure Candidate where
  id : String
  vendorName : Value
  invoiceNumber : Value
  trn : Value
  reference : Value

namespace Candidate

/-- A cell under the first of two names that is there. -/
private def either (r : Record) (name other : String) : Value :=
  if r.has name then r.get name else r.get other

/-- The candidate that an object describes. -/
def ofValue (v : Value) : Result Candidate := do
  let r ← v.record
  let id ← (if r.has "id" then r.get "id" else .text "").shown
  return {
    id
    vendorName := either r "vendor_name" "vendorName"
    invoiceNumber := either r "invoice_number" "invoiceNumber"
    trn := r.get "trn"
    reference := r.get "reference" }

/-- The candidate as an object. -/
def value (c : Candidate) : Value :=
  .object [("id", .text c.id), ("vendor_name", c.vendorName),
    ("invoice_number", c.invoiceNumber), ("trn", c.trn), ("reference", c.reference)]

end Candidate

/-- The greater of two scores; the first one if they are equal. -/
def better (x y : Binary64) : Binary64 :=
  if x.compare? y == some .lt then y else x

/-- The similarity of a query's normal form to a candidate's cell; zero if either is empty. -/
def cellScore (form : List Char → List Char) (query : List Char) (cell : Value) :
    Result Binary64 := do
  if cell.isNull then return Binary64.zero
  let text ← normalized form cell
  if query.isEmpty || text.isEmpty then return Binary64.zero
  else return similarity query text

/-- The score of a candidate. -/
def score (query : List Char) (c : Candidate) : Result Binary64 := do
  let byName ← cellScore nameForm (nameForm query) c.vendorName
  let byNumber ← cellScore invoiceForm (invoiceForm query) c.invoiceNumber
  let byTrn ← cellScore trnForm (trnForm query) c.trn
  let byReference ← cellScore nameForm (nameForm query) c.reference
  return better (better (better (better Binary64.zero byName) byNumber) byTrn) byReference

/-- A candidate as it was given, with its score. -/
structure Ranked where
  item : Value
  score : Binary64

/-- The candidate with its score to four places, as an object. -/
def Ranked.value (r : Ranked) : Value :=
  .object [("item", r.item), ("score", .ofFloat (r.score.roundPlaces 4))]

/-- The strictness of a search that states none. -/
def defaultStrictness : String := "balanced"

/-- The candidates that match a query, best first. -/
def rank (query strictness : Value) (candidates : List Value) : Result (List Ranked) := do
  let profile ← Strictness.ofValue strictness
  let listing := candidates.map fun item => Ranked.mk item fullScore
  if !query.isFilled then return listing
  let text ← query.asText
  if (trimBlanks text.toList).isEmpty then return listing
  let scored ← candidates.mapM fun item => do
    return Ranked.mk item (← score text.toList (← Candidate.ofValue item))
  let matching := scored.filter fun r => r.score.compare? profile.leastScore != some .lt
  return matching.mergeSort fun r s => r.score.compare? s.score != some .lt

end InvoiceReadiness.Matching
