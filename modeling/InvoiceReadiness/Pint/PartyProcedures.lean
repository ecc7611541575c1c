import InvoiceReadiness.Pint.HeaderProcedures

/-!
# Procedures on buyers

A buyer is known by its identifier alone; cases about buyers name no invoice.
-/

namespace InvoiceReadiness.Pint

/-- Open a case about a buyer. -/
def reportBuyer (task : Task) (buyer : Record) (field : Value)
    (observed expected message : String) : Result Case :=
  task.report {
    place := { Coordinates.nowhere with buyerId := buyer.get "buyer_id" }
    field
    observed
    expected
    message }

/-- A buyer must have a name. -/
def buyerName : Procedure := fun task =>
  collect task.data.buyers fun buyer => do
    if !(← (buyer.get "buyer_name").isBlank) then return none
    let id ← (buyer.get "buyer_id").shown
    return some (← reportBuyer task buyer (.text "buyer_name") emptyText requiredText
      s!"Buyer ID \"{id}\": Missing buyer name")

/-- A buyer's tax registration number, if there is one, must have fifteen digits. -/
def buyerTrn : Procedure := fun task =>
  collect task.data.buyers fun buyer => do
    let trn := buyer.get "buyer_trn"
    if ← trn.isBlank then return none
    if ← trn.isTrn then return none
    let text ← trn.shown
    let name ← (buyer.get "buyer_name").shown
    return some (← reportBuyer task buyer (.text "buyer_trn") text
      "15-digit number (or empty)"
      s!"Buyer \"{name}\": TRN \"{text}\" does not match UAE 15-digit format")

/-- The parts of a buyer's address must have values. -/
def buyerAddress : Procedure := fun task => do
  let fields ← listedFields task ["buyer_address", "buyer_country"]
  let found ← task.data.buyers.mapM fun buyer =>
    fields.filterMapM fun field => do
      if !(← (← buyer.resolveAt field).isBlank) then return none
      let id ← (buyer.get "buyer_id").shown
      let name ← field.shown
      return some (← reportBuyer task buyer field emptyText requiredText
        s!"Buyer {id}: Missing buyer field \"{name}\"")
  return found.flatten

end InvoiceReadiness.Pint
