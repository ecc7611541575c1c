import InvoiceReadiness.Dataset

/-!
# Requirements and columns

Customers upload three files: buyers, headers and lines. A data requirement is
supplied by columns of one of the files. Some requirements belong to a file but
to none of its columns: the service provider derives them.

A file may have further columns than those that are read; a requirement whose
columns are not all read is in the template, but cannot be ingested.
-/

namespace InvoiceReadiness.Traceability

/-- The file and the columns that supply a requirement. -/
structure Source where
  id : String
  file : RecordKind
  columns : List String

def buyerSources : List Source :=
  [⟨"IBT-044", .buyers, ["buyer_name"]⟩,
   ⟨"IBT-048", .buyers, ["buyer_trn"]⟩,
   ⟨"IBT-049", .buyers, ["buyer_electronic_address"]⟩,
   ⟨"IBT-050", .buyers, ["buyer_address"]⟩,
   ⟨"IBT-052", .buyers, ["buyer_city"]⟩,
   ⟨"IBT-054", .buyers, ["buyer_subdivision"]⟩,
   ⟨"IBT-055", .buyers, ["buyer_country"]⟩]

def headerSources : List Source :=
  [⟨"IBT-001", .headers, ["invoice_number"]⟩,
   ⟨"IBT-002", .headers, ["issue_date"]⟩,
   ⟨"IBT-003", .headers, ["invoice_type"]⟩,
   ⟨"IBT-005", .headers, ["currency"]⟩,
   ⟨"IBT-007", .headers, ["fx_rate"]⟩,
   ⟨"IBT-009", .headers, ["payment_due_date"]⟩,
   ⟨"IBT-027", .headers, ["seller_name"]⟩,
   ⟨"IBT-030", .headers, ["seller_legal_reg_id"]⟩,
   ⟨"IBT-031", .headers, ["seller_trn"]⟩,
   ⟨"IBT-034", .headers, ["seller_electronic_address"]⟩,
   ⟨"IBT-035", .headers, ["seller_address"]⟩,
   ⟨"IBT-037", .headers, ["seller_city"]⟩,
   ⟨"IBT-039", .headers, ["seller_subdivision"]⟩,
   ⟨"IBT-040", .headers, ["seller_country"]⟩,
   ⟨"IBT-081", .headers, ["payment_means_code"]⟩,
   ⟨"IBT-109", .headers, ["total_excl_vat"]⟩,
   ⟨"IBT-110", .headers, ["vat_total"]⟩,
   ⟨"IBT-112", .headers, ["total_incl_vat"]⟩,
   ⟨"IBT-115", .headers, ["amount_due"]⟩,
   ⟨"IBT-118", .headers, ["tax_category_code"]⟩,
   ⟨"IBT-119", .headers, ["tax_category_rate"]⟩,
   ⟨"BTUAE-02", .headers, ["transaction_type_code"]⟩,
   ⟨"BTUAE-15", .headers, ["seller_legal_reg_id_type"]⟩]

/-- The gross price of an item comes from the same column as its net price. -/
def lineSources : List Source :=
  [⟨"IBT-126", .lines, ["line_id", "line_number"]⟩,
   ⟨"IBT-129", .lines, ["quantity"]⟩,
   ⟨"IBT-130", .lines, ["unit_of_measure"]⟩,
   ⟨"IBT-131", .lines, ["line_total_excl_vat"]⟩,
   ⟨"IBT-146", .lines, ["unit_price"]⟩,
   ⟨"IBT-148", .lines, ["unit_price"]⟩,
   ⟨"IBT-151", .lines, ["tax_category_code"]⟩,
   ⟨"IBT-152", .lines, ["vat_rate"]⟩,
   ⟨"IBT-153", .lines, ["description"]⟩,
   ⟨"IBT-154", .lines, ["item_name"]⟩,
   ⟨"BTUAE-08", .lines, ["vat_amount"]⟩]

/-- Requirements that are calculated from columns of other ones. -/
def calculatedSources : List Source :=
  [⟨"IBT-106", .headers, ["total_excl_vat"]⟩,
   ⟨"IBT-116", .headers, ["total_excl_vat"]⟩,
   ⟨"IBT-117", .headers, ["vat_total"]⟩]

/-- Requirements that the service provider derives. -/
def derivedSources : List Source :=
  [⟨"IBT-023", .headers, []⟩,
   ⟨"IBT-024", .headers, []⟩,
   ⟨"IBT-031-1", .headers, []⟩,
   ⟨"IBT-034-1", .headers, []⟩,
   ⟨"IBT-048-1", .buyers, []⟩,
   ⟨"IBT-049-1", .buyers, []⟩,
   ⟨"IBT-149", .lines, []⟩]

/-- The sources of all requirements that have one. -/
def sources : List Source :=
  buyerSources ++ headerSources ++ lineSources ++ calculatedSources ++ derivedSources

/-- The source of a requirement. -/
def source? (id : String) : Option Source :=
  sources.find? fun source => source.id == id

/-- Whether the service provider derives a requirement. -/
def isDerived (id : String) : Bool :=
  derivedSources.any fun source => source.id == id

/-- The columns of a file that are read. -/
def knownColumns : RecordKind → List String
  | .buyers =>
    ["buyer_id", "buyer_name", "buyer_trn", "buyer_address", "buyer_country", "buyer_city",
     "buyer_postcode", "buyer_subdivision", "buyer_electronic_address"]
  | .headers =>
    ["invoice_id", "invoice_number", "issue_date", "seller_trn", "buyer_id", "currency",
     "invoice_type", "total_excl_vat", "vat_total", "total_incl_vat", "seller_name",
     "seller_address", "seller_city", "seller_country", "seller_subdivision",
     "seller_electronic_address", "seller_legal_reg_id", "seller_legal_reg_id_type",
     "transaction_type_code", "payment_due_date", "payment_means_code", "fx_rate",
     "amount_due", "tax_category_code", "tax_category_rate", "note", "supply_date",
     "tax_currency", "document_level_allowance_total", "document_level_charge_total",
     "rounding_amount", "spec_id", "business_process"]
  | .lines =>
    ["line_id", "invoice_id", "line_number", "description", "quantity", "unit_price",
     "line_discount", "line_total_excl_vat", "vat_rate", "vat_amount", "unit_of_measure",
     "tax_category_code", "item_name", "line_allowance_amount", "line_charge_amount"]

/-- The columns by which the records of a file are joined with the others. -/
def joinColumns : RecordKind → List String
  | .buyers => ["buyer_id"]
  | .headers => ["invoice_id", "buyer_id"]
  | .lines => ["line_id", "invoice_id"]

/-- The kind of records in a file. -/
def kindOfFile? (file : String) : Option RecordKind :=
  [RecordKind.buyers, .headers, .lines].find? fun kind => kind.name == file

end InvoiceReadiness.Traceability
