import InvoiceReadiness.Numeric.Percent
import InvoiceReadiness.Numeric.Tolerance
import InvoiceReadiness.Traceability.Catalog
import InvoiceReadiness.Value.Conversion

/-!
# Population of columns

How many rows of an uploaded file have a value in a column. A value that is blank
after trimming does not count. A file without rows has fully populated columns:
there is no row that lacks a value.
-/

namespace InvoiceReadiness

/-- How many rows have a value in a column. -/
structure ColumnPopulation where
  column : Value
  rows : Nat
  populated : Nat
  percent : Binary64

/-- The columns of one file. -/
structure FilePopulation where
  file : String
  columns : List ColumnPopulation

namespace ColumnPopulation

/-- The population of a column as an object. -/
def value (p : ColumnPopulation) : Value :=
  .object [
    ("column", p.column),
    ("total_rows", .ofNat p.rows),
    ("populated_count", .ofNat p.populated),
    ("population_pct", .ofFloat (p.percent.roundPlaces 2))]

/-- A cell that is named by data; only texts name cells. -/
def cellNamed (r : Record) (column : Value) : Result Value := do
  let _ ← column.key
  match column with
  | .text name => return r.get name
  | _ => return .null

/-- The population of a column over rows, of which there is at least one. -/
def ofRows (rows : List Value) (column : Value) : Result ColumnPopulation := do
  let filled ← rows.filterM fun row => do
    return !(← (← cellNamed (← row.record) column).isBlank)
  return ⟨column, rows.length, filled.length, .percent filled.length rows.length⟩

end ColumnPopulation

/-- The populations of columns over rows. -/
def populationOf (rows : List Value) (columns : List Value) : Result (List ColumnPopulation) :=
  if rows.isEmpty then .ok (columns.map fun column => ⟨column, 0, 0, .hundred⟩)
  else columns.mapM (ColumnPopulation.ofRows rows)

namespace FilePopulation

/-- The populations of a file as an object. -/
def value (p : FilePopulation) : Value :=
  .object [("dataset", .text p.file), ("columns", .list (p.columns.map ColumnPopulation.value))]

/-- The rows of a file and the columns that the first of them has. -/
def firstRow (rows : Value) : Result Record :=
  match rows with
  | .list (row :: _) => row.record
  | .text _ => .error .notAnObject
  | .object _ => .error .missingMember
  | _ => .error .operandKind

/-- The population of a file, if it has rows; its columns are those of the first row. -/
def ofFile? (payload : Record) (kind : RecordKind) : Result (Option FilePopulation) := do
  let rows := payload.get kind.name
  if !rows.isFilled then return none
  let columns := (← firstRow rows).members.map fun cell => Value.text cell.1
  return some ⟨kind.name, ← populationOf (← rows.elements) columns⟩

/-- The populations of the files of a dataset that have rows. -/
def ofDataset (payload : Value) : Result (List FilePopulation) := do
  let payload ← payload.record
  let found ← [RecordKind.buyers, .headers, .lines].mapM (ofFile? payload)
  return found.filterMap fun population => population

/-- The populations that an object of percentages states, file by file. -/
def ofPercentages (stated : Value) : Result (List FilePopulation) := do
  (← stated.record).members.mapM fun (file, columns) => do
    let columns ← (← columns.record).members.mapM fun (column, percent) => do
      return (⟨.text column, 0, 0, ← percent.toBinary64⟩ : ColumnPopulation)
    return ⟨file, columns⟩

end FilePopulation

/-- The population of a column in percent, if it is known. -/
def percentOf? (populations : List FilePopulation) (file column : Value) : Option Binary64 := do
  let population ← populations.find? fun p => file.same (.text p.file)
  let found ← population.columns.find? fun c => c.column.same column
  return found.percent

namespace Traceability

/-- The mean population of the columns of a requirement, as far as they are known. -/
def Requirement.population? (r : Requirement) (populations : List FilePopulation) :
    Option Binary64 :=
  Binary64.mean? (r.columns.filterMap fun column =>
    percentOf? populations (.ofText? r.file) (.text column))

/-- The mean population of the mandatory requirements that have data. -/
def Catalog.mandatoryPopulation? (catalog : Catalog) (populations : List FilePopulation) :
    Option Binary64 :=
  Binary64.mean? (catalog.mandatory.filterMap fun r => r.population? populations)

end Traceability

end InvoiceReadiness
