import InvoiceReadiness.Proofs.Outcome
import InvoiceReadiness.Proofs.Text.Tables
import InvoiceReadiness.Proofs.Value.Showing
import InvoiceReadiness.Traceability.Report
import Mathlib.Control.Monad.Basic

/-!
# Reports that can be read back

The report of a matrix is a table of separated values, and whoever receives it takes it
apart again. Here it is shown which reports come back as what was written: the line of
columns, and one line of twelve fields for each row.

## Main results

* `exists_reportLine` — the line of a row, and its length.
* `report_reads_back` — when a report is read back as its lines.
-/

namespace InvoiceReadiness.Traceability

/-- A row whose identifiers and business term are texts, and whose failures have one. -/
structure Row.IsTextual (row : Row) : Prop where
  id : ∃ s, row.requirement.id = .text s
  term : ∃ s, row.requirement.term = .text s
  rules : ∀ rule ∈ row.rules, ∃ s, rule.id = .text s
  controls : ∀ control ∈ row.controls, ∃ s, control.id = .text s
  failures : row.failures.withinDigits

theorem exists_joined {ids : List Value} (hids : ∀ id ∈ ids, ∃ s, id = .text s) :
    ∃ s, joined ids = .ok s := by
  unfold joined
  rw [Result.exists_return_eq_ok_iff]
  apply Result.exists_mapM_eq_ok
  intro id hid
  obtain ⟨s, rfl⟩ := hids id hid
  exact ⟨s, rfl⟩

/-- A row of texts has a line of twelve fields. -/
theorem exists_reportLine {row : Row} (hrow : row.IsTextual) :
    ∃ line, reportLine row = .ok line ∧ line.length = 12 := by
  obtain ⟨id, hid⟩ := hrow.id
  obtain ⟨term, hterm⟩ := hrow.term
  have hrules : ∀ name ∈ row.rules.map Rule.id, ∃ s, name = .text s := by
    intro name hname
    obtain ⟨rule, hrule, rfl⟩ := List.mem_map.1 hname
    exact hrow.rules rule hrule
  have hcontrols : ∀ name ∈ row.controls.map Control.id, ∃ s, name = .text s := by
    intro name hname
    obtain ⟨control, hcontrol, rfl⟩ := List.mem_map.1 hname
    exact hrow.controls control hcontrol
  obtain ⟨rules, hrules⟩ := exists_joined hrules
  obtain ⟨controls, hcontrols⟩ := exists_joined hcontrols
  obtain ⟨failures, hfailures⟩ := Value.exists_shown hrow.failures
  unfold reportLine
  simp only [hid, hterm, hrules, hcontrols, hfailures, Result.ok_bind]
  exact ⟨_, rfl, rfl⟩

/--
A report can be read back unless a field is broken. Rows whose identifiers and business
terms are texts have a report: the line of columns and a line of twelve fields for each
row, in their order. A reader finds exactly these lines in its text if and only if no field
holds a carriage return without a comma, a quote or a line feed, one of which it takes for
the field to be written between quotes.
-/
theorem report_reads_back {rows : List Row} (hrows : ∀ row ∈ rows, row.IsTextual) :
    ∃ text lines, report rows = .ok text ∧ rows.mapM reportLine = .ok lines ∧
      lines.length = rows.length ∧ (∀ line ∈ lines, line.length = 12) ∧
      (Separated.records text = reportColumns :: lines ↔
        ∀ line ∈ lines, ∀ field ∈ line, '\r' ∈ field.toList →
          ∃ c ∈ field.toList, c = ',' ∨ c = '"' ∨ c = '\n') := by
  have hline : ∀ row ∈ rows, ∃ line, reportLine row = .ok line := by
    intro row hrow
    obtain ⟨line, hline, -⟩ := exists_reportLine (hrows row hrow)
    exact ⟨line, hline⟩
  obtain ⟨lines, hlines⟩ := Result.exists_mapM_eq_ok hline
  have hcount : lines.length = rows.length := by
    have hmap := congrArg List.length (Result.mapM_eq_ok_iff.1 hlines)
    rw [List.length_map, List.length_map] at hmap
    exact hmap.symm
  have hlength : ∀ line ∈ lines, line.length = 12 := by
    refine Yields.mapM (P := fun line => line.length = 12) (fun row hrow line hread => ?_) hlines
    obtain ⟨_, hwritten, hlength⟩ := exists_reportLine (hrows row hrow)
    rw [hwritten] at hread
    rw [← Except.ok.inj hread]
    exact hlength
  have hcolumns : ∀ field ∈ reportColumns, ¬Separated.IsBroken field := by
    decide
  refine ⟨Separated.table (reportColumns :: lines), lines, ?_, hlines, hcount, hlength, ?_⟩
  · rw [report, hlines]
    rfl
  · have hfields : ∀ fields ∈ reportColumns :: lines, 2 ≤ fields.length := by
      intro fields hfields
      rcases List.mem_cons.1 hfields with rfl | hfields
      · decide
      · rw [hlength fields hfields]
        omega
    rw [Separated.records_table_eq_iff hfields, List.forall_mem_cons, and_iff_right hcolumns]
    apply forall₂_congr
    intro line _
    apply forall₂_congr
    intro field _
    rw [Separated.IsBroken, not_and]
    apply imp_congr_right
    intro _
    push Not
    simp [Separated.needsQuotes, or_assoc]

/-- A row of a requirement that no rule enforces, with a business term of its own. -/
def plainRow (id term : String) (columns : List String) : Row where
  requirement := {
    id := .text id, term := .text term, file := some "headers", columns
    mandatory := true, dataType := .null, formatPattern := .null, codeList := none
    category := .null, vatLawStatus := .text "", responsibility := .null, reference := .null
    derived := false }
  isNew := false
  population := some .hundred
  rules := []
  controls := []
  passRate := none
  failures := .ofNat 3

/-- Commas, quotes, both kinds of line breaks and an empty term come back as they were. -/
theorem report_reads_back_quoted :
    let rows := [plainRow "IBT-001" "a \"b\",\r\n c" ["invoice\n", "number"], plainRow "" "" []]
    (∀ row ∈ rows, row.IsTextual) ∧
      ∃ text lines, report rows = .ok text ∧ rows.mapM reportLine = .ok lines ∧
        Separated.records text = reportColumns :: lines ∧ lines.length = 2 ∧
        (Separated.records text).map (fun record => record[1]?) =
          [some "business_term", some "a \"b\",\r\n c", some ""] := by
  intro rows
  have htextual : ∀ row ∈ rows, row.IsTextual := by
    simp only [rows, List.forall_mem_cons, List.not_mem_nil, false_imp_iff, implies_true,
      and_true]
    exact ⟨⟨⟨_, rfl⟩, ⟨_, rfl⟩, nofun, nofun, by decide +kernel⟩,
      ⟨⟨_, rfl⟩, ⟨_, rfl⟩, nofun, nofun, by decide +kernel⟩⟩
  obtain ⟨text, lines, htext, hlines, hcount, -, hback⟩ := report_reads_back htextual
  have hwritten : rows.mapM reportLine = .ok
      [["IBT-001", "a \"b\",\r\n c", "Yes", "headers", "invoice\n; number", "Yes", "No",
          "100.0", "", "", "3", "NO_RULE"],
        ["", "", "Yes", "headers", "", "No", "No", "100.0", "", "", "3", "NOT_IN_TEMPLATE"]] := by
    decide +kernel
  rw [hwritten] at hlines
  have hlines := Except.ok.inj hlines
  subst hlines
  have hread := hback.2 (by simp)
  refine ⟨htextual, text, _, htext, hwritten, hread, rfl, ?_⟩
  rw [hread]
  decide +kernel

/-- A carriage return without anything that calls for quotes: the one row of the matrix is
read back as two records, neither of which has twelve fields. -/
theorem report_breaks_at_return :
    let field : Registry.Field :=
      { id := .text "IBT-001", term := .text "Invoice\rnumber" }
    ∃ catalog m text, Catalog.build [field] [] [] .null = .ok catalog ∧
      Matrix.ofCatalog catalog [] .null = .ok m ∧ report m.rows = .ok text ∧
      m.rows.length = 1 ∧
      Separated.records text = [reportColumns, ["IBT-001", "Invoice"],
        ["number", "No", "headers", "invoice_number", "Yes", "Yes", "", "", "", "0",
          "NO_RULE"]] := by
  intro field
  have hrun : (do
      let catalog ← Catalog.build [field] [] [] .null
      let m ← Matrix.ofCatalog catalog [] .null
      let text ← report m.rows
      return (m.rows.length, Separated.records text)) =
      (.ok (1, [reportColumns, ["IBT-001", "Invoice"],
        ["number", "No", "headers", "invoice_number", "Yes", "Yes", "", "", "", "0",
          "NO_RULE"]]) : Result (Nat × List (List String))) := by
    decide +kernel
  obtain ⟨catalog, hcatalog, hrun⟩ := Result.bind_eq_ok.1 hrun
  obtain ⟨m, hm, hrun⟩ := Result.bind_eq_ok.1 hrun
  obtain ⟨text, htext, hrun⟩ := Result.bind_eq_ok.1 hrun
  obtain ⟨hrows, hrecords⟩ := Prod.mk.inj (Except.ok.inj hrun)
  exact ⟨catalog, m, text, hcatalog, hm, htext, hrows, hrecords⟩

end InvoiceReadiness.Traceability
