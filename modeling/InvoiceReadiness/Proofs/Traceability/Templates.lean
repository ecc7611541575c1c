import InvoiceReadiness.Proofs.Traceability.Passing

/-!
# Columns without a requirement

A fixed map says which requirements have columns in the templates. The report on a catalog is
meant to tell of columns whose requirement the registry does not have. But a catalog knows of
the map only what concerns its own requirements, since these are made of the fields of the
registry, and the check looks for them among themselves. So it finds nothing, whatever the
registry leaves out (`Catalog.consistency_passes_columns`): an identifier that has columns and
no field (`IsUnregistered`) is not told of, and the check is counted as passed.

## Main results

* `Requirement.inTemplate_iff` — which requirements of a catalog have columns.
* `Consistency.IsMadeOf.category_ne` — no issue is one of the check of columns.
* `Catalog.consistency_passes_columns` — the check of columns passes for every registry.
-/

namespace InvoiceReadiness.Traceability

open Consistency (Check)

/-! ## The map and a registry -/

/-- The templates have a column for an identifier. -/
def IsBound (id : String) : Prop := ∃ source, source? id = some source ∧ source.columns ≠ []

/-- The templates have a column for an identifier, and a registry has no field for it. -/
def IsUnregistered (fields : List Registry.Field) (id : String) : Prop :=
  IsBound id ∧ ∀ field ∈ fields, field.id ≠ .text id

/-- A requirement has columns if the map has some for its identifier. -/
theorem Requirement.inTemplate_iff {field : Registry.Field} {r : Requirement}
    (h : Requirement.ofField field = .ok r) :
    r.inTemplate ↔ ∃ id, r.id = .text id ∧ IsBound id := by
  obtain ⟨source, hof⟩ := exists_isOf h
  obtain ⟨key, -, hsource⟩ := Result.bind_eq_ok.1 hof.found
  have hcolumns : r.inTemplate ↔ ∃ s, source = some s ∧ s.columns ≠ [] := by
    rw [inTemplate, hof.columns]
    cases source <;> simp
  rw [hcolumns, hof.id]
  cases hid : field.id with
  | text id =>
      rw [hid] at hsource
      obtain rfl : source? id = source := Except.ok.inj hsource
      constructor
      · intro hbound
        exact ⟨id, rfl, hbound⟩
      · rintro ⟨_, ⟨⟩, hbound⟩
        exact hbound
  | _ =>
      rw [hid] at hsource
      cases hsource
      exact iff_of_false nofun nofun

/-! ## The check of columns -/

namespace Consistency

/-- The checks apart from the one of columns. -/
def Check.others : List Check := [terms, controls, rules, enforcement]

theorem Check.countP_all (p : Check → Bool) :
    all.countP p = others.countP p + (p columns).toNat := by
  have hall : all.Perm (columns :: others) := by decide
  rw [hall.countP_eq, List.countP_cons]
  cases p columns <;> rfl

/-- How many checks a catalog passes apart from the one of columns. -/
def passedBesides (catalog : Catalog) : Nat :=
  (if catalog.mandatory.isEmpty then 0 else 1) + Check.others.countP (Check.holds catalog)

/-- The report counts the check of columns as passed. -/
def CountsColumns (report : Consistency) (catalog : Catalog) : Prop :=
  report.passed = passedBesides catalog + 1

/-- The report tells of columns that are bound to an identifier without a requirement. -/
def TellsOf (report : Consistency) (id : String) : Prop :=
  ∃ issue ∈ report.issues, issue.category = Check.columns.category ∧ .text id ∈ issue.affected

/-- The report tells of all identifiers that have columns and no field, and the check is
counted only if there are none. -/
structure CoversTemplates (report : Consistency) (catalog : Catalog)
    (fields : List Registry.Field) : Prop where
  told : ∀ id, IsUnregistered fields id → report.TellsOf id
  counted : report.CountsColumns catalog → ∀ id, ¬IsUnregistered fields id

section Report

variable {fields : List Registry.Field} {checks definitions : List Value}
  {catalog : Catalog} {report : Consistency} {tolerated : List Value}
  {found : Check → List Value}

/-- No issue is one of the check of columns. -/
theorem IsMadeOf.category_ne (hmade : catalog.MadeOf fields checks definitions)
    (h : report.IsMadeOf catalog tolerated found) :
    ∀ issue ∈ report.issues, issue.category ≠ Check.columns.category := by
  intro issue hissue hcategory
  rcases h.isNote_or_raised hissue with hnote | ⟨check, hraised, hfails⟩
  · rw [Issue.isNote, hcategory, Bool.and_eq_true, beq_iff_eq, beq_iff_eq] at hnote
    exact absurd hnote.2 (by decide)
  · rw [Check.raised, hcategory, Bool.and_eq_true, beq_iff_eq, beq_iff_eq] at hraised
    have hcolumns : check = .columns := by
      have hcategories : ∀ c : Check, Check.columns.category = c.category → c = .columns := by
        intro c
        cases c <;> decide
      exact hcategories check hraised.2
    rw [hcolumns, Check.holds_columns hmade] at hfails
    cases hfails

theorem IsMadeOf.countsColumns (hmade : catalog.MadeOf fields checks definitions)
    (h : report.IsMadeOf catalog tolerated found) : report.CountsColumns catalog := by
  rw [CountsColumns, h.passed_eq, Check.countP_all, Check.holds_columns hmade, passedBesides,
    Nat.add_assoc]
  rfl

end Report

end Consistency

/--
A catalog can be built of any registry whose fields can be read, with any checks and controls
that can be. What has columns in it is what the map binds, but only among the identifiers of
the fields. A report on it can be made if every mention of what is unknown has a text. It never
has an issue about columns, and the check of columns is counted as passed. This is right just
for the registries that have a field for every identifier with columns.
-/
theorem Catalog.consistency_passes_columns (fields : List Registry.Field)
    (checks definitions : List Value) (version : Value) :
    ((∃ catalog, build fields checks definitions version = .ok catalog) ↔
      Readable fields checks definitions) ∧
    ∀ catalog, build fields checks definitions version = .ok catalog →
      catalog.requirements.map Requirement.id = fields.map Registry.Field.id ∧
      (∀ r ∈ catalog.requirements, r.inTemplate ↔ ∃ id, r.id = .text id ∧ IsBound id) ∧
      ((∃ report, catalog.consistency = .ok report) ↔
        ∀ mention ∈ catalog.unknownTerms ++ catalog.unknownRules,
          ∃ text, arrow mention.1 mention.2 = .ok text) ∧
      ∀ report, catalog.consistency = .ok report →
        (∀ issue ∈ report.issues, issue.category ≠ Check.columns.category) ∧
        report.CountsColumns catalog ∧
        (report.CoversTemplates catalog fields ↔ ∀ id, ¬IsUnregistered fields id) := by
  refine ⟨exists_build_iff, fun catalog h => ?_⟩
  have hmade := of_build_eq_ok h
  refine ⟨hmade.map_id, fun r hr => ?_, exists_consistency_iff hmade, fun report hreport => ?_⟩
  · have hmem : (.ok r : Result Requirement) ∈ fields.map Requirement.ofField := by
      rw [Result.mapM_eq_ok_iff.1 hmade.requirements]
      exact List.mem_map_of_mem hr
    obtain ⟨field, -, hfield⟩ := List.mem_map.1 hmem
    exact Requirement.inTemplate_iff hfield
  · obtain ⟨tolerated, found, hfound⟩ := exists_found hmade hreport
    have hsilent := hfound.category_ne hmade
    have hcounted := hfound.countsColumns hmade
    refine ⟨hsilent, hcounted, ⟨fun hcovers => hcovers.counted hcounted, fun hnone => ?_⟩⟩
    exact ⟨fun id hid => absurd hid (hnone id), fun _ => hnone⟩

/-- A field with no other text than its identifier. -/
def bareField (id : String) : Registry.Field := { id := .text id, term := .text id }

/-- One of two requirements has columns. The report does not tell of those of the exchange
rate, for which there is no field. -/
theorem Catalog.consistency_passes_columns_two :
    let fields := [bareField "IBT-001", bareField "IBT-023"]
    ∃ catalog report, build fields [] [] .null = .ok catalog ∧
      catalog.requirements.map Requirement.inTemplate = [true, false] ∧
      catalog.consistency = .ok report ∧ report.issues.length = 0 ∧
      (∀ issue ∈ report.issues, issue.category ≠ Check.columns.category) ∧
      report.CountsColumns catalog ∧ report.passed = 5 := by
  intro fields
  have hrun : (do
      let catalog ← build fields [] [] .null
      let report ← catalog.consistency
      return (catalog.requirements.map Requirement.inTemplate, report.issues.length,
        report.passed)) = (.ok ([true, false], 0, 5) : Result (List Bool × Nat × Nat)) := by
    decide +kernel
  obtain ⟨catalog, hcatalog, hrun⟩ := Result.bind_eq_ok.1 hrun
  obtain ⟨report, hreport, hrun⟩ := Result.bind_eq_ok.1 hrun
  obtain ⟨hcolumns, hrun⟩ := Prod.mk.inj (Except.ok.inj hrun)
  obtain ⟨hnone, hpassed⟩ := Prod.mk.inj hrun
  obtain ⟨-, -, -, hreports⟩ :=
    (consistency_passes_columns fields [] [] .null).2 catalog hcatalog
  obtain ⟨hsilent, hcounted, -⟩ := hreports report hreport
  exact ⟨catalog, report, hcatalog, hcolumns, hreport, hnone, hsilent, hcounted, hpassed⟩

/-- A registry has a field for everything that has columns, but not for the exchange rate: the
report does not tell of it. -/
theorem Catalog.consistency_misses_column :
    let others := sources.filter fun s => !s.columns.isEmpty && s.id != "IBT-007"
    let fields := others.map fun s => bareField s.id
    ∃ catalog report, build fields [] [] .null = .ok catalog ∧
      catalog.consistency = .ok report ∧ IsUnregistered fields "IBT-007" ∧
      ¬report.TellsOf "IBT-007" ∧ report.CountsColumns catalog ∧
      ¬report.CoversTemplates catalog fields := by
  intro others fields
  have hrun : (do
      let catalog ← build fields [] [] .null
      let report ← catalog.consistency
      return (report.issues.length, report.passed - Consistency.passedBesides catalog)) =
      (.ok (0, 1) : Result (Nat × Nat)) := by
    decide +kernel
  obtain ⟨catalog, hcatalog, hrun⟩ := Result.bind_eq_ok.1 hrun
  obtain ⟨report, hreport, hrun⟩ := Result.bind_eq_ok.1 hrun
  obtain ⟨hnone, hpassed⟩ := Prod.mk.inj (Except.ok.inj hrun)
  have hunregistered : IsUnregistered fields "IBT-007" := by
    refine ⟨⟨_, rfl, by decide⟩, fun field hfield hid => ?_⟩
    obtain ⟨s, hs, rfl⟩ := List.mem_map.1 hfield
    obtain ⟨-, hother⟩ := Bool.and_eq_true_iff.1 (List.mem_filter.1 hs).2
    exact bne_iff_ne.1 hother (Value.text.inj hid)
  have hcounted : report.CountsColumns catalog := by
    rw [Consistency.CountsColumns]
    omega
  have hsilent : ¬report.TellsOf "IBT-007" := by
    rintro ⟨issue, hissue, -⟩
    rw [List.eq_nil_of_length_eq_zero hnone] at hissue
    cases hissue
  exact ⟨catalog, report, hcatalog, hreport, hunregistered, hsilent, hcounted,
    fun hcovers => hsilent (hcovers.told _ hunregistered)⟩

end InvoiceReadiness.Traceability
