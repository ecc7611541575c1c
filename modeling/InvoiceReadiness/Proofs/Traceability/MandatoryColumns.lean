import InvoiceReadiness.Proofs.Text.Distinct
import InvoiceReadiness.Traceability.Requirement

/-!
# The columns that a file must have

A template for a file is built from the columns that the file must have: those that its
mandatory requirements bind, as far as they are read, and those by which it is joined with the
other files. Several requirements may bind one column, and a join column may be bound as well;
each column is listed where it first comes, with the join columns after all that are bound.

So the list has every such column once and no others. A requirement more, wherever it stands
among the others, takes no column away.

## Main results

* `mandatoryColumns_eq` — the list as texts that are kept where they first come.
* `mem_mandatoryColumns_iff` — which columns are listed.
* `mandatoryColumns_exact` — the columns, their order, and what another requirement changes.
-/

namespace InvoiceReadiness.Traceability

/-! ## Columns that requirements bind -/

/-- A mandatory requirement of a file binds its columns. -/
def Requirement.Binds (r : Requirement) (kind : RecordKind) (column : String) : Prop :=
  r.file = some kind.name ∧ r.mandatory ∧ column ∈ r.columns

/-- The columns that the mandatory requirements of a file bind, each as often as it is bound, in
the order of the requirements and, within one, of its columns. -/
def boundColumns (kind : RecordKind) (requirements : List Requirement) : List String :=
  (requirements.filter fun r => r.file == some kind.name && r.mandatory).flatMap
    Requirement.columns

variable {kind : RecordKind} {requirements : List Requirement} {column : String}

theorem mem_boundColumns_iff :
    column ∈ boundColumns kind requirements ↔ ∃ r ∈ requirements, r.Binds kind column := by
  simp [boundColumns, Requirement.Binds, and_assoc]

/-- The columns by which a file is joined are read. -/
theorem mem_knownColumns_of_join (h : column ∈ joinColumns kind) : column ∈ knownColumns kind := by
  cases kind <;> revert column <;> decide

/-! ## The list of columns -/

/-- Texts that are added one by one, unless they are there, are kept where they first come. -/
theorem foldl_addOnce (texts : List String) : texts.foldl addOnce [] = texts.eraseDups := by
  induction texts using List.reverseRecOn with
  | nil => rfl
  | append_singleton texts last ih =>
      rw [List.foldl_append, ih, List.foldl_cons, List.foldl_nil, addOnce, eraseDups_concat]
      by_cases hmem : last ∈ texts <;> simp [hmem]

/-- The bound columns that are read, and the join columns, kept where they first come. -/
theorem mandatoryColumns_eq (kind : RecordKind) (requirements : List Requirement) :
    mandatoryColumns kind requirements =
      ((boundColumns kind requirements).filter (knownColumns kind).contains ++
        joinColumns kind).eraseDups := by
  have hneeded : (requirements.flatMap fun r =>
      if r.file == some kind.name && r.mandatory then
        r.columns.filter (knownColumns kind).contains
      else []) = (boundColumns kind requirements).filter (knownColumns kind).contains := by
    induction requirements with
    | nil => rfl
    | cons r rest ih =>
        rw [List.flatMap_cons, ih, boundColumns, boundColumns, List.filter_cons]
        split
        · rw [List.flatMap_cons, List.filter_append]
        · rw [List.nil_append]
  rw [mandatoryColumns, hneeded, foldl_addOnce]

theorem mem_mandatoryColumns_iff :
    column ∈ mandatoryColumns kind requirements ↔
      column ∈ joinColumns kind ∨
      column ∈ knownColumns kind ∧ ∃ r ∈ requirements, r.Binds kind column := by
  rw [mandatoryColumns_eq, List.mem_eraseDups, List.mem_append, List.mem_filter,
    List.contains_iff_mem, mem_boundColumns_iff, or_comm, and_comm]

/-- Columns that are no join columns are listed in the order in which they are first bound. -/
theorem pairwise_mandatoryColumns (kind : RecordKind) (requirements : List Requirement) :
    ((mandatoryColumns kind requirements).filter fun column =>
        !(joinColumns kind).contains column).Pairwise fun column other =>
      (boundColumns kind requirements).idxOf column <
        (boundColumns kind requirements).idxOf other := by
  -- The bound columns come first, so the join columns after them have no part in the order.
  have hread {column : String} (h : column ∈ (mandatoryColumns kind requirements).filter
      fun column => !(joinColumns kind).contains column) :
      (knownColumns kind).contains column ∧
        column ∈ (boundColumns kind requirements).filter (knownColumns kind).contains := by
    obtain ⟨hlisted, hjoin⟩ := List.mem_filter.1 h
    have hbound := (mem_mandatoryColumns_iff.1 hlisted).resolve_left (by simpa using hjoin)
    rw [List.contains_iff_mem, List.mem_filter, List.contains_iff_mem, mem_boundColumns_iff]
    exact ⟨hbound.1, hbound.symm⟩
  have hfirst := (pairwise_eraseDups
    ((boundColumns kind requirements).filter (knownColumns kind).contains ++
      joinColumns kind)).filter fun column => !(joinColumns kind).contains column
  rw [← mandatoryColumns_eq] at hfirst
  refine hfirst.imp_of_mem fun hcolumn hother hlt => ?_
  obtain ⟨hknown, hmem⟩ := hread hcolumn
  obtain ⟨hknown', hmem'⟩ := hread hother
  rw [List.idxOf_append_of_mem hmem, List.idxOf_append_of_mem hmem'] at hlt
  exact idxOf_lt_of_filter hknown hknown' hlt

/--
**The columns that a file must have.** Each is listed once, and all of them are read. They are
the columns by which the file is joined and those that are read and bound by a mandatory
requirement of the file. Those that are no join columns stand in the order in which they are
first bound. With another requirement, at any place among the others, no column is missing.
-/
theorem mandatoryColumns_exact (kind : RecordKind) (requirements : List Requirement) :
    (mandatoryColumns kind requirements).Nodup ∧
    (∀ column ∈ mandatoryColumns kind requirements, column ∈ knownColumns kind) ∧
    (∀ column, column ∈ mandatoryColumns kind requirements ↔
      column ∈ joinColumns kind ∨
      column ∈ knownColumns kind ∧ ∃ r ∈ requirements, r.Binds kind column) ∧
    ((mandatoryColumns kind requirements).filter fun column =>
        !(joinColumns kind).contains column).Pairwise (fun column other =>
      (boundColumns kind requirements).idxOf column <
        (boundColumns kind requirements).idxOf other) ∧
    ∀ before after added, requirements = before ++ after →
      mandatoryColumns kind requirements ⊆ mandatoryColumns kind (before ++ added :: after) := by
  refine ⟨?_, fun column hcolumn => ?_, fun column => mem_mandatoryColumns_iff,
    pairwise_mandatoryColumns kind requirements, ?_⟩
  · rw [mandatoryColumns_eq]
    exact nodup_eraseDups _
  · rcases mem_mandatoryColumns_iff.1 hcolumn with hjoin | ⟨hknown, -⟩
    · exact mem_knownColumns_of_join hjoin
    · exact hknown
  · rintro before after added rfl column hcolumn
    rw [mem_mandatoryColumns_iff] at hcolumn ⊢
    refine hcolumn.imp_right fun ⟨hknown, r, hr, hbinds⟩ => ⟨hknown, r, ?_, hbinds⟩
    rw [List.mem_append, List.mem_cons]
    exact (List.mem_append.1 hr).imp_right .inr

end InvoiceReadiness.Traceability
