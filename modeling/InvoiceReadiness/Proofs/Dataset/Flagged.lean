import InvoiceReadiness.Proofs.Dataset.Collecting

/-!
# Findings and flagged records

A check flags some of the records and reports them. `ReportsExactly` says that its findings
are about flagged records and that no flagged record is left out; what the findings say
about a record is a parameter. For a check that goes through the records one by one this
comes down to what it says about each (`Says`). If it says one thing at most about a
record, its findings are those about the flagged records one by one (`ReportsEach`).

## Main results

* `reportsExactly_of_collect`, `reportsExactly_of_flatten` — from one record to all.
* `reportsEach_of_collect` — the same, one finding for each flagged record.
-/

namespace InvoiceReadiness

variable {α : Type}

/-- There is something to say about a record if and only if it is flagged, and what is said
is about it. -/
def Says (flagged : Prop) (about : α → Prop) (said : Option α) : Prop :=
  (said.isSome ↔ flagged) ∧ ∀ a, said = some a → about a

/-- What is found is about flagged records, and about each of them. -/
structure ReportsExactly (records : List Record) (flagged : Record → Prop)
    (about : Record → α → Prop) (found : List α) : Prop where
  sound : ∀ a ∈ found, ∃ r ∈ records, flagged r ∧ about r a
  complete : ∀ r ∈ records, flagged r → ∃ a ∈ found, about r a

/-- The findings are about the flagged records, one about each of them and in their order. -/
def ReportsEach (records : List Record) (flagged : Record → Prop)
    (about : Record → α → Prop) (found : List α) : Prop :=
  ∃ p : Record → Bool, (∀ r ∈ records, p r ↔ flagged r) ∧
    List.Forall₂ about (records.filter p) found

section

variable {flagged : Prop} {about : α → Prop}

@[simp] theorem says_none : Says flagged about none ↔ ¬flagged := by simp [Says]

@[simp] theorem says_some {a : α} : Says flagged about (some a) ↔ flagged ∧ about a := by
  simp [Says]

end

/-- Something or nothing is made of each of the items, and all of it is kept. -/
theorem exists_said_of_filterMapM {ι : Type} {items : List ι} {f : ι → Result (Option α)}
    {part : List α} (h : items.filterMapM f = .ok part) {x : ι} (hx : x ∈ items) :
    ∃ said, f x = .ok said ∧ ∀ a, said = some a → a ∈ part := by
  induction items generalizing part with
  | nil => cases hx
  | cons first rest ih =>
      rw [List.filterMapM_cons] at h
      obtain ⟨said, hsaid, h⟩ := Result.bind_eq_ok.1 h
      cases said with
      | none =>
          rcases List.mem_cons.1 hx with rfl | hx
          · exact ⟨none, hsaid, nofun⟩
          · exact ih h hx
      | some b =>
          obtain ⟨more, hmore, ⟨⟩⟩ := Result.bind_eq_ok.1 h
          rcases List.mem_cons.1 hx with rfl | hx
          · exact ⟨some b, hsaid, fun a ha => Option.some.inj ha ▸ List.mem_cons_self⟩
          · obtain ⟨said, hx, hkept⟩ := ih hmore hx
            exact ⟨said, hx, fun a ha => List.mem_cons_of_mem b (hkept a ha)⟩

section

variable {records : List Record} {flagged : Record → Prop} {about : Record → α → Prop}

/-- A check that says something about each flagged record, and about no other. -/
theorem reportsExactly_of_collect {f : Record → Result (Option α)}
    (hf : ∀ r ∈ records, Yields (Says (flagged r) (about r)) (f r)) :
    Yields (ReportsExactly records flagged about) (collect records f) := by
  intro found hfound
  refine ⟨?_, fun r hr hflagged => ?_⟩
  · refine yields_collect (fun r hr said hsaid a ha => ?_) hfound
    obtain ⟨hiff, habout⟩ := hf r hr hsaid
    exact ⟨r, hr, hiff.1 (ha ▸ rfl), habout a ha⟩
  · obtain ⟨said, hsaid, hfound⟩ := exists_said_of_collect hfound hr
    obtain ⟨hiff, habout⟩ := hf r hr hsaid
    obtain ⟨a, ha⟩ := Option.isSome_iff_exists.1 (hiff.2 hflagged)
    exact ⟨a, hfound a ha, habout a ha⟩

/-- The same where a check may say several things about a record. -/
theorem reportsExactly_of_flatten {f : Record → Result (List α)}
    (hf : ∀ r ∈ records, Yields (fun part =>
      (part ≠ [] ↔ flagged r) ∧ ∀ a ∈ part, about r a) (f r)) :
    Yields (ReportsExactly records flagged about)
      (do return (← records.mapM f).flatten) := by
  intro found hfound
  refine ⟨?_, fun r hr hflagged => ?_⟩
  · refine yields_flatten (fun r hr part hpart a ha => ?_) hfound
    obtain ⟨hiff, habout⟩ := hf r hr hpart
    exact ⟨r, hr, hiff.1 (List.ne_nil_of_mem ha), habout a ha⟩
  · obtain ⟨part, hpart, hsub⟩ := exists_part_of_flatten hfound hr
    obtain ⟨hiff, habout⟩ := hf r hr hpart
    obtain ⟨a, ha⟩ := List.exists_mem_of_ne_nil part (hiff.2 hflagged)
    exact ⟨a, hsub ha, habout a ha⟩

/-- What is kept of what is said about each item is about the flagged ones, one by one. -/
theorem forall₂_filter_of_says {ι : Type} {about : ι → α → Prop} {p : ι → Bool} {items : List ι}
    {all : List (Option α)}
    (h : List.Forall₂ (fun x said => Says (p x) (about x) said) items all) :
    List.Forall₂ about (items.filter p) (all.filterMap fun found => found) := by
  induction h with
  | nil => exact .nil
  | @cons r said _ _ hr _ ih =>
      cases said with
      | none =>
          rw [List.filter_cons_of_neg (says_none.1 hr)]
          exact ih
      | some a =>
          obtain ⟨hp, habout⟩ := says_some.1 hr
          rw [List.filter_cons_of_pos hp]
          exact .cons habout ih

/-- A check that says one thing about each flagged record, and nothing about the others. -/
theorem reportsEach_of_collect {f : Record → Result (Option α)}
    (hf : ∀ r ∈ records, Yields (Says (flagged r) (about r)) (f r)) :
    Yields (ReportsEach records flagged about) (collect records f) := by
  classical
  intro found hfound
  obtain ⟨all, hall, ⟨⟩⟩ := Result.bind_eq_ok.1 hfound
  refine ⟨fun r => decide (flagged r), fun r _ => decide_eq_true_iff, ?_⟩
  refine forall₂_filter_of_says ?_
  have hsaid := (List.forall₂_and_left records all).2 ⟨hf, Result.forall₂_of_mapM_eq_ok hall⟩
  refine hsaid.imp fun r said h => ?_
  simpa using h.1 h.2

/-- Of two related lists, each item of the second one is related to one of the first. -/
theorem exists_of_forall₂ {ι : Type} {about : ι → α → Prop} {items : List ι} {found : List α}
    (h : List.Forall₂ about items found) :
    (∀ a ∈ found, ∃ x ∈ items, about x a) ∧ ∀ x ∈ items, ∃ a ∈ found, about x a := by
  induction h with
  | nil => simp
  | cons hfirst _ ih =>
      obtain ⟨hsound, hcomplete⟩ := ih
      constructor
      · exact List.forall_mem_cons.2 ⟨⟨_, List.mem_cons_self, hfirst⟩, fun a ha =>
          (hsound a ha).imp fun x hx => ⟨List.mem_cons_of_mem _ hx.1, hx.2⟩⟩
      · exact List.forall_mem_cons.2 ⟨⟨_, List.mem_cons_self, hfirst⟩, fun x hx =>
          (hcomplete x hx).imp fun a ha => ⟨List.mem_cons_of_mem _ ha.1, ha.2⟩⟩

/-- What is reported record by record is about flagged records, and about each of them. -/
theorem ReportsEach.reportsExactly {found : List α} (h : ReportsEach records flagged about found) :
    ReportsExactly records flagged about found := by
  obtain ⟨p, hp, hfound⟩ := h
  obtain ⟨hsound, hcomplete⟩ := exists_of_forall₂ hfound
  refine ⟨fun a ha => ?_, fun r hr hflagged => ?_⟩
  · obtain ⟨r, hr, habout⟩ := hsound a ha
    obtain ⟨hmem, hpasses⟩ := List.mem_filter.1 hr
    exact ⟨r, hmem, (hp r hmem).1 hpasses, habout⟩
  · exact hcomplete r (List.mem_filter.2 ⟨hr, (hp r hr).2 hflagged⟩)

theorem ReportsEach.congr {flagged' : Record → Prop} {found : List α}
    (h : ReportsEach records flagged about found) (hiff : ∀ r ∈ records, flagged r ↔ flagged' r) :
    ReportsEach records flagged' about found := by
  obtain ⟨p, hp, hfound⟩ := h
  exact ⟨p, fun r hr => (hp r hr).trans (hiff r hr), hfound⟩

end

end InvoiceReadiness
