import InvoiceReadiness.Dataset
import InvoiceReadiness.Proofs.Outcome

/-!
# Record by record

Most checks go through the records once and collect what there is to say about each
(`collect`). So whatever is known about a single record is known about the whole: what is
found, which faults come up, and what stays the same when records are appended.

## Main results

* `collect_eq_mapM_filter` — what there is to say about some of the records.
* `yields_collect`, `yields_flatten` — what is found.
* `exists_said_of_collect` — nothing that is said is lost.
* `fails_collect` — which faults come up.
* `collect_append`, `collect_congr` — other records, and other things to say.
-/

namespace InvoiceReadiness

variable {α β : Type}

/-! ## What is found -/

theorem collect_eq_ok {records : List Record} {f : Record → Result (Option α)}
    {judge : Record → Option α} (h : ∀ r ∈ records, f r = .ok (judge r)) :
    collect records f = .ok (records.filterMap judge) := by
  rw [collect, Result.mapM_eq_ok_map h, Result.ok_bind]
  exact congrArg Except.ok (by rw [List.filterMap_map]; rfl)

theorem collect_cons (r : Record) (rest : List Record) (f : Record → Result (Option α)) :
    collect (r :: rest) f = do return (← f r).toList ++ (← collect rest f) := by
  rw [collect, collect, List.mapM_cons]
  cases f r with
  | error fault => rfl
  | ok said =>
      cases rest.mapM f with
      | error fault => rfl
      | ok more => cases said <;> rfl

/-- Collecting what there is to say about some of the records only. -/
theorem collect_eq_mapM_filter {records : List Record}
    {f : Record → Result (Option α)} {p : Record → Bool} {g : Record → Result α}
    (h : ∀ r ∈ records, f r = if p r then some <$> g r else .ok none) :
    collect records f = (records.filter p).mapM g := by
  induction records with
  | nil => rfl
  | cons r rest ih =>
      obtain ⟨hr, hrest⟩ := List.forall_mem_cons.1 h
      rw [collect_cons, hr, ih hrest]
      by_cases hp : p r
      · rw [if_pos hp, List.filter_cons_of_pos hp, List.mapM_cons]
        cases g r <;> rfl
      · rw [if_neg hp, List.filter_cons_of_neg hp]
        cases (rest.filter p).mapM g <;> rfl

section Yields

variable {P : α → Prop}

theorem yields_nil : Yields (fun found => ∀ a ∈ found, P a) (pure []) :=
  Yields.pure_iff.2 (List.forall_mem_nil P)

theorem yields_none : Yields (fun found => ∀ a, found = some a → P a) (pure none) :=
  Yields.pure_iff.2 (by simp)

theorem yields_some {a : α} (h : P a) :
    Yields (fun found => ∀ a, found = some a → P a) (pure (some a)) :=
  Yields.pure_iff.2 (by simpa using h)

end Yields

/-- What is collected is like what there is to say about each of the records. -/
theorem yields_collect {P : α → Prop} {records : List Record} {f : Record → Result (Option α)}
    (hf : ∀ r ∈ records, Yields (fun found => ∀ a, found = some a → P a) (f r)) :
    Yields (fun found => ∀ a ∈ found, P a) (collect records f) := by
  rw [collect, Yields.bind_iff]
  intro found hfound
  refine Yields.pure_iff.2 fun a ha => ?_
  obtain ⟨x, hx, rfl⟩ := List.mem_filterMap.1 ha
  exact Yields.mapM hf hfound _ hx a rfl

/-- The same where an item may give several. -/
theorem yields_flatten {P : β → Prop} {items : List α} {f : α → Result (List β)}
    (hf : ∀ x ∈ items, Yields (fun found => ∀ b ∈ found, P b) (f x)) :
    Yields (fun found => ∀ b ∈ found, P b) (do return (← items.mapM f).flatten) := by
  rw [Yields.bind_iff]
  intro found hfound
  refine Yields.pure_iff.2 fun b hb => ?_
  obtain ⟨part, hpart, hb⟩ := List.mem_flatten.1 hb
  exact Yields.mapM hf hfound part hpart b hb

/-- There is something to say about each of the records, and all of it is collected. -/
theorem exists_said_of_collect {records : List Record} {f : Record → Result (Option α)}
    {found : List α} (h : collect records f = .ok found) {r : Record} (hr : r ∈ records) :
    ∃ said, f r = .ok said ∧ ∀ a, said = some a → a ∈ found := by
  obtain ⟨all, hall, ⟨⟩⟩ := Result.bind_eq_ok.1 h
  obtain ⟨said, hmem, hsaid⟩ := Result.exists_result_of_mem hall hr
  exact ⟨said, hsaid, fun a ha => List.mem_filterMap.2 ⟨said, hmem, ha⟩⟩

/-- What is found for one of the items is among what is found for all. -/
theorem exists_part_of_flatten {items : List α} {f : α → Result (List β)} {found : List β}
    (h : (do return (← items.mapM f).flatten) = .ok found) {x : α} (hx : x ∈ items) :
    ∃ part, f x = .ok part ∧ part ⊆ found := by
  obtain ⟨parts, hparts, ⟨⟩⟩ := Result.bind_eq_ok.1 h
  obtain ⟨part, hmem, hpart⟩ := Result.exists_result_of_mem hparts hx
  exact ⟨part, hpart, fun _ hb => List.mem_flatten_of_mem hmem hb⟩

/-! ## Which faults come up -/

theorem returns_collect_iff {records : List Record} {f : Record → Result (Option α)} :
    Returns (collect records f) ↔ ∀ r ∈ records, Returns (f r) := by
  simp [collect, Returns.mapM_iff]

theorem returns_collect {r : Record} {f : Record → Result (Option α)} :
    Returns (collect [r] f) ↔ Returns (f r) := by
  simp [returns_collect_iff]

/-! ## Other records, and other things to say -/

theorem collect_append (f : Record → Result (Option α)) (records more : List Record) :
    collect (records ++ more) f = do return (← collect records f) ++ (← collect more f) := by
  unfold collect
  rw [List.mapM_append]
  cases records.mapM f with
  | error fault => rfl
  | ok found =>
      cases more.mapM f with
      | error fault => rfl
      | ok found' => exact congrArg Except.ok List.filterMap_append

/-- What is made of each thing that is said. -/
theorem collect_map (records : List Record) (f : Record → Result (Option α)) (g : α → β) :
    (do return (← collect records f).map g) =
      collect records fun r => do return (← f r).map g := by
  induction records with
  | nil => rfl
  | cons r rest ih =>
      rw [collect_cons, collect_cons, ← ih]
      cases f r with
      | error fault => rfl
      | ok said =>
          cases collect rest f with
          | error fault => rfl
          | ok found => cases said <;> rfl

theorem collect_congr {f g : Record → Result (Option α)} {records : List Record}
    (h : ∀ r ∈ records, f r = g r) : collect records f = collect records g := by
  have hmap : records.mapM f = records.mapM g := by
    induction records with
    | nil => rfl
    | cons r rest ih =>
        obtain ⟨hr, hrest⟩ := List.forall_mem_cons.1 h
        rw [List.mapM_cons, List.mapM_cons, hr, ih hrest]
  rw [collect, collect, hmap]

end InvoiceReadiness
