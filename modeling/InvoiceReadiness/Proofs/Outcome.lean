import InvoiceReadiness.Fault
import Mathlib.Data.List.Forall2

/-!
# Comparing outcomes

Reading and evaluating an expression run on a depth budget, and both stop with
`Fault.tooDeep` when it is used up. What a law says about such a computation
holds apart from that one fault. Two relations say so:

* `WithinDepth r s` — `r` is `s`, unless the budget cut it off;
* `Agree R r s` — both succeed with results related by `R`, or both fail with
  faults of one kind, unless the budget cut one of them off.

Both pass through `>>=`, so a law about a composed computation is assembled from
the laws about its parts. So do three properties of one computation:

* `FailsOnly P r` — whatever `r` fails with is one of the faults that `P` describes;
* `Yields P r` — whatever `r` ends well with satisfies `P`;
* `Returns r` — `r` ends well.

A last relation compares two computations that read the same in another order:

* `Alike R r s` — where both end well, their results are related by `R`.

## Main results

* `Result.bind_eq_ok`, `Result.bind_eq_error` — how a composed computation ends.
* `Result.mapM_eq_ok_iff` — how a computation for each of some items ends.
* `Result.mapM_guard`, `Result.foldlM_guard` — computations that refuse some items.
* `WithinDepth.bind`, `Agree.bind`, `FailsOnly.bind`, `Yields.bind_iff` — the relations
  and properties along a composition.
-/

namespace InvoiceReadiness

namespace Result

variable {α β : Type}

@[simp] theorem ok_bind (a : α) (f : α → Result β) :
    ((.ok a : Result α) >>= f) = f a := rfl

@[simp] theorem error_bind (fault : Fault) (f : α → Result β) :
    ((.error fault : Result α) >>= f) = .error fault := rfl

theorem bind_eq_ok {r : Result α} {f : α → Result β} {b : β} :
    (r >>= f) = .ok b ↔ ∃ a, r = .ok a ∧ f a = .ok b := by
  cases r <;> simp

theorem bind_eq_error {r : Result α} {f : α → Result β} {fault : Fault} :
    (r >>= f) = .error fault ↔
      r = .error fault ∨ ∃ a, r = .ok a ∧ f a = .error fault := by
  cases r <;> simp

theorem eq_error_of_map {r : Result α} {f : α → β} {fault : Fault}
    (h : r.map f = .error fault) : r = .error fault := by
  cases r with
  | ok a => cases h
  | error other =>
      cases h
      rfl

/-- What is made of a result exists if the result does. -/
theorem exists_return_eq_ok_iff {r : Result α} {f : α → β} :
    (∃ b, (do return f (← r) : Result β) = .ok b) ↔ ∃ a, r = .ok a := by
  cases r with
  | ok a => exact iff_of_true ⟨f a, rfl⟩ ⟨a, rfl⟩
  | error fault => exact iff_of_false nofun nofun

/-- A choice of what to do first is made before what follows. -/
theorem ite_bind {condition : Prop} [Decidable condition] {r s : Result α}
    {f : α → Result β} :
    (if condition then r else s) >>= f = if condition then r >>= f else s >>= f := by
  split <;> rfl

/-- A computation for each of some items ends well if each of them does. -/
theorem mapM_eq_ok_iff {f : α → Result β} {items : List α} {results : List β} :
    items.mapM f = .ok results ↔ items.map f = results.map .ok := by
  induction items generalizing results with
  | nil =>
      rw [List.mapM_nil]
      cases results <;> simp [pure, Except.pure]
  | cons x rest ih =>
      rw [List.mapM_cons, bind_eq_ok]
      constructor
      · rintro ⟨y, hy, hrest⟩
        obtain ⟨more, hmore, ⟨⟩⟩ := bind_eq_ok.1 hrest
        rw [List.map_cons, List.map_cons, hy, ih.1 hmore]
      · intro h
        cases results with
        | nil => cases h
        | cons y more =>
            rw [List.map_cons, List.map_cons, List.cons.injEq] at h
            refine ⟨y, h.1, bind_eq_ok.2 ⟨more, ih.2 h.2, rfl⟩⟩

theorem mapM_eq_ok_map {f : α → Result β} {g : α → β} {items : List α}
    (h : ∀ x ∈ items, f x = .ok (g x)) : items.mapM f = .ok (items.map g) := by
  rw [mapM_eq_ok_iff, List.map_map]
  exact List.map_congr_left h

/-- A computation for two lists of items, one after the other. -/
theorem mapM_append_eq_ok {f : α → Result β} {items more : List α} {results : List β} :
    (items ++ more).mapM f = .ok results ↔
      ∃ first last, items.mapM f = .ok first ∧ more.mapM f = .ok last ∧
        results = first ++ last := by
  rw [List.mapM_append]
  constructor
  · intro h
    obtain ⟨first, hfirst, h⟩ := bind_eq_ok.1 h
    obtain ⟨last, hlast, h⟩ := bind_eq_ok.1 h
    exact ⟨first, last, hfirst, hlast, (Except.ok.inj h).symm⟩
  · rintro ⟨first, last, hfirst, hlast, rfl⟩
    rw [hfirst, hlast]
    rfl

/-- Each of the items has its result. -/
theorem exists_result_of_mem {f : α → Result β} {items : List α} {results : List β}
    (h : items.mapM f = .ok results) {x : α} (hx : x ∈ items) :
    ∃ y ∈ results, f x = .ok y := by
  have hmem : f x ∈ results.map Except.ok := by
    rw [← mapM_eq_ok_iff.1 h]
    exact List.mem_map_of_mem hx
  obtain ⟨y, hy, heq⟩ := List.mem_map.1 hmem
  exact ⟨y, hy, heq.symm⟩

/-- All items give what `g` makes of them, unless one of them does not have `p`. -/
theorem mapM_eq_ok_map_iff {f : α → Result β} {p : α → Prop} {g : α → β} {items : List α}
    (hf : ∀ x ∈ items, ∀ y, f x = .ok y ↔ p x ∧ y = g x) {results : List β} :
    items.mapM f = .ok results ↔ (∀ x ∈ items, p x) ∧ results = items.map g := by
  have hall (hp : ∀ x ∈ items, p x) : items.mapM f = .ok (items.map g) :=
    mapM_eq_ok_map fun x hx => (hf x hx _).2 ⟨hp x hx, rfl⟩
  constructor
  · intro h
    have hp : ∀ x ∈ items, p x := by
      intro x hx
      obtain ⟨y, -, hy⟩ := exists_result_of_mem h hx
      exact ((hf x hx y).1 hy).1
    exact ⟨hp, Except.ok.inj (h.symm.trans (hall hp))⟩
  · rintro ⟨hp, rfl⟩
    exact hall hp

/-- What is read off the results is what is read off the items, one by one. -/
theorem map_eq_map_of_mapM_eq_ok {γ : Type} {f : α → Result β} {g : β → γ} {k : α → γ}
    {items : List α} {results : List β} (h : items.mapM f = .ok results)
    (hg : ∀ x ∈ items, ∀ y, f x = .ok y → g y = k x) : results.map g = items.map k := by
  rw [mapM_eq_ok_iff] at h
  induction items generalizing results with
  | nil =>
      cases results with
      | nil => rfl
      | cons y more => cases h
  | cons x rest ih =>
      cases results with
      | nil => cases h
      | cons y more =>
          rw [List.map_cons, List.map_cons, List.cons.injEq] at h
          obtain ⟨hx, hrest⟩ := List.forall_mem_cons.1 hg
          rw [List.map_cons, List.map_cons, hx y h.1, ih h.2 hrest]

/-- The results are those of the items, one for each and in order. -/
theorem forall₂_of_mapM_eq_ok {f : α → Result β} {items : List α} {results : List β}
    (h : items.mapM f = .ok results) : List.Forall₂ (fun x y => f x = .ok y) items results := by
  have heq : List.Forall₂ (· = ·) (items.map f) (results.map .ok) := by
    rw [mapM_eq_ok_iff.1 h]
    exact List.forall₂_refl _
  rwa [List.forall₂_map_left_iff, List.forall₂_map_right_iff] at heq

theorem length_of_mapM_eq_ok {f : α → Result β} {items : List α} {results : List β}
    (h : items.mapM f = .ok results) : results.length = items.length :=
  (forall₂_of_mapM_eq_ok h).length_eq.symm

/-- What is done with each of some results can be done as they come. -/
theorem mapM_bind_of_mapM_eq_ok {γ : Type} {f : α → Result β} {g : β → Result γ}
    {items : List α} {results : List β} (h : items.mapM f = .ok results) :
    items.mapM (fun x => f x >>= g) = results.mapM g := by
  induction items generalizing results with
  | nil =>
      cases h
      rfl
  | cons x rest ih =>
      rw [List.mapM_cons] at h
      obtain ⟨y, hy, h⟩ := bind_eq_ok.1 h
      obtain ⟨more, hmore, ⟨⟩⟩ := bind_eq_ok.1 h
      rw [List.mapM_cons, List.mapM_cons, hy, ok_bind, ih hmore]

/-- A computation for each of some items fails as the first of them that fails. -/
theorem exists_first_of_mapM_eq_error {f : α → Result β} {items : List α} {fault : Fault}
    (h : items.mapM f = .error fault) :
    ∃ before x after, items = before ++ x :: after ∧
      (∀ y ∈ before, ∃ b, f y = .ok b) ∧ f x = .error fault := by
  induction items with
  | nil => cases h
  | cons x rest ih =>
      rw [List.mapM_cons] at h
      cases hx : f x with
      | error other =>
          rw [hx] at h
          cases h
          exact ⟨[], x, rest, rfl, nofun, hx⟩
      | ok b =>
          rw [hx, ok_bind] at h
          have hrest : rest.mapM f = .error fault := by
            cases bind_eq_error.1 h with
            | inl hrest => exact hrest
            | inr hmore =>
                obtain ⟨more, -, hmore⟩ := hmore
                cases hmore
          obtain ⟨before, first, after, rfl, hbefore, hfirst⟩ := ih hrest
          refine ⟨x :: before, first, after, rfl, ?_, hfirst⟩
          exact List.forall_mem_cons.2 ⟨⟨b, hx⟩, hbefore⟩

/-- A filter of which every test ends well. -/
theorem filterM_eq_ok_filter {p : α → Result Bool} {q : α → Bool} {items : List α}
    (h : ∀ x ∈ items, p x = .ok (q x)) : items.filterM p = .ok (items.filter q) := by
  have haux (kept : List α) :
      items.filterAuxM p kept = .ok ((items.filter q).reverse ++ kept) := by
    induction items generalizing kept with
    | nil => rfl
    | cons x rest ih =>
        obtain ⟨hx, hrest⟩ := List.forall_mem_cons.1 h
        rw [List.filterAuxM, hx, ok_bind, ih hrest]
        cases hq : q x <;> simp [hq]
  rw [List.filterM, haux, List.append_nil, ok_bind, List.reverse_reverse]
  rfl

/-- A filter that keeps every item. -/
theorem filterM_eq_ok_self {p : α → Result Bool} {items : List α}
    (h : ∀ x ∈ items, p x = .ok true) : items.filterM p = .ok items := by
  rw [filterM_eq_ok_filter h, List.filter_eq_self.2 fun _ _ => rfl]

/-- Every test of a filter that ends well ends well. -/
theorem exists_passes_of_filterAuxM {p : α → Result Bool} {items before after : List α}
    (h : items.filterAuxM p before = .ok after) {x : α} (hx : x ∈ items) :
    ∃ passes, p x = .ok passes := by
  induction items generalizing before with
  | nil => cases hx
  | cons first rest ih =>
      obtain ⟨passes, hfirst, h⟩ := bind_eq_ok.1 h
      rcases List.mem_cons.1 hx with rfl | hx
      · exact ⟨passes, hfirst⟩
      · exact ih h hx

/-- A filter that ends well keeps the items that pass. -/
theorem exists_filter_of_filterM {p : α → Result Bool} {items kept : List α}
    (h : items.filterM p = .ok kept) :
    ∃ q : α → Bool, (∀ x ∈ items, p x = .ok (q x)) ∧ kept = items.filter q := by
  obtain ⟨after, hafter, -⟩ := bind_eq_ok.1 h
  have htests : ∀ x ∈ items, p x = .ok ((p x).toOption.getD false) := by
    intro x hx
    obtain ⟨passes, hpasses⟩ := exists_passes_of_filterAuxM hafter hx
    rw [hpasses]
    rfl
  rw [filterM_eq_ok_filter htests] at h
  exact ⟨_, htests, (Except.ok.inj h).symm⟩

theorem exists_mapM_eq_ok {f : α → Result β} {items : List α}
    (h : ∀ x ∈ items, ∃ y, f x = .ok y) : ∃ results, items.mapM f = .ok results := by
  induction items with
  | nil => exact ⟨[], rfl⟩
  | cons x rest ih =>
      obtain ⟨hx, hrest⟩ := List.forall_mem_cons.1 h
      obtain ⟨y, hy⟩ := hx
      obtain ⟨more, hmore⟩ := ih hrest
      exact ⟨y :: more, by rw [List.mapM_cons, hy, ok_bind, hmore, ok_bind]; rfl⟩

/-- A computation for each of some items has results if each of them has one. -/
theorem exists_mapM_eq_ok_iff {f : α → Result β} {items : List α} :
    (∃ results, items.mapM f = .ok results) ↔ ∀ x ∈ items, ∃ y, f x = .ok y := by
  refine ⟨?_, exists_mapM_eq_ok⟩
  rintro ⟨results, h⟩ x hx
  obtain ⟨y, -, hy⟩ := exists_result_of_mem h hx
  exact ⟨y, hy⟩

/-- Leaving out items and computing the rest is computing for the items that are kept. -/
theorem filterMapM_eq_mapM_filter {f : α → Result (Option β)} {p : α → Bool}
    {g : α → Result β} {items : List α}
    (h : ∀ x ∈ items, f x = if p x then some <$> g x else .ok none) :
    items.filterMapM f = (items.filter p).mapM g := by
  induction items with
  | nil => rfl
  | cons x rest ih =>
      obtain ⟨hx, hrest⟩ := List.forall_mem_cons.1 h
      rw [List.filterMapM_cons, hx, ih hrest]
      by_cases hp : p x
      · rw [if_pos hp, List.filter_cons_of_pos hp, List.mapM_cons]
        cases g x <;> rfl
      · rw [if_neg hp, List.filter_cons_of_neg hp]
        rfl

/-- What is computed of the items of one sort, where all were computed beside their sorts. -/
theorem mapM_filter_of_mapM {γ : Type} {sort : α → γ} {f : α → Result β} {p : γ → Bool}
    {items : List α} {found : List (γ × β)}
    (h : items.mapM (fun x => do return (sort x, ← f x)) = .ok found) :
    (items.filter fun x => p (sort x)).mapM f =
      .ok ((found.filter fun pair => p pair.1).map Prod.snd) := by
  induction items generalizing found with
  | nil =>
      cases h
      rfl
  | cons x rest ih =>
      rw [List.mapM_cons] at h
      obtain ⟨pair, hpair, h⟩ := bind_eq_ok.1 h
      obtain ⟨more, hmore, ⟨⟩⟩ := bind_eq_ok.1 h
      obtain ⟨y, hy, ⟨⟩⟩ := bind_eq_ok.1 hpair
      by_cases hsort : p (sort x)
      · rw [List.filter_cons, if_pos hsort, List.filter_cons, if_pos hsort, List.mapM_cons,
          hy, ih hmore]
        rfl
      · rw [List.filter_cons, if_neg hsort, List.filter_cons, if_neg hsort, ih hmore]

/-- Computing for the parts of each item is computing for the parts of all. -/
theorem flatten_mapM {γ : Type} {f : α → Result (List β)} {parts : α → List γ}
    {g : γ → Result β} {items : List α} (h : ∀ x ∈ items, f x = (parts x).mapM g) :
    (do return (← items.mapM f).flatten : Result (List β)) = (items.flatMap parts).mapM g := by
  induction items with
  | nil => rfl
  | cons x rest ih =>
      obtain ⟨hx, hrest⟩ := List.forall_mem_cons.1 h
      rw [List.flatMap_cons, List.mapM_append, ← ih hrest, List.mapM_cons, hx]
      cases (parts x).mapM g with
      | error fault => rfl
      | ok first => cases rest.mapM f <;> rfl

/-- A loop that takes in one result after the other takes in those of all items. -/
theorem foldlM_return {γ : Type} {f : α → Result β} (g : γ → β → γ) (items : List α)
    (start : γ) :
    items.foldlM (fun state x => do return g state (← f x)) start =
      (do return (← items.mapM f).foldl g start : Result γ) := by
  induction items generalizing start with
  | nil => rfl
  | cons x rest ih =>
      rw [List.foldlM_cons, List.mapM_cons]
      cases f x with
      | error fault => rfl
      | ok y =>
          rw [ok_bind, ok_bind, pure_bind, ih]
          cases rest.mapM f <;> rfl

/-! ### Computations that are refused unless a condition holds -/

theorem guard_eq_ok_iff {p : Prop} [Decidable p] {a b : α} {fault : Fault} :
    (if p then .ok a else .error fault : Result α) = .ok b ↔ p ∧ b = a := by
  split <;> rename_i h
  · rw [Except.ok.injEq, and_iff_right h, eq_comm]
  · exact iff_of_false nofun fun hp => h hp.1

variable {p : α → Bool} {fault : Fault}

/-- Some items are refused, all with one fault. -/
theorem mapM_guard {f : α → Result β} {g : α → β}
    (hf : ∀ x, f x = if p x then .ok (g x) else .error fault) (items : List α) :
    items.mapM f = if ∀ x ∈ items, p x then .ok (items.map g) else .error fault := by
  induction items with
  | nil => simp [pure, Except.pure]
  | cons x rest ih =>
      rw [List.mapM_cons, hf, ih]
      by_cases hx : p x
      · rw [if_pos hx, ok_bind]
        simp only [List.forall_mem_cons, hx, true_and]
        split <;> rfl
      · rw [if_neg hx]
        simp [hx]

/-- A loop stops at the first item that is refused. -/
theorem foldlM_guard {step : β → α → Result β} {next : β → α → β}
    (hstep : ∀ state x, step state x = if p x then .ok (next state x) else .error fault)
    (start : β) (items : List α) :
    items.foldlM step start =
      if ∀ x ∈ items, p x then .ok (items.foldl next start) else .error fault := by
  induction items generalizing start with
  | nil => simp [pure, Except.pure]
  | cons x rest ih =>
      rw [List.foldlM_cons, hstep]
      by_cases hx : p x
      · rw [if_pos hx, ok_bind, ih]
        simp [hx]
      · rw [if_neg hx]
        simp [hx]

end Result

/-! ## Cut off at the depth budget -/

/-- `r` is `s`, unless the depth budget cut it off. -/
def WithinDepth {α : Type} (r s : Result α) : Prop :=
  r = s ∨ r = .error .tooDeep

namespace WithinDepth

variable {α β : Type} {r s t : Result α}

theorem refl (r : Result α) : WithinDepth r r := .inl rfl

theorem tooDeep (s : Result α) : WithinDepth (.error .tooDeep) s := .inr rfl

theorem trans (hrs : WithinDepth r s) (hst : WithinDepth s t) :
    WithinDepth r t := by
  rcases hrs with rfl | rfl
  · exact hst
  · exact tooDeep t

theorem bind {f g : α → Result β} (hrs : WithinDepth r s)
    (hfg : ∀ a, WithinDepth (f a) (g a)) :
    WithinDepth (r >>= f) (s >>= g) := by
  rcases hrs with rfl | rfl
  · cases r with
    | ok a => exact hfg a
    | error fault => exact refl _
  · exact tooDeep _

/-- A first part that ends as expected leaves the second part to be compared. -/
theorem bind_ok {a : α} {f : α → Result β} {u : Result β}
    (hr : WithinDepth r (.ok a)) (hf : WithinDepth (f a) u) :
    WithinDepth (r >>= f) u := by
  rcases hr with rfl | rfl
  · exact hf
  · exact tooDeep u

end WithinDepth

/-! ## Faults of one kind -/

/-- Faults of the language itself are of one kind, whatever they say;
any other fault is alone. -/
def Fault.SameKind (f g : Fault) : Prop :=
  f = g ∨ (∃ cause, f = .expression cause) ∧ ∃ cause, g = .expression cause

theorem Fault.SameKind.refl (f : Fault) : f.SameKind f := .inl rfl

theorem Fault.sameKind_expression (c d : ExpressionFault) :
    (Fault.expression c).SameKind (.expression d) := .inr ⟨⟨c, rfl⟩, ⟨d, rfl⟩⟩

/-- Both succeed with related results, or both fail with faults of one kind. -/
inductive SameOutcome {α β : Type} (R : α → β → Prop) :
    Result α → Result β → Prop where
  | ok {a : α} {b : β} (h : R a b) : SameOutcome R (.ok a) (.ok b)
  | error {f g : Fault} (h : f.SameKind g) : SameOutcome R (.error f) (.error g)

theorem SameOutcome.of_eq {α : Type} {r s : Result α} (h : r = s) :
    SameOutcome (· = ·) r s := by
  subst h
  cases r with
  | ok a => exact .ok rfl
  | error f => exact .error (.refl f)

/-- The same outcome, unless the depth budget cut one of the two off. -/
def Agree {α β : Type} (R : α → β → Prop) (r : Result α) (s : Result β) :
    Prop :=
  r = .error .tooDeep ∨ s = .error .tooDeep ∨ SameOutcome R r s

namespace Agree

variable {α β γ δ : Type} {R : α → β → Prop} {S : γ → δ → Prop}

theorem ok {a : α} {b : β} (h : R a b) : Agree R (.ok a) (.ok b) :=
  .inr (.inr (.ok h))

theorem error {f g : Fault} (h : f.SameKind g) :
    Agree R (.error f) (.error g) :=
  .inr (.inr (.error h))

theorem of_eq {r s : Result α} (h : r = s) : Agree (· = ·) r s :=
  .inr (.inr (.of_eq h))

theorem bind {r : Result α} {s : Result β} {f : α → Result γ} {g : β → Result δ}
    (h : Agree R r s) (hfg : ∀ a b, r = .ok a → R a b → Agree S (f a) (g b)) :
    Agree S (r >>= f) (s >>= g) := by
  rcases h with rfl | rfl | h
  · exact .inl rfl
  · exact .inr (.inl rfl)
  · cases h with
    | ok hab => exact hfg _ _ rfl hab
    | error hk => exact error hk

/-- Two computations that the budget may cut off from the same one. -/
theorem of_withinDepth {r s t : Result α} (hr : WithinDepth r t)
    (hs : WithinDepth s t) :
    Agree (· = ·) r s := by
  rcases hr with rfl | hr
  · rcases hs with rfl | hs
    · exact of_eq rfl
    · exact .inr (.inl hs)
  · exact .inl hr

/-- Where the budget cuts neither off, the outcomes are the same. -/
theorem sameOutcome {r : Result α} {s : Result β} (h : Agree R r s)
    (hr : r ≠ .error .tooDeep) (hs : s ≠ .error .tooDeep) :
    SameOutcome R r s :=
  (h.resolve_left hr).resolve_left hs

end Agree

/-! ## Where faults come from -/

/-- Whatever a computation fails with is one of the faults that `P` describes. -/
def FailsOnly {α : Type} (P : Fault → Prop) (r : Result α) : Prop :=
  ∀ ⦃fault⦄, r = .error fault → P fault

namespace FailsOnly

variable {α β : Type} {P Q : Fault → Prop} {r : Result α}

theorem ok (P : Fault → Prop) (a : α) : FailsOnly P (.ok a) := by
  rintro fault ⟨⟩

theorem error {fault : Fault} (h : P fault) :
    FailsOnly P (.error fault : Result α) := by
  rintro other ⟨⟩
  exact h

theorem mono (h : FailsOnly P r) (hPQ : ∀ ⦃fault⦄, P fault → Q fault) :
    FailsOnly Q r := fun _ hr => hPQ (h hr)

theorem bind {f : α → Result β} (hr : FailsOnly P r)
    (hf : ∀ a, r = .ok a → FailsOnly P (f a)) : FailsOnly P (r >>= f) := by
  intro fault h
  rcases Result.bind_eq_error.1 h with h | ⟨a, ha, h⟩
  · exact hr h
  · exact hf a ha h

theorem map {f : α → β} (hr : FailsOnly P r) : FailsOnly P (r.map f) := by
  intro fault h
  cases r with
  | ok a => cases h
  | error other =>
      cases h
      exact hr rfl

theorem mapM {f : α → Result β} {items : List α} (hf : ∀ x ∈ items, FailsOnly P (f x)) :
    FailsOnly P (items.mapM f) := by
  intro fault h
  obtain ⟨before, x, after, rfl, -, hx⟩ := Result.exists_first_of_mapM_eq_error h
  exact hf x (List.mem_append_right before List.mem_cons_self) hx

theorem filterM {p : α → Result Bool} {items : List α} (hp : ∀ x ∈ items, FailsOnly P (p x)) :
    FailsOnly P (items.filterM p) := by
  have haux (kept : List α) : FailsOnly P (items.filterAuxM p kept) := by
    induction items generalizing kept with
    | nil => exact .ok _ _
    | cons x rest ih =>
        obtain ⟨hx, hrest⟩ := List.forall_mem_cons.1 hp
        exact hx.bind fun passes _ => ih hrest _
  exact (haux []).bind fun kept _ => .ok _ _

end FailsOnly

/-! ## What results are like -/

/-- Whatever a computation ends well with satisfies `P`. -/
def Yields {α : Type} (P : α → Prop) (r : Result α) : Prop :=
  ∀ ⦃a⦄, r = .ok a → P a

namespace Yields

variable {α β : Type} {P : β → Prop} {r : Result α}

@[simp] theorem ok_iff {b : β} : Yields P (.ok b) ↔ P b := by
  constructor
  · intro h
    exact h rfl
  · rintro h _ ⟨⟩
    exact h

@[simp] theorem pure_iff {b : β} : Yields P (pure b) ↔ P b := ok_iff

@[simp] theorem error_iff {fault : Fault} : Yields P (.error fault) ↔ True := by
  simp [Yields]

@[simp] theorem throw_iff {fault : Fault} : Yields P (throw fault) ↔ True := error_iff

@[simp] theorem bind_iff {f : α → Result β} :
    Yields P (r >>= f) ↔ ∀ a, r = .ok a → Yields P (f a) := by
  cases r <;> simp

@[simp] theorem map_iff {f : α → β} :
    Yields P (f <$> r) ↔ ∀ a, r = .ok a → P (f a) := by
  cases r with
  | ok a => exact ok_iff.trans (by simp)
  | error fault => exact error_iff.trans (by simp)

@[simp] theorem ite_iff {condition : Prop} [Decidable condition] {r s : Result β} :
    Yields P (if condition then r else s) ↔
      (condition → Yields P r) ∧ (¬condition → Yields P s) := by
  by_cases h : condition <;> simp [h]

/-- The results for some items are like that if each of the computations yields so. -/
theorem mapM {f : α → Result β} {items : List α} (hf : ∀ x ∈ items, Yields P (f x)) :
    Yields (fun results => ∀ b ∈ results, P b) (items.mapM f) := by
  intro results h b hb
  have hmem : (.ok b : Result β) ∈ items.map f := by
    rw [Result.mapM_eq_ok_iff.1 h]
    exact List.mem_map_of_mem hb
  obtain ⟨x, hx, hfx⟩ := List.mem_map.1 hmem
  exact hf x hx hfx

/-- The same where a computation may leave an item out. -/
theorem filterMapM {f : α → Result (Option β)} {items : List α}
    (hf : ∀ x ∈ items, Yields (fun found => ∀ b, found = some b → P b) (f x)) :
    Yields (fun results => ∀ b ∈ results, P b) (items.filterMapM f) := by
  induction items with
  | nil => simp
  | cons x rest ih =>
      obtain ⟨hx, hrest⟩ := List.forall_mem_cons.1 hf
      rw [List.filterMapM_cons]
      intro results h
      obtain ⟨found, hfound, h⟩ := Result.bind_eq_ok.1 h
      cases found with
      | none => exact ih hrest h
      | some b =>
          obtain ⟨more, hmore, ⟨⟩⟩ := Result.bind_eq_ok.1 h
          exact List.forall_mem_cons.2 ⟨hx hfound b rfl, ih hrest hmore⟩

/-- A filter keeps items only, and those that pass. -/
theorem filterM {p : α → Result Bool} {items : List α} :
    Yields (fun kept => ∀ x ∈ kept, x ∈ items ∧ p x = .ok true) (items.filterM p) := by
  have haux (kept result : List α) (h : items.filterAuxM p kept = .ok result) :
      ∀ x ∈ result, x ∈ kept ∨ x ∈ items ∧ p x = .ok true := by
    induction items generalizing kept with
    | nil =>
        cases h
        exact fun x hx => .inl hx
    | cons first rest ih =>
        obtain ⟨passes, hfirst, h⟩ := Result.bind_eq_ok.1 h
        intro x hx
        rcases ih _ h x hx with hkept | ⟨hrest, hpasses⟩
        · cases passes with
          | false => exact .inl hkept
          | true =>
              rcases List.mem_cons.1 hkept with rfl | hkept
              · exact .inr ⟨List.mem_cons_self, hfirst⟩
              · exact .inl hkept
        · exact .inr ⟨List.mem_cons_of_mem first hrest, hpasses⟩
  rw [List.filterM, bind_iff]
  intro result hresult
  refine pure_iff.2 fun x hx => ?_
  rcases haux [] result hresult x (List.mem_reverse.1 hx) with hnone | hitems
  · cases hnone
  · exact hitems

end Yields

/-! ## Computations that end well -/

/-- A computation ends well. -/
def Returns {α : Type} (r : Result α) : Prop := ∃ a, r = .ok a

namespace Returns

variable {α β : Type} {r : Result α}

@[simp] theorem ok_iff {a : α} : Returns (.ok a) ↔ True := iff_true_intro ⟨a, rfl⟩

@[simp] theorem pure_iff {a : α} : Returns (pure a : Result α) ↔ True := ok_iff

@[simp] theorem bind_iff {f : α → Result β} :
    Returns (r >>= f) ↔ Returns r ∧ ∀ a, r = .ok a → Returns (f a) := by
  cases r with
  | ok a => simp
  | error fault =>
      refine iff_of_false ?_ ?_
      · rintro ⟨b, hb⟩
        cases hb
      · rintro ⟨⟨a, ha⟩, -⟩
        cases ha

@[simp] theorem map_iff {f : α → β} : Returns (f <$> r) ↔ Returns r := by
  cases r with
  | ok a => exact iff_of_true ⟨f a, rfl⟩ ⟨a, rfl⟩
  | error fault => exact iff_of_false nofun nofun

@[simp] theorem ite_iff {condition : Prop} [Decidable condition] {s : Result α} :
    Returns (if condition then r else s) ↔
      (condition → Returns r) ∧ (¬condition → Returns s) := by
  by_cases h : condition <;> simp [h]

theorem guard_iff {p : Prop} [Decidable p] {a : α} {fault : Fault} :
    Returns (if p then .ok a else .error fault : Result α) ↔ p := by
  simp only [Returns, Result.guard_eq_ok_iff, exists_eq_right]

/-- A computation on fixed data can be run to see how it ends. -/
theorem of_isOk (h : r.isOk) : Returns r := by
  cases r with
  | ok a => exact ⟨a, rfl⟩
  | error fault => cases h

theorem mapM_iff {f : α → Result β} {items : List α} :
    Returns (items.mapM f) ↔ ∀ x ∈ items, Returns (f x) := Result.exists_mapM_eq_ok_iff

theorem mapM {f : α → Result β} {items : List α} (hf : ∀ x ∈ items, Returns (f x)) :
    Returns (items.mapM f) := mapM_iff.2 hf

theorem filterMapM {f : α → Result (Option β)} {items : List α}
    (hf : ∀ x ∈ items, Returns (f x)) : Returns (items.filterMapM f) := by
  induction items with
  | nil => exact ⟨[], rfl⟩
  | cons x rest ih =>
      obtain ⟨⟨found, hx⟩, hrest⟩ := List.forall_mem_cons.1 hf
      obtain ⟨more, hmore⟩ := ih hrest
      rw [List.filterMapM_cons, hx, Result.ok_bind]
      cases found with
      | none => exact ⟨more, hmore⟩
      | some y => exact ⟨y :: more, by rw [hmore]; rfl⟩

theorem filterM {p : α → Result Bool} {items : List α} (hp : ∀ x ∈ items, Returns (p x)) :
    Returns (items.filterM p) := by
  refine ⟨_, Result.filterM_eq_ok_filter (q := fun x => (p x).toOption.getD false) ?_⟩
  intro x hx
  obtain ⟨passes, hpasses⟩ := hp x hx
  rw [hpasses]
  rfl

end Returns

/-- A computation that ends well fails with nothing. -/
theorem FailsOnly.of_returns {α : Type} {P : Fault → Prop} {r : Result α} (h : Returns r) :
    FailsOnly P r := by
  obtain ⟨a, rfl⟩ := h
  exact .ok P a

theorem FailsOnly.returns {α : Type} {r : Result α} (h : FailsOnly (fun _ => False) r) :
    Returns r := by
  cases r with
  | ok a => exact ⟨a, rfl⟩
  | error fault => exact (h rfl).elim

/-! ## Computations that end alike -/

/-- Where both computations end well, their results are related by `R`. -/
def Alike {α β : Type} (R : α → β → Prop) (r : Result α) (s : Result β) : Prop :=
  ∀ ⦃a b⦄, r = .ok a → s = .ok b → R a b

namespace Alike

variable {α β γ δ : Type} {R : α → β → Prop} {S : γ → δ → Prop}

theorem pure {a : α} {b : β} (h : R a b) : Alike R (pure a) (pure b) := by
  intro _ _ ha hb
  obtain rfl := Except.ok.inj ha
  obtain rfl := Except.ok.inj hb
  exact h

theorem bind {r : Result α} {s : Result β} {f : α → Result γ} {g : β → Result δ}
    (h : Alike R r s) (hfg : ∀ a b, R a b → Alike S (f a) (g b)) :
    Alike S (r >>= f) (s >>= g) := by
  intro c d hc hd
  obtain ⟨a, ha, hc⟩ := Result.bind_eq_ok.1 hc
  obtain ⟨b, hb, hd⟩ := Result.bind_eq_ok.1 hd
  exact hfg a b (h ha hb) hc hd

/-- Both begin with one computation. -/
theorem bind_left {r : Result α} {f : α → Result γ} {g : α → Result δ}
    (hfg : ∀ a, Alike S (f a) (g a)) : Alike S (r >>= f) (r >>= g) := by
  intro c d hc hd
  obtain ⟨a, ha, hc⟩ := Result.bind_eq_ok.1 hc
  obtain ⟨b, hb, hd⟩ := Result.bind_eq_ok.1 hd
  obtain rfl := Except.ok.inj (ha.symm.trans hb)
  exact hfg a hc hd

/-- Both begin with two computations, each in its own order. -/
theorem bind_swap {r : Result α} {s : Result β} {f : α → β → Result γ} {g : α → β → Result δ}
    (hfg : ∀ a b, Alike S (f a b) (g a b)) :
    Alike S (r >>= fun a => s >>= fun b => f a b) (s >>= fun b => r >>= fun a => g a b) := by
  intro c d hc hd
  obtain ⟨a, ha, hc⟩ := Result.bind_eq_ok.1 hc
  obtain ⟨b, hb, hc⟩ := Result.bind_eq_ok.1 hc
  obtain ⟨b', hb', hd⟩ := Result.bind_eq_ok.1 hd
  obtain ⟨a', ha', hd⟩ := Result.bind_eq_ok.1 hd
  obtain rfl := Except.ok.inj (ha.symm.trans ha')
  obtain rfl := Except.ok.inj (hb.symm.trans hb')
  exact hfg a b hc hd

/-- Both begin with computations whose results do not matter. -/
theorem bind_any {r : Result α} {s : Result β} {f : α → Result γ} {g : β → Result δ}
    (hfg : ∀ a b, Alike S (f a) (g b)) : Alike S (r >>= f) (s >>= g) := by
  have hany : Alike (fun _ _ => True) r s := fun _ _ _ _ => trivial
  exact hany.bind fun a b _ => hfg a b

/-- Both make one choice. -/
theorem ite {condition : Prop} [Decidable condition] {r r' : Result α} {s s' : Result β}
    (h : condition → Alike R r s) (h' : ¬condition → Alike R r' s') :
    Alike R (if condition then r else r') (if condition then s else s') := by
  by_cases hc : condition
  · rw [if_pos hc, if_pos hc]
    exact h hc
  · rw [if_neg hc, if_neg hc]
    exact h' hc

end Alike

end InvoiceReadiness
