import InvoiceReadiness.Proofs.Checks.Duplicates
import InvoiceReadiness.Proofs.Dataset.Collecting

/-!
# What custom checks report

A custom check reports the records that it looks at and its rule flags: the rule can be
judged on them, and does not hold. It reports no others, so a record on which an amount or
a formula has no value is passed over, and so is everything by a rule without its
parameters, or with a pattern that is none.

## Main results

* `Rule.Flags` — the records that a rule flags.
* `Check.run_sound`, `Check.run_complete` — a check reports what its rule flags.
* `runAll_sound`, `runAll_complete` — so does a run, for its active checks.
-/

namespace InvoiceReadiness.Custom

/-- The records that a rule flags among those that it looks at. -/
inductive Rule.Flags (records : List Record) (r : Record) : Rule → Prop where
  | missing {field v : Value} (hv : r.resolveAt field = .ok v) (hblank : v.isBlank = .ok true) :
      Flags records r (.missing field)
  | duplicate {fields : List Value} {before after : List Record} {other : Record}
      (hsplit : records = before ++ r :: after) (hother : other ∈ before ++ after)
      (hkey : SharesKey (Check.keyParts fields) r other) : Flags records r (.duplicate fields)
  | math {left right operator : Value} {tolerance : Binary64} {x y : Number}
      (hleft : Expression.arithmetic left r.value = .ok (some x))
      (hright : Expression.arithmetic right r.value = .ok (some y))
      (hfails : Check.holds operator x y tolerance = .ok false) :
      Flags records r (.math left right operator tolerance)
  | regex {field v : Value} {source text : String} {pattern : Pattern}
      (hpattern : Pattern.ofText source = .ok pattern) (hv : r.resolveAt field = .ok v)
      (hfilled : v.isBlank = .ok false) (htext : v.plain = .ok text)
      (hfails : pattern.foundIn text = false) : Flags records r (.regex field (.text source))
  | formula {text : Value} (hfails : Expression.formula text r.value = .ok false) :
      Flags records r (.formula text)

namespace Check

/-- The check looks at a record: it is of the right kind and passes the condition. -/
def LooksAt (check : Check) (data : Dataset) (r : Record) : Prop :=
  r ∈ data.records check.scope.kind ∧ Expression.condition check.condition r.value = .ok true

/-- A finding is a report of the check about a record. -/
def ReportsOn (check : Check) (data : Dataset) (r : Record) (f : Finding) : Prop :=
  ∃ extra field expected actual, check.report data r extra field expected actual = .ok f

/-- A check that has all of its parameters flags a record that it looks at. -/
def Flags (check : Check) (data : Dataset) (r : Record) : Prop :=
  check.rule.absent = [] ∧
    ∃ records, check.selected data = .ok records ∧ r ∈ records ∧ check.rule.Flags records r

variable {check : Check} {data : Dataset} {records : List Record} {found : List Finding}
  {r : Record}

theorem flags_iff (habsent : check.rule.absent = [])
    (hselected : check.selected data = .ok records) (hr : r ∈ records) :
    check.Flags data r ↔ check.rule.Flags records r := by
  constructor
  · rintro ⟨-, others, hothers, -, hflags⟩
    rw [hselected] at hothers
    obtain rfl := Except.ok.inj hothers
    exact hflags
  · exact fun hflags => ⟨habsent, records, hselected, hr, hflags⟩

theorem reportsOn {extra : Members} {field expected actual : Value} {f : Finding}
    (h : check.report data r extra field expected actual = .ok f) : check.ReportsOn data r f :=
  ⟨extra, field, expected, actual, h⟩

/-- A report about a record has its coordinates. -/
theorem ReportsOn.coordinates {f : Finding} (h : check.ReportsOn data r f) :
    data.coordinates r = .ok f.place := by
  obtain ⟨extra, field, expected, actual, h⟩ := h
  obtain ⟨message, -, h⟩ := Result.bind_eq_ok.1 h
  obtain ⟨place, hplace, ⟨⟩⟩ := Result.bind_eq_ok.1 h
  exact hplace

theorem yields_selected :
    Yields (fun records => ∀ r ∈ records, check.LooksAt data r) (check.selected data) :=
  Yields.filterM

theorem Flags.looksAt (h : check.Flags data r) : check.LooksAt data r := by
  obtain ⟨-, records, hselected, hr, -⟩ := h
  exact yields_selected hselected r hr

/-! ## Whatever is reported is flagged -/

/-- A finding is a report about a flagged record. -/
def ReportsFlagged (check : Check) (data : Dataset) (records : List Record) (rule : Rule)
    (f : Finding) : Prop :=
  ∃ r ∈ records, rule.Flags records r ∧ check.ReportsOn data r f

theorem runMissing_sound (field : Value) :
    Yields (fun found => ∀ f ∈ found, check.ReportsFlagged data records (.missing field) f)
      (check.runMissing data field records) := by
  refine yields_collect fun r hr => ?_
  simp only [Yields.bind_iff, Yields.ite_iff]
  refine fun v hv blank hblank => ⟨?_, fun _ => yields_none⟩
  rintro rfl f hf
  exact yields_some ⟨r, hr, .missing hv hblank, reportsOn hf⟩

theorem runDuplicate_sound (fields : List Value) :
    Yields (fun found => ∀ f ∈ found, check.ReportsFlagged data records (.duplicate fields) f)
      (check.runDuplicate data fields records) := by
  intro found hfound f hf
  rw [runDuplicate_eq_reportGroups] at hfound
  obtain ⟨before, r, after, others, hsplit, hsub, hne, hshares, hreport⟩ :=
    reportsShared_of_mem (length_keyParts fields) hfound hf
  obtain ⟨other, hother⟩ := List.exists_mem_of_ne_nil others hne
  have hmem : other ∈ before ++ after := hsub.subset hother
  obtain ⟨names, -, hreport⟩ := Result.bind_eq_ok.1 hreport
  refine ⟨r, ?_, .duplicate hsplit hmem ((hshares other hmem).1 hother), reportsOn hreport⟩
  rw [hsplit]
  exact List.mem_append_right before List.mem_cons_self

theorem runMath_sound (left right operator : Value) (tolerance : Binary64) :
    Yields (fun found => ∀ f ∈ found,
        check.ReportsFlagged data records (.math left right operator tolerance) f)
      (check.runMath data left right operator tolerance records) := by
  refine yields_collect fun r hr => ?_
  simp only [mathFinding, Yields.bind_iff]
  intro x hleft y hright
  split
  · rename_i x y
    simp only [Yields.bind_iff, Yields.ite_iff]
    refine fun agrees hagrees => ⟨fun _ => yields_none, fun hfails f hf => ?_⟩
    rw [Bool.not_eq_true] at hfails
    exact yields_some ⟨r, hr, .math hleft hright (hfails ▸ hagrees), reportsOn hf⟩
  · exact yields_none

theorem runRegex_sound (field pattern : Value) :
    Yields (fun found => ∀ f ∈ found, check.ReportsFlagged data records (.regex field pattern) f)
      (check.runRegex data field pattern records) := by
  unfold runRegex
  split
  · rename_i source
    split
    · exact yields_nil
    · exact Yields.throw_iff.2 trivial
    · rename_i pattern hpattern
      refine yields_collect fun r hr => ?_
      simp only [Yields.bind_iff, Yields.ite_iff]
      refine fun v hv blank hblank => ⟨fun _ => yields_none, fun hfilled text htext =>
        ⟨fun _ => yields_none, fun hfails f hf => ?_⟩⟩
      rw [Bool.not_eq_true] at hfilled hfails
      exact yields_some
        ⟨r, hr, .regex hpattern hv (hfilled ▸ hblank) htext hfails, reportsOn hf⟩
  · exact Yields.throw_iff.2 trivial

theorem runFormula_sound (text : Value) :
    Yields (fun found => ∀ f ∈ found, check.ReportsFlagged data records (.formula text) f)
      (check.runFormula data text records) := by
  refine yields_collect fun r hr => ?_
  split
  · exact yields_none
  · exact Yields.throw_iff.2 trivial
  · exact yields_none
  · rename_i hfails
    rw [Yields.bind_iff]
    intro f hf
    exact yields_some ⟨r, hr, .formula hfails, reportsOn hf⟩

/-- All findings of a check are about records that it flags. -/
theorem run_sound (check : Check) (data : Dataset) :
    Yields (fun found => ∀ f ∈ found, ∃ r, check.Flags data r ∧ check.ReportsOn data r f)
      (check.run data) := by
  unfold run
  simp only [Yields.ite_iff, Yields.bind_iff]
  refine ⟨fun _ => yields_nil, fun habsent records hselected found hfound f hf => ?_⟩
  have habsent : check.rule.absent = [] := by simpa using habsent
  have hreports : check.ReportsFlagged data records check.rule f := by
    cases hrule : check.rule with
    | missing field =>
        rw [hrule] at hfound
        exact runMissing_sound field hfound f hf
    | duplicate fields =>
        rw [hrule] at hfound
        exact runDuplicate_sound fields hfound f hf
    | math left right operator tolerance =>
        rw [hrule] at hfound
        exact runMath_sound left right operator tolerance hfound f hf
    | regex field pattern =>
        rw [hrule] at hfound
        exact runRegex_sound field pattern hfound f hf
    | formula text =>
        rw [hrule] at hfound
        exact runFormula_sound text hfound f hf
  obtain ⟨r, hr, hflags, hreport⟩ := hreports
  exact ⟨r, ⟨habsent, records, hselected, hr, hflags⟩, hreport⟩

/-! ## Whatever is flagged is reported -/

theorem runMissing_complete {field : Value} (h : check.runMissing data field records = .ok found)
    (hr : r ∈ records) (hflags : (Rule.missing field).Flags records r) :
    ∃ f ∈ found, check.ReportsOn data r f := by
  obtain ⟨said, hsaid, hmem⟩ := exists_said_of_collect h hr
  cases hflags with
  | missing hv hblank =>
      rw [hv, Result.ok_bind, hblank, Result.ok_bind, if_pos rfl] at hsaid
      obtain ⟨f, hf, ⟨⟩⟩ := Result.bind_eq_ok.1 hsaid
      exact ⟨f, hmem f rfl, reportsOn hf⟩

theorem runDuplicate_complete {fields : List Value}
    (h : check.runDuplicate data fields records = .ok found)
    (hflags : (Rule.duplicate fields).Flags records r) :
    ∃ f ∈ found, check.ReportsOn data r f := by
  cases hflags with
  | duplicate hsplit hother hkey =>
      rw [runDuplicate_eq_reportGroups, hsplit] at h
      obtain ⟨count, f, hf, hreport⟩ :=
        exists_report_of_sharesKey (length_keyParts fields) h hother hkey
      obtain ⟨names, -, hreport⟩ := Result.bind_eq_ok.1 hreport
      exact ⟨f, hf, reportsOn hreport⟩

theorem runMath_complete {left right operator : Value} {tolerance : Binary64}
    (h : check.runMath data left right operator tolerance records = .ok found) (hr : r ∈ records)
    (hflags : (Rule.math left right operator tolerance).Flags records r) :
    ∃ f ∈ found, check.ReportsOn data r f := by
  obtain ⟨said, hsaid, hmem⟩ := exists_said_of_collect h hr
  cases hflags with
  | math hleft hright hfails =>
      rw [mathFinding, hleft, Result.ok_bind, hright, Result.ok_bind] at hsaid
      dsimp only at hsaid
      rw [hfails, Result.ok_bind, if_neg nofun] at hsaid
      obtain ⟨f, hf, ⟨⟩⟩ := Result.bind_eq_ok.1 hsaid
      exact ⟨f, hmem f rfl, reportsOn hf⟩

theorem runRegex_complete {field pattern : Value}
    (h : check.runRegex data field pattern records = .ok found) (hr : r ∈ records)
    (hflags : (Rule.regex field pattern).Flags records r) :
    ∃ f ∈ found, check.ReportsOn data r f := by
  cases hflags with
  | regex hpattern hv hfilled htext hfails =>
      unfold runRegex at h
      dsimp only at h
      rw [hpattern] at h
      obtain ⟨said, hsaid, hmem⟩ := exists_said_of_collect h hr
      rw [hv, Result.ok_bind, hfilled, Result.ok_bind, if_neg nofun, htext, Result.ok_bind,
        hfails, if_neg nofun] at hsaid
      obtain ⟨f, hf, ⟨⟩⟩ := Result.bind_eq_ok.1 hsaid
      exact ⟨f, hmem f rfl, reportsOn hf⟩

theorem runFormula_complete {text : Value} (h : check.runFormula data text records = .ok found)
    (hr : r ∈ records) (hflags : (Rule.formula text).Flags records r) :
    ∃ f ∈ found, check.ReportsOn data r f := by
  obtain ⟨said, hsaid, hmem⟩ := exists_said_of_collect h hr
  cases hflags with
  | formula hfails =>
      rw [hfails] at hsaid
      obtain ⟨f, hf, ⟨⟩⟩ := Result.bind_eq_ok.1 hsaid
      exact ⟨f, hmem f rfl, reportsOn hf⟩

/-- All records that a check flags are reported. -/
theorem run_complete (h : check.run data = .ok found) (hflags : check.Flags data r) :
    ∃ f ∈ found, check.ReportsOn data r f := by
  obtain ⟨habsent, records, hselected, hr, hflags⟩ := hflags
  unfold run at h
  rw [habsent, hselected] at h
  cases hrule : check.rule with
  | missing field =>
      rw [hrule] at h hflags
      exact runMissing_complete h hr hflags
  | duplicate fields =>
      rw [hrule] at h hflags
      exact runDuplicate_complete h hflags
  | math left right operator tolerance =>
      rw [hrule] at h hflags
      exact runMath_complete h hr hflags
  | regex field pattern =>
      rw [hrule] at h hflags
      exact runRegex_complete h hr hflags
  | formula text =>
      rw [hrule] at h hflags
      exact runFormula_complete h hr hflags

/-- A check that lacks parameters reports nothing. -/
theorem run_of_absent (check : Check) (data : Dataset) (h : check.rule.absent ≠ []) :
    check.run data = .ok [] := by
  have habsent : (!check.rule.absent.isEmpty) = true := by simpa using h
  rw [run, if_pos habsent]
  rfl

end Check

/-! ## Runs -/

/-- The findings of a run are about records that an active check flags. -/
theorem runAll_sound (checks : List Check) (data : Dataset) :
    Yields (fun found => ∀ f ∈ found, ∃ check ∈ checks, check.isActive ∧
      ∃ r, check.Flags data r ∧ check.ReportsOn data r f) (runAll checks data) := by
  refine yields_flatten fun check hcheck => ?_
  rw [Yields.ite_iff]
  refine ⟨fun hactive found hfound f hf => ?_, fun _ => yields_nil⟩
  exact ⟨check, hcheck, hactive, check.run_sound data hfound f hf⟩

end InvoiceReadiness.Custom
