import InvoiceReadiness.Proofs.Custom.Findings
import InvoiceReadiness.Proofs.Dataset.Flagged
import InvoiceReadiness.Proofs.Expression.Faults

/-!
# Rules that judge records one by one

All rules but the one about duplicates look at one record at a time. A check with such a rule
says at most one thing about a record, and whether it does depends on the check and that record
alone: nothing is carried over from the records before it. So the findings about some records
followed by others are the findings about the first ones followed by those about the others, as
long as the records are looked up in the same indices.

What holds of a run over one record then holds of every run. In particular the condition decides
about each record on its own: one on which it does not hold is passed over, and one on which it
cannot be evaluated is treated as if there were no condition.

## Main results

* `Check.exists_verdict` — a run is a collection of what there is to say about each record.
* `Check.run_reports_alone` — what is flagged depends on a record alone.
* `Check.run_is_local` — runs over several records, and the part of the condition.
-/

namespace InvoiceReadiness

/-! ## The dataset with other records -/

/-- The dataset with other records of one kind. What is looked up in it stays as it is. -/
def Dataset.withRecords (data : Dataset) (kind : RecordKind) (records : List Record) : Dataset :=
  match kind with
  | .buyers => { data with buyers := records }
  | .headers => { data with headers := records }
  | .lines => { data with lines := records }

@[simp] theorem Dataset.records_withRecords (data : Dataset) (kind : RecordKind)
    (records : List Record) : (data.withRecords kind records).records kind = records := by
  cases kind <;> rfl

@[simp] theorem Dataset.withRecords_records (data : Dataset) (kind : RecordKind) :
    data.withRecords kind (data.records kind) = data := by
  cases kind <;> rfl

/-! ## The condition -/

namespace Expression

variable {text record : Value}

/-- The truth of a condition decides. -/
theorem condition_of_truth {b : Bool} (h : evaluate text record >>= Scalar.isTruthy = .ok b) :
    condition text record = .ok b := by
  by_cases hkind : ∃ s, text = .text s
  · obtain ⟨s, rfl⟩ := hkind
    have htruth : truth s record = .ok b := h
    rw [condition_text, htruth]
  · obtain ⟨fault, hfault, -⟩ := ofValue_of_not_text fun s hs => hkind ⟨s, hs⟩
    rw [evaluate, hfault] at h
    cases h

/-- A condition that cannot be evaluated holds, unless it fails. -/
theorem condition_of_fault {fault : Fault} {b : Bool}
    (h : evaluate text record >>= Scalar.isTruthy = .error fault)
    (hcondition : condition text record = .ok b) : b = true := by
  unfold condition at hcondition
  rw [h] at hcondition
  split at hcondition
  · exact (Except.ok.inj hcondition).symm
  obtain ⟨s, -, hcondition⟩ := Result.bind_eq_ok.1 hcondition
  split at hcondition
  · exact (Except.ok.inj hcondition).symm
  dsimp only at hcondition
  split at hcondition
  · exact (Except.ok.inj hcondition).symm
  · cases hcondition

theorem condition_null (record : Value) : condition .null record = .ok true := rfl

end Expression

/-! ## One by one -/

section OneByOne

variable {α : Type} {test : Record → Result Bool} {f : Record → Result (Option α)}
  {records : List Record} {found : List α}

theorem collect_filter (p : Record → Bool) (f : Record → Result (Option α))
    (records : List Record) :
    collect (records.filter p) f = collect records fun r => if p r then f r else .ok none := by
  induction records with
  | nil => rfl
  | cons r rest ih =>
      by_cases hp : p r
      · rw [List.filter_cons_of_pos hp, collect_cons, collect_cons, if_pos hp, ih]
      · rw [List.filter_cons_of_neg hp, collect_cons, if_neg hp, ih]
        cases collect rest fun r => if p r then f r else .ok none <;> rfl

theorem collect_none (records : List Record) :
    collect records (fun _ => .ok (none : Option α)) = .ok [] := by
  induction records with
  | nil => rfl
  | cons r rest ih => rw [collect_cons, ih]; rfl

/-- What there is to say about a record that is looked at. -/
def guarded (test : Record → Result Bool) (f : Record → Result (Option α)) (r : Record) :
    Result (Option α) := do
  if ← test r then f r else return none

/-- The records to be looked at may be selected first, or one by one. -/
theorem filterM_collect_eq_ok_iff :
    (do collect (← records.filterM test) f) = .ok found ↔
      collect records (guarded test f) = .ok found := by
  have hsame {p : Record → Bool} (hp : ∀ r ∈ records, test r = .ok (p r)) :
      collect (records.filter p) f = collect records (guarded test f) := by
    rw [collect_filter]
    apply collect_congr
    intro r hr
    rw [guarded, hp r hr]
    rfl
  constructor
  · intro h
    obtain ⟨kept, hkept, h⟩ := Result.bind_eq_ok.1 h
    obtain ⟨p, hp, rfl⟩ := Result.exists_filter_of_filterM hkept
    rw [← hsame hp]
    exact h
  · intro h
    have hp : ∀ r ∈ records, test r = .ok ((test r).toOption.getD false) := by
      intro r hr
      obtain ⟨said, hsaid, -⟩ := exists_said_of_collect h hr
      obtain ⟨passes, hpasses, -⟩ := Result.bind_eq_ok.1 hsaid
      rw [hpasses]
      rfl
    rw [Result.filterM_eq_ok_filter hp, Result.ok_bind, hsame hp]
    exact h

end OneByOne

namespace Custom

/-- A rule that judges one record at a time. -/
def Rule.IsLocal (rule : Rule) : Prop := ∀ fields, rule ≠ .duplicate fields

namespace Check

variable {check : Check} {data : Dataset} {r : Record} {records : List Record}
  {found : List Finding}

/-- What a rule finds among the records that the check looks at. -/
def runRule (check : Check) (data : Dataset) (records : List Record) : Result (List Finding) :=
  match check.rule with
  | .missing field => check.runMissing data field records
  | .duplicate fields => check.runDuplicate data fields records
  | .math left right operator tolerance =>
    check.runMath data left right operator tolerance records
  | .regex field pattern => check.runRegex data field pattern records
  | .formula text => check.runFormula data text records

theorem run_eq_runRule (habsent : check.rule.absent = []) (data : Dataset) :
    check.run data = (do check.runRule data (← check.selected data)) := by
  rw [run, habsent, if_neg (by simp)]
  rfl

/-- The findings about the records of a list, in the place of those of the scope. -/
def runOver (check : Check) (data : Dataset) (records : List Record) : Result (List Finding) :=
  check.run (data.withRecords check.scope.kind records)

theorem runOver_records (check : Check) (data : Dataset) :
    check.runOver data (data.records check.scope.kind) = check.run data := by
  rw [runOver, Dataset.withRecords_records]

/-- A rule looks nothing up but in the indices. -/
theorem runRule_withRecords (check : Check) (data : Dataset) (kind : RecordKind)
    (records : List Record) :
    check.runRule (data.withRecords kind records) = check.runRule data := by
  cases kind <;> rfl

theorem exists_collect_runRegex {source : String} {pattern : Pattern}
    (hpattern : Pattern.ofText source = .ok pattern) (check : Check) (data : Dataset)
    (field : Value) : ∃ f : Record → Result (Option Finding), ∀ records,
      check.runRegex data field (.text source) records = collect records f := by
  simp only [runRegex, hpattern]
  exact ⟨_, fun _ => rfl⟩

/-- A rule that judges one record at a time says something or nothing about each, unless it
cannot start. -/
theorem exists_collect_runRule (hlocal : check.rule.IsLocal) (data : Dataset) :
    ∃ (start : Result Unit) (f : Record → Result (Option Finding)), ∀ records,
      check.runRule data records = start >>= fun _ => collect records f := by
  cases hrule : check.rule with
  | missing field => exact ⟨.ok (), _, fun records => by rw [runRule, hrule]; rfl⟩
  | duplicate fields => exact absurd hrule (hlocal fields)
  | math left right operator tolerance =>
      exact ⟨.ok (), _, fun records => by rw [runRule, hrule]; rfl⟩
  | regex field pattern =>
      cases pattern with
      | text source =>
          cases hpattern : Pattern.ofText source with
          | ok pattern =>
              obtain ⟨f, hf⟩ := exists_collect_runRegex hpattern check data field
              exact ⟨.ok (), f, fun records => by rw [runRule, hrule]; exact hf records⟩
          | error fault =>
              cases fault with
              | invalid =>
                  refine ⟨.ok (), fun _ => .ok none, fun records => ?_⟩
                  rw [runRule, hrule]
                  simp only [runRegex, hpattern, Result.ok_bind, collect_none]
                  rfl
              | fault cause =>
                  refine ⟨.error cause, fun _ => .ok none, fun records => ?_⟩
                  rw [runRule, hrule]
                  simp only [runRegex, hpattern]
                  rfl
      | _ =>
          refine ⟨.error .operandKind, fun _ => .ok none, fun records => ?_⟩
          rw [runRule, hrule]
          rfl
  | formula text => exact ⟨.ok (), _, fun records => by rw [runRule, hrule]; rfl⟩

/-- A run is a collection of what there is to say about each record, if it can start. -/
theorem exists_verdict (hlocal : check.rule.IsLocal) (data : Dataset) :
    ∃ (ready : Prop) (verdict : Record → Result (Option Finding)), ∀ records found,
      check.runOver data records = .ok found ↔ ready ∧ collect records verdict = .ok found := by
  by_cases habsent : check.rule.absent = []
  · obtain ⟨start, f, hf⟩ := exists_collect_runRule hlocal data
    have hrun (records : List Record) : check.runOver data records = (do
        let kept ← records.filterM fun r => Expression.condition check.condition r.value
        let _ ← start
        collect kept f) := by
      rw [runOver, run_eq_runRule habsent, runRule_withRecords, selected,
        Dataset.records_withRecords]
      exact bind_congr fun kept => hf kept
    cases start with
    | ok _ =>
        refine ⟨True, guarded (fun r => Expression.condition check.condition r.value) f, ?_⟩
        intro records found
        rw [hrun, true_and]
        exact filterM_collect_eq_ok_iff
    | error fault =>
        refine ⟨False, fun _ => .ok none, fun records found => ?_⟩
        rw [hrun, false_and, iff_false]
        intro h
        obtain ⟨kept, -, h⟩ := Result.bind_eq_ok.1 h
        cases h
  · refine ⟨True, fun _ => .ok none, fun records found => ?_⟩
    rw [runOver, run_of_absent check _ habsent, collect_none, true_and]

/-- A check flags a record by what is in the record. -/
def FlagsAlone (check : Check) (r : Record) : Prop :=
  check.rule.absent = [] ∧ Expression.condition check.condition r.value = .ok true ∧
    check.rule.Flags [r] r

theorem flags_withRecords_iff :
    check.Flags (data.withRecords check.scope.kind [r]) r ↔ check.FlagsAlone r := by
  have hselected (hcondition : Expression.condition check.condition r.value = .ok true) :
      check.selected (data.withRecords check.scope.kind [r]) = .ok [r] := by
    rw [selected, Dataset.records_withRecords]
    apply Result.filterM_eq_ok_self
    intro x hx
    rw [List.mem_singleton.1 hx, hcondition]
  constructor
  · intro h
    obtain ⟨-, hcondition⟩ := h.looksAt
    obtain ⟨habsent, records, hrecords, -, hflags⟩ := h
    obtain rfl := Except.ok.inj ((hselected hcondition).symm.trans hrecords)
    exact ⟨habsent, hcondition, hflags⟩
  · rintro ⟨habsent, hcondition, hflags⟩
    exact ⟨habsent, [r], hselected hcondition, List.mem_singleton_self r, hflags⟩

theorem reportsOn_withRecords (check : Check) (data : Dataset) (kind : RecordKind)
    (records : List Record) :
    check.ReportsOn (data.withRecords kind records) = check.ReportsOn data := by
  cases kind <;> rfl

/-- A run over one record reports it if it is flagged, and nothing else. -/
theorem runOver_singleton (h : check.runOver data [r] = .ok found) :
    (found ≠ [] ↔ check.FlagsAlone r) ∧ ∀ f ∈ found, check.ReportsOn data r f := by
  have hsound : ∀ f ∈ found, check.FlagsAlone r ∧ check.ReportsOn data r f := by
    intro f hf
    obtain ⟨other, hflags, hreport⟩ := check.run_sound _ h f hf
    have hmem := hflags.looksAt.1
    rw [Dataset.records_withRecords] at hmem
    obtain rfl := List.mem_singleton.1 hmem
    rw [reportsOn_withRecords] at hreport
    exact ⟨flags_withRecords_iff.1 hflags, hreport⟩
  refine ⟨⟨?_, ?_⟩, fun f hf => (hsound f hf).2⟩
  · intro hne
    obtain ⟨f, hf⟩ := List.exists_mem_of_ne_nil found hne
    exact (hsound f hf).1
  · intro hflags
    obtain ⟨f, hf, -⟩ := run_complete h (flags_withRecords_iff.2 hflags)
    exact List.ne_nil_of_mem hf

/-- A check reports the records that it flags by what is in them, one by one. -/
theorem run_reports_alone (hlocal : check.rule.IsLocal) :
    Yields (ReportsEach (data.records check.scope.kind) check.FlagsAlone (check.ReportsOn data))
      (check.run data) := by
  obtain ⟨ready, verdict, hverdict⟩ := exists_verdict hlocal data
  intro found h
  rw [← runOver_records, hverdict] at h
  obtain ⟨hready, h⟩ := h
  refine reportsEach_of_collect (fun r _ => ?_) h
  intro said hsaid
  have hsingle : check.runOver data [r] = .ok said.toList := by
    rw [hverdict, collect_cons, hsaid]
    refine ⟨hready, congrArg Except.ok ?_⟩
    exact List.append_nil _
  obtain ⟨hiff, hreports⟩ := runOver_singleton hsingle
  cases said with
  | none =>
      rw [says_none]
      exact fun hflags => hiff.2 hflags rfl
  | some f =>
      rw [says_some]
      exact ⟨hiff.1 (List.cons_ne_nil f []), hreports f (List.mem_singleton_self f)⟩

/-- A run that has its parameters and returns has judged the condition on all records. -/
theorem exists_selected (habsent : check.rule.absent = []) (hrun : check.run data = .ok found) :
    ∃ records, check.selected data = .ok records ∧
      ∀ r, r ∈ records ↔ check.LooksAt data r := by
  rw [run, habsent] at hrun
  obtain ⟨records, hrecords, -⟩ := Result.bind_eq_ok.1 hrun
  refine ⟨records, hrecords, fun r => ?_⟩
  obtain ⟨passes, hpasses, rfl⟩ := Result.exists_filter_of_filterM hrecords
  rw [List.mem_filter]
  refine and_congr_right fun hr => ?_
  rw [hpasses r hr, Except.ok.injEq]

/-- A rule that judges one record at a time flags it among any others. -/
theorem flags_of_isLocal {rule : Rule} (hlocal : rule.IsLocal) {others : List Record}
    (h : rule.Flags records r) : rule.Flags others r := by
  cases h with
  | missing hv hblank => exact .missing hv hblank
  | duplicate => exact absurd rfl (hlocal _)
  | math hleft hright hfails => exact .math hleft hright hfails
  | regex hpattern hv hfilled htext hfails => exact .regex hpattern hv hfilled htext hfails
  | formula hfails => exact .formula hfails

/-- In a run that ends well a record is flagged by what is in it. -/
theorem flags_iff_flagsAlone (hlocal : check.rule.IsLocal) (hrun : check.run data = .ok found)
    (hr : r ∈ data.records check.scope.kind) : check.Flags data r ↔ check.FlagsAlone r := by
  constructor
  · intro h
    obtain ⟨-, hcondition⟩ := h.looksAt
    obtain ⟨habsent, records, -, -, hflags⟩ := h
    exact ⟨habsent, hcondition, flags_of_isLocal hlocal hflags⟩
  · rintro ⟨habsent, hcondition, hflags⟩
    obtain ⟨records, hselected, hmem⟩ := exists_selected habsent hrun
    exact ⟨habsent, records, hselected, (hmem r).2 ⟨hr, hcondition⟩,
      flags_of_isLocal hlocal hflags⟩

/-- The findings about the first records come first, and those about the others after them. -/
theorem runOver_append_iff (hlocal : check.rule.IsLocal) {first last : List Record} :
    check.runOver data (first ++ last) = .ok found ↔
      ∃ here more, check.runOver data first = .ok here ∧
        check.runOver data last = .ok more ∧ found = here ++ more := by
  obtain ⟨ready, verdict, hverdict⟩ := exists_verdict hlocal data
  simp only [hverdict, collect_append]
  constructor
  · rintro ⟨hready, h⟩
    obtain ⟨here, hhere, h⟩ := Result.bind_eq_ok.1 h
    obtain ⟨more, hmore, h⟩ := Result.bind_eq_ok.1 h
    exact ⟨here, more, ⟨hready, hhere⟩, ⟨hready, hmore⟩, (Except.ok.inj h).symm⟩
  · rintro ⟨here, more, ⟨hready, hhere⟩, ⟨-, hmore⟩, rfl⟩
    rw [hhere, hmore]
    exact ⟨hready, rfl⟩

/-- The check without its condition. -/
def unconditional (check : Check) : Check := { check with condition := .null }

/-- A record on which the condition cannot be evaluated is treated as if there were none. -/
theorem runOver_unconditional {fault : Fault}
    (hfault : Expression.evaluate check.condition r.value >>= Scalar.isTruthy = .error fault)
    (h : check.runOver data [r] = .ok found) :
    check.unconditional.runOver data [r] = .ok found := by
  by_cases habsent : check.rule.absent = []
  · have hrun (check : Check) (habsent : check.rule.absent = []) :
        check.runOver data [r] = (do
          check.runRule data (← [r].filterM fun r =>
            Expression.condition check.condition r.value)) := by
      rw [runOver, run_eq_runRule habsent, runRule_withRecords, selected,
        Dataset.records_withRecords]
    have hkept {check : Check}
        (hcondition : Expression.condition check.condition r.value = .ok true) :
        ([r].filterM fun r => Expression.condition check.condition r.value) =
          (.ok [r] : Result (List Record)) := by
      apply Result.filterM_eq_ok_self
      intro x hx
      rw [List.mem_singleton.1 hx, hcondition]
    have hcondition : Expression.condition check.condition r.value = .ok true := by
      rw [hrun check habsent] at h
      obtain ⟨kept, hfilter, -⟩ := Result.bind_eq_ok.1 h
      obtain ⟨p, hp, -⟩ := Result.exists_filter_of_filterM hfilter
      have hr := hp r (List.mem_singleton_self r)
      rw [hr, Expression.condition_of_fault hfault hr]
    rw [hrun check habsent, hkept hcondition] at h
    rw [hrun check.unconditional habsent, hkept (Expression.condition_null r.value)]
    exact h
  · have hnil : check.runOver data [r] = .ok [] := run_of_absent check _ habsent
    obtain rfl := Except.ok.inj (hnil.symm.trans h)
    exact run_of_absent check.unconditional _ habsent

/-- **Rules that judge one record at a time are local.** A run that ends well reports the records
that are flagged by what is in them (`FlagsAlone`), each of them once and in their order. A run
over some records and then others ends well if and only if the runs over both do, and its
findings are theirs, one after the other. So it is enough to know the runs over one record: there
is a finding if and only if the record is flagged; there is none if the condition comes to
something that is not true; and if the condition cannot be evaluated, the run is the one without
it. -/
theorem run_is_local (hlocal : check.rule.IsLocal) (data : Dataset) :
    check.runOver data (data.records check.scope.kind) = check.run data ∧
    (∀ found, check.run data = .ok found →
      ReportsEach (data.records check.scope.kind) check.FlagsAlone (check.ReportsOn data) found) ∧
    (∀ first last found, check.runOver data (first ++ last) = .ok found ↔
      ∃ here more, check.runOver data first = .ok here ∧
        check.runOver data last = .ok more ∧ found = here ++ more) ∧
    ∀ r found, check.runOver data [r] = .ok found →
      (found ≠ [] ↔ check.FlagsAlone r) ∧
      (Expression.evaluate check.condition r.value >>= Scalar.isTruthy = .ok false →
        found = []) ∧
      ∀ fault, Expression.evaluate check.condition r.value >>= Scalar.isTruthy = .error fault →
        check.unconditional.runOver data [r] = .ok found := by
  refine ⟨runOver_records check data, fun found h => run_reports_alone hlocal h,
    fun first last found => runOver_append_iff hlocal, fun r found h => ?_⟩
  have hflags := (runOver_singleton h).1
  refine ⟨hflags, fun hfalse => ?_, fun fault hfault => runOver_unconditional hfault h⟩
  by_contra hne
  obtain ⟨-, hcondition, -⟩ := hflags.1 hne
  rw [Expression.condition_of_truth hfalse] at hcondition
  cases hcondition

/-- Of three headers without a registration number the first passes the condition, the second
does not, and on the third it cannot be evaluated. -/
theorem run_is_local_missing :
    let header (total : Value) : Record := ⟨[("total", total)]⟩
    let headers := [header (.ofInt 200), header (.ofInt 50)]
    let unread := header (.list [])
    let check : Check := {
      id := .null, name := .text "Sellers", description := .null, scope := .header
      rule := .missing (.text "seller_trn"), severity := .text "High"
      template := .text "no seller", condition := .text "\x7btotal\x7d > 100", isActive := true }
    check.rule.IsLocal ∧
      ∃ data found here more, Dataset.ofRecords [] (headers ++ [unread]) [] = .ok data ∧
        check.run data = .ok found ∧ check.runOver data headers = .ok here ∧
        check.runOver data [unread] = .ok more ∧ found = here ++ more ∧
        (here.length, more.length) = (1, 1) ∧
        check.FlagsAlone (header (.ofInt 200)) ∧ ¬check.FlagsAlone (header (.ofInt 50)) ∧
        check.unconditional.runOver data [unread] = .ok more := by
  intro header headers unread check
  have hlocal : check.rule.IsLocal := fun fields => Rule.noConfusion
  have hruns : (do
      let data ← Dataset.ofRecords [] (headers ++ [unread]) []
      let found ← check.run data
      let here ← check.runOver data headers
      let more ← check.runOver data [unread]
      return (here.length, more.length) : Result _) = .ok (1, 1) := by
    decide +kernel
  obtain ⟨data, hdata, h⟩ := Result.bind_eq_ok.1 hruns
  obtain ⟨found, hfound, h⟩ := Result.bind_eq_ok.1 h
  obtain ⟨here, hhere, h⟩ := Result.bind_eq_ok.1 h
  obtain ⟨more, hmore, h⟩ := Result.bind_eq_ok.1 h
  obtain ⟨hrun, -, happend, hsingle⟩ := run_is_local hlocal data
  have hheaders : data.records check.scope.kind = headers ++ [unread] :=
    (Dataset.records_of_ofRecords hdata).2.1
  have hwhole := hfound
  rw [← hrun, hheaders] at hwhole
  obtain ⟨here', more', hhere', hmore', hsplit⟩ := (happend _ _ _).1 hwhole
  obtain rfl := Except.ok.inj (hhere.symm.trans hhere')
  obtain rfl := Except.ok.inj (hmore.symm.trans hmore')
  -- Of the first two headers each has a run of its own.
  obtain ⟨first, last, hfirst, hlast, hboth⟩ :=
    (happend [header (.ofInt 200)] [header (.ofInt 50)] here).1 hhere
  obtain ⟨hflags, -, -⟩ := hsingle _ _ hfirst
  obtain ⟨hpasses, hnone, -⟩ := hsingle _ _ hlast
  obtain rfl := hnone (by decide +kernel)
  have hone : first ≠ [] := by
    rintro rfl
    rw [hboth] at h
    cases Except.ok.inj h
  have hfault : Expression.evaluate check.condition unread.value >>= Scalar.isTruthy =
      .error (.expression (.unsupportedField "list")) := by
    decide +kernel
  exact ⟨hlocal, data, found, here, more, hdata, hfound, hhere, hmore, hsplit, Except.ok.inj h,
    hflags.1 hone, fun hflagged => hpasses.2 hflagged rfl, (hsingle _ _ hmore).2.2 _ hfault⟩

end Check

end Custom

end InvoiceReadiness
