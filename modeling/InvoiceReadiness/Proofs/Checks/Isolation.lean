import InvoiceReadiness.Proofs.Pint.Isolation
import InvoiceReadiness.Proofs.Pint.Ordinary
import Mathlib.Data.List.Forall2
import Mathlib.Data.List.Nodup

/-!
# Findings of a dataset that grows

A run keeps its checks apart and not the records of a check: a check that meets a fault
finds nothing at all. So a header that is appended to a dataset can hide what a check
finds about the others, but only by making the check fail. Apart from that it adds its own
findings to those of before, and duplicates of its number are counted once more.

An ordinary header makes no check fail. Of the others a list in the place of the buyer and
a total beyond the range of binary64 are examples.

## Main results

* `reportGroups_append` — what is reported group by group when an item is appended.
* `Baseline.run_grows`, `Baseline.duplicateNumber_recounts` — the baseline checks.
* `findings_kept` — both runs, check by check.
-/

namespace InvoiceReadiness

/-! ## Groups that grow -/

section Groups

variable {α β : Type}

theorem ofKey_append (keyed : List (String × α)) (key other : String) (x : α) :
    ofKey (keyed ++ [(key, x)]) other =
      if other = key then ofKey keyed other ++ [x] else ofKey keyed other := by
  by_cases hkey : other = key
  · subst hkey
    simp [ofKey]
  · have hne : (key == other) = false := by simpa using Ne.symm hkey
    simp [ofKey, hkey, hne]

/-- Another item leaves the groups of the other keys as they are. -/
theorem flatMap_members_append (keyed : List (String × α)) {key : String} {keys : List String}
    (hkeys : key ∉ keys) (x : α) :
    keys.flatMap (fun other => members (ofKey (keyed ++ [(key, x)]) other)) =
      keys.flatMap fun other => members (ofKey keyed other) := by
  apply List.flatMap_congr
  intro other hmem
  have hne : other ≠ key := by
    rintro rfl
    exact hkeys hmem
  rw [ofKey_append, if_neg hne]

/-- Another item changes the group of its key, and nothing else. -/
theorem repeated_append (keyed : List (String × α)) (key : String) (x : α) :
    ∃ before after, repeated keyed = before ++ members (ofKey keyed key) ++ after ∧
      repeated (keyed ++ [(key, x)]) = before ++ members (ofKey keyed key ++ [x]) ++ after := by
  have hgroup : ofKey (keyed ++ [(key, x)]) key = ofKey keyed key ++ [x] := by
    rw [ofKey_append, if_pos rfl]
  have hkeys : ((keyed ++ [(key, x)]).map Prod.fst).eraseDups =
      (keyed.map Prod.fst).eraseDups ++
        if key ∈ keyed.map Prod.fst then [] else [key] := by
    rw [List.map_append]
    exact eraseDups_concat _ key
  by_cases hmem : key ∈ keyed.map Prod.fst
  -- A known key has one place among the keys; the groups on either side are of other keys.
  · obtain ⟨first, last, hsplit⟩ := List.append_of_mem (List.mem_eraseDups.2 hmem)
    have hnodup := nodup_eraseDups (keyed.map Prod.fst)
    rw [hsplit, List.nodup_middle, List.nodup_cons, List.mem_append, not_or] at hnodup
    refine ⟨first.flatMap fun other => members (ofKey keyed other),
      last.flatMap fun other => members (ofKey keyed other), ?_, ?_⟩
    · rw [repeated, hsplit, List.flatMap_append, List.flatMap_cons, List.append_assoc]
    · rw [repeated, hkeys, if_pos hmem, List.append_nil, hsplit, List.flatMap_append,
        List.flatMap_cons, List.append_assoc, hgroup, flatMap_members_append _ hnodup.1.1,
        flatMap_members_append _ hnodup.1.2]
  -- A new key comes after all others, and its group was empty.
  · have hnone : ofKey keyed key = [] := by
      rw [ofKey, List.map_eq_nil_iff, List.filter_eq_nil_iff]
      intro item hitem hkey
      exact hmem (List.mem_map.2 ⟨item, hitem, beq_iff_eq.1 hkey⟩)
    refine ⟨repeated keyed, [], ?_, ?_⟩
    · rw [hnone]
      exact (List.append_nil _).symm.trans (List.append_nil _).symm
    · rw [repeated, hkeys, if_neg hmem, List.flatMap_append, List.append_nil,
        flatMap_members_append _ fun h => hmem (List.mem_eraseDups.1 h), List.flatMap_singleton,
        hgroup]
      rfl

/-- The members of a group are its items, each with their number. -/
theorem of_mem_members {group : List α} {item : Nat × α} (h : item ∈ members group) :
    item.2 ∈ group := by
  unfold members at h
  split at h
  · cases h
  · obtain ⟨y, hy, rfl⟩ := List.mem_map.1 h
    exact hy

/-- A member of a group is a member of the group with another item, counted once more. -/
theorem mem_members_append {group : List α} {item : Nat × α} (h : item ∈ members group)
    (x : α) : (item.1 + 1, item.2) ∈ members (group ++ [x]) := by
  unfold members at h
  split at h
  · cases h
  · obtain ⟨y, hy, rfl⟩ := List.mem_map.1 h
    have hmany : ¬(group ++ [x]).length < 2 := by
      rw [List.length_append]
      omega
    rw [members, if_neg hmany, List.length_append, List.length_singleton]
    exact List.mem_map.2 ⟨y, List.mem_append_left [x] hy, rfl⟩

/-- The items of a key have that key. -/
theorem of_mem_ofKey {key : α → Result String} {items : List α} {keyed : List (String × α)}
    (hkeyed : items.mapM (fun x => do return (← key x, x)) = .ok keyed) {text : String} {y : α}
    (hy : y ∈ ofKey keyed text) : y ∈ items ∧ key y = .ok text := by
  obtain ⟨hitems, hkeys⟩ := of_mapM_keyed hkeyed
  obtain ⟨item, hitem, rfl⟩ := List.mem_map.1 hy
  obtain ⟨hitem, hkey⟩ := List.mem_filter.1 hitem
  constructor
  · rw [← hitems]
    exact List.mem_map_of_mem hitem
  · rw [hkeys item hitem, beq_iff_eq.1 hkey]

/-- A report group by group, after an item was appended whose key can be made: the reports
about the items of its key stand in their place with another count, and there may be more
of them; all other reports are as they were. -/
theorem reportGroups_append {key : α → Result String} {report : Nat → α → Result β}
    {items : List α} {x : α} {text : String} {found : List β}
    (hreport : ∀ count y name, key y = .ok name → ∃ b, report count y = .ok b)
    (hx : key x = .ok text) (hfound : reportGroups key report items = .ok found) :
    ∃ before group group' after, found = before ++ group ++ after ∧
      reportGroups key report (items ++ [x]) = .ok (before ++ group' ++ after) ∧
      ∀ b ∈ group, ∃ y ∈ items, key y = .ok text ∧ ∃ count, report count y = .ok b ∧
        ∃ b' ∈ group', report (count + 1) y = .ok b' := by
  rw [reportGroups_eq] at hfound
  obtain ⟨keyed, hkeyed, hfound⟩ := Result.bind_eq_ok.1 hfound
  have hkeyed' : (items ++ [x]).mapM (fun x => do return (← key x, x)) =
      (.ok (keyed ++ [(text, x)]) : Result (List (String × α))) := by
    rw [List.mapM_append, hkeyed, List.mapM_cons, hx]
    rfl
  have hmembers : ∀ item ∈ members (ofKey keyed text ++ [x]),
      ∃ b, report item.1 item.2 = .ok b := by
    intro item hitem
    rcases List.mem_append.1 (of_mem_members hitem) with hmem | hmem
    · exact hreport _ _ text (of_mem_ofKey hkeyed hmem).2
    · rw [List.mem_singleton.1 hmem]
      exact hreport _ _ text hx
  obtain ⟨first, last, hbefore, hafter⟩ := repeated_append keyed text x
  obtain ⟨group', hgroup'⟩ := Result.exists_mapM_eq_ok hmembers
  rw [hbefore] at hfound
  obtain ⟨front, back, hfront, hback, rfl⟩ := Result.mapM_append_eq_ok.1 hfound
  obtain ⟨start, group, hstart, hgroup, rfl⟩ := Result.mapM_append_eq_ok.1 hfront
  refine ⟨start, group, group', back, rfl, ?_, ?_⟩
  · rw [reportGroups_eq, hkeyed', Result.ok_bind, hafter]
    have hfront' := Result.mapM_append_eq_ok.2 ⟨start, group', hstart, hgroup', rfl⟩
    exact Result.mapM_append_eq_ok.2 ⟨_, back, hfront', hback, rfl⟩
  · intro b hb
    have hsource : ∀ b ∈ group, ∃ item ∈ members (ofKey keyed text),
        report item.1 item.2 = .ok b :=
      Yields.mapM (fun item hitem _ hitemOk => ⟨item, hitem, hitemOk⟩) hgroup
    obtain ⟨item, hitem, hb⟩ := hsource b hb
    obtain ⟨hmem, hkey⟩ := of_mem_ofKey hkeyed (of_mem_members hitem)
    obtain ⟨b', hb', hnext⟩ := Result.exists_result_of_mem hgroup' (mem_members_append hitem x)
    exact ⟨item.2, hmem, hkey, item.1, hb, b', hb', hnext⟩

end Groups

/-! ## The baseline checks -/

namespace Baseline

variable {data : Dataset} {h : Record}

/-- A check other than the one for duplicates reports what it reported before, and then what
there is to say about the new header. -/
theorem run_grows {check : Check} (hcheck : check ≠ .duplicateNumber) (hadmits : data.Admits h) :
    Grows (check.run data) (check.run (data.onlyHeader h)) (check.run (data.withHeader h)) := by
  have hplace : ∀ line ∈ data.lines,
      (data.onlyHeader h).coordinates line = data.coordinates line := by
    intro line hline
    exact Dataset.coordinates_withHeader hadmits.id (hadmits.lines line hline)
  have hheader : ∀ line ∈ data.lines, (data.onlyHeader h).headerFor line = data.headerFor line := by
    intro line hline
    exact Dataset.headerFor_withHeader hadmits.id (hadmits.lines line hline)
  cases check with
  | buyerTrnMissing => exact Grows.unchanged fun _ _ => rfl
  | buyerTrnFormat => exact Grows.unchanged fun _ _ => rfl
  | duplicateNumber => exact absurd rfl hcheck
  | headerTotals => exact Grows.collect _ _ _
  | lineTotals =>
      refine Grows.unchanged fun line hline => ?_
      simp only [hplace line hline]
  | vatCalculation =>
      refine Grows.unchanged fun line hline => ?_
      simp only [hplace line hline]
  | negativeTotal =>
      refine Grows.unchanged fun line hline => ?_
      simp only [hplace line hline, hheader line hline]
  | buyerNotFound => exact Grows.collect _ _ _
  | mandatoryFields => exact Grows.flatten _ _ _
  | mixedVatRates => exact Grows.collect _ _ _

theorem exists_reportDuplicate (count : Nat) {header : Record} {key : String}
    (hkey : joinedKey keyParts header = .ok key) :
    ∃ finding, reportDuplicate count header = .ok finding := by
  obtain ⟨parts, hparts, -⟩ := Result.bind_eq_ok.1 hkey
  obtain ⟨seller, hseller, hparts⟩ := Result.bind_eq_ok.1 hparts
  obtain ⟨number, hnumber, -⟩ := Result.bind_eq_ok.1 hparts
  rw [reportDuplicate, hnumber, hseller]
  exact ⟨_, rfl⟩

/-- What the check for duplicates finds when a header is appended. The reports of headers
with its number and seller count one more, and all others stay where they were; nothing is
left if the header has no key. -/
structure RecountsDuplicates (data : Dataset) (h : Record) (before after : List Finding) :
    Prop where
  kept : Returns (Check.duplicateNumber.run (data.onlyHeader h)) →
    ∃ first group group' last, before = first ++ group ++ last ∧
      after = first ++ group' ++ last ∧
      ∀ finding ∈ group, ∃ header ∈ data.headers, ∃ key count,
        invoiceKey header = .ok key ∧ invoiceKey h = .ok key ∧
        reportDuplicate count header = .ok finding ∧
        ∃ finding' ∈ group', reportDuplicate (count + 1) header = .ok finding'
  lost : ¬Returns (Check.duplicateNumber.run (data.onlyHeader h)) → after = []

theorem duplicateNumber_recounts (data : Dataset) (h : Record) :
    RecountsDuplicates data h (Check.duplicateNumber.outcome data).findings
      (Check.duplicateNumber.outcome (data.withHeader h)).findings := by
  have hwith : duplicateNumber (data.withHeader h) =
      reportGroups (joinedKey keyParts) reportDuplicate (data.headers ++ [h]) :=
    duplicateNumber_eq_reportGroups _
  constructor
  · intro halone
    obtain ⟨key, hkey⟩ := returns_duplicateNumber_iff.1 halone
    rw [invoiceKey_eq_joinedKey] at hkey
    show ∃ first group group' last, (duplicateNumber data).toOption.getD [] = _ ∧
      (duplicateNumber (data.withHeader h)).toOption.getD [] = _ ∧ _
    cases hfound : duplicateNumber data with
    | error fault => exact ⟨[], [], _, [], rfl, (List.append_nil _).symm, by simp⟩
    | ok found =>
        rw [duplicateNumber_eq_reportGroups] at hfound
        have hreport : ∀ count header key, joinedKey keyParts header = .ok key →
            ∃ finding, reportDuplicate count header = .ok finding :=
          fun count _ _ => exists_reportDuplicate count
        obtain ⟨first, group, group', last, hbefore, hafter, hgroup⟩ :=
          reportGroups_append hreport hkey hfound
        refine ⟨first, group, group', last, hbefore, ?_, ?_⟩
        · rw [hwith, hafter]
          rfl
        · intro finding hfinding
          obtain ⟨header, hheader, hsame, count, hreport⟩ := hgroup finding hfinding
          rw [← invoiceKey_eq_joinedKey] at hkey hsame
          exact ⟨header, hheader, key, count, hsame, hkey, hreport⟩
  · intro halone
    have hkey : ¬Returns (joinedKey keyParts h) := by
      rw [← invoiceKey_eq_joinedKey]
      exact fun hreturns => halone (returns_duplicateNumber_iff.2 hreturns)
    show (duplicateNumber (data.withHeader h)).toOption.getD [] = []
    cases hcase : joinedKey keyParts h with
    | ok key => exact absurd ⟨key, hcase⟩ hkey
    | error fault =>
        rw [hwith, reportGroups_eq, List.mapM_append, List.mapM_cons, hcase]
        cases data.headers.mapM fun header => do return (← joinedKey keyParts header, header) <;>
          rfl

/-- The outcome of a check before and after a header was appended. -/
structure KeepsOutcome (data : Dataset) (h : Record) (before after : Outcome) : Prop where
  check : after.check = before.check
  findings : before.check ≠ .duplicateNumber →
    KeepsFindings (before.check.run (data.onlyHeader h)) before.findings after.findings
  duplicates : before.check = .duplicateNumber →
    RecountsDuplicates data h before.findings after.findings

theorem runAll_keeps (hadmits : data.Admits h) :
    List.Forall₂ (KeepsOutcome data h) (runAll data) (runAll (data.withHeader h)) := by
  have heach (check : Check) :
      KeepsOutcome data h (check.outcome data) (check.outcome (data.withHeader h)) := by
    refine ⟨rfl, fun hcheck => (run_grows hcheck hadmits).keeps, fun hcheck => ?_⟩
    obtain rfl : check = .duplicateNumber := hcheck
    exact duplicateNumber_recounts data h
  rw [runAll, runAll, List.forall₂_map_left_iff, List.forall₂_map_right_iff]
  exact List.forall₂_same.2 fun check _ => heach check

end Baseline

/-! ## Both runs -/

/--
A header is appended to the records of a dataset, with an identifier that none of them
uses. Both runs find about the other records what they found before, check by check,
unless a check fails on the new header; that check finds nothing. The reports of
duplicates of the header are counted anew, and no others. No check fails on a header
whose identifier is not null, whose buyer can be a key and whose whole numbers have a
text and are at most `2¹⁰⁰⁰`.
-/
theorem findings_kept {buyers headers lines : List Record} {data : Dataset} {h : Record}
    (hdata : Dataset.ofRecords buyers headers lines = .ok data) (hadmits : data.Admits h) :
    Dataset.ofRecords buyers (headers ++ [h]) lines = .ok (data.withHeader h) ∧
    List.Forall₂ (Baseline.KeepsOutcome data h) (Baseline.runAll data)
      (Baseline.runAll (data.withHeader h)) ∧
    (∀ grown, Pint.runAll Pint.packValues grown =
      .ok (Pint.pack.flatMap fun check => Pint.openedBy check.record grown)) ∧
    (∀ check ∈ Pint.pack,
      KeepsFindings (Pint.runRecord check.record (data.onlyHeader h))
        (Pint.openedBy check.record data) (Pint.openedBy check.record (data.withHeader h))) ∧
    (h.IsOrdinary →
      (∀ check : Baseline.Check, Returns (check.run (data.onlyHeader h))) ∧
      ∀ check ∈ Pint.pack, Returns (Pint.runRecord check.record (data.onlyHeader h))) := by
  refine ⟨Dataset.ofRecords_append hdata hadmits.id, Baseline.runAll_keeps hadmits,
    Pint.runAll_pack, fun check _ => Pint.openedBy_keeps check.record hadmits, fun hh => ?_⟩
  have hlines := Dataset.linesFor_of_admits hdata hadmits hh.identified
  exact ⟨Baseline.returns_run hh hlines, Pint.pack_returns hh hadmits.id hlines⟩

/-- A header of a buyer and a total, whose number is its identifier. -/
def headerOfBuyer (id : String) (buyer total : Value) : Record :=
  ⟨[("invoice_id", .text id), ("invoice_number", .text id), ("buyer_id", buyer),
    ("total_incl_vat", total)]⟩

/-- Two headers of unknown buyers; the second one is ordinary, so the finding about the
first one is kept. -/
theorem findings_kept_unknown_buyer :
    let first := headerOfBuyer "1" (.text "B9") (.ofFloat (.decimal 1125 3))
    let second := headerOfBuyer "2" (.text "B8") (.ofInt 100)
    ∃ data, Dataset.ofRecords [] [first] [] = .ok data ∧ data.Admits second ∧
      second.IsOrdinary ∧
      (Baseline.Check.buyerNotFound.outcome data).findings.length = 1 ∧
      List.Forall₂ (Baseline.KeepsOutcome data second) (Baseline.runAll data)
        (Baseline.runAll (data.withHeader second)) ∧
      Returns (Baseline.Check.buyerNotFound.run (data.onlyHeader second)) := by
  intro first second
  have hfound : ∃ data, Dataset.ofRecords [] [first] [] = .ok data ∧ data.Admits second ∧
      (Baseline.Check.buyerNotFound.outcome data).findings.length = 1 := by
    refine ⟨_, rfl, ⟨rfl, by simp, ?_, by simp⟩, by decide +kernel⟩
    intro r hr
    rw [List.mem_singleton.1 hr]
    exact .inr rfl
  have hordinary : second.IsOrdinary := by
    refine ⟨rfl, by decide +kernel, Record.within_of_members ?_, rfl⟩
    simp only [second, headerOfBuyer, List.forall_mem_cons]
    refine ⟨?_, ?_, ?_, ?_, by simp⟩ <;> rintro n ⟨⟩
    show (100 : Int).natAbs ≤ amountBound
    decide +kernel
  obtain ⟨data, hdata, hadmits, hone⟩ := hfound
  obtain ⟨-, hkept, -, -, hreturns⟩ := findings_kept hdata hadmits
  exact ⟨data, hdata, hadmits, hordinary, hone, hkept, (hreturns hordinary).1 .buyerNotFound⟩

/-- A header whose buyer is a list and whose total is beyond the range of binary64 hides
what the checks of buyers and of decimal places find about another header. -/
theorem findings_hidden :
    let first := headerOfBuyer "1" (.text "B9") (.ofFloat (.decimal 1125 3))
    let second := headerOfBuyer "2" (.list []) (.ofNat (tenPow 400))
    ∃ data, Dataset.ofRecords [] [first] [] = .ok data ∧ data.Admits second ∧
      Dataset.ofRecords [] [first, second] [] = .ok (data.withHeader second) ∧
      (Baseline.Check.buyerNotFound.outcome data).findings.length = 1 ∧
      (Baseline.Check.buyerNotFound.outcome (data.withHeader second)).findings = [] ∧
      ∃ check, Pint.check? "UAE-UC1-CHK-024" = some check ∧
        (Pint.openedBy check.record data).length = 1 ∧
        Pint.openedBy check.record (data.withHeader second) = [] := by
  intro first second
  refine ⟨_, rfl, ⟨rfl, by simp, ?_, by simp⟩, rfl, by decide +kernel, ?_, _, rfl, ?_, ?_⟩
  · intro r hr
    rw [List.mem_singleton.1 hr]
    exact .inr rfl
  · exact List.eq_nil_of_length_eq_zero (by decide +kernel)
  · decide +kernel
  · exact List.eq_nil_of_length_eq_zero (by decide +kernel)

end InvoiceReadiness
