import InvoiceReadiness.Proofs.Dataset.Flagged
import InvoiceReadiness.Proofs.Matching.Leads
import InvoiceReadiness.Proofs.Numeric.Ordering

/-!
# Positions of leads

The pairs that a search compares are those of a dataset's positions, by the later position
and then by the earlier one (`positionPairs`). Its leads stand for the pairs that show a sign,
one lead for each and in this order (`ListsMatches`). New invoices at the end of a dataset are
compared after all pairs of the invoices before them; so their leads are added at the end, and
the leads that were there stay as they are.

An invoice that is submitted again has the registration number, the total and the date of the
one before. Each of these is compared in its own way, by digits, by value within a tolerance
and by days, and each comparison lets equals through, so the invoice is flagged.

## Main results

* `mem_positionPairs`, `pairwise_positionPairs` — the pairs of positions and their order.
* `listsMatches_leads` — the leads of a search by their positions.
* `exists_isPrefix_leads` — the leads of a dataset that has grown.
* `isSome_matchDuplicate_of_repeats` — an invoice that repeats another one.
* `runSearch_lists_matches` — all of this for a check.
-/

namespace InvoiceReadiness.Matching

/-! ## Pairs of positions -/

section Pairs

variable {α β : Type}

theorem pairsAfter_append (before rest more : List α) :
    pairsAfter before (rest ++ more) =
      pairsAfter before rest ++ pairsAfter (before ++ rest) more := by
  induction rest generalizing before with
  | nil => rw [List.append_nil]; rfl
  | cons later rest ih =>
      rw [List.cons_append, pairsAfter, pairsAfter, ih, List.append_assoc, List.append_assoc,
        List.singleton_append]

theorem pairsAfter_map (f : α → β) (before rest : List α) :
    pairsAfter (before.map f) (rest.map f) = (pairsAfter before rest).map (Prod.map f f) := by
  induction rest generalizing before with
  | nil => rfl
  | cons later rest ih =>
      have hnext := ih (before ++ [later])
      rw [List.map_append, List.map_singleton] at hnext
      rw [List.map_cons, pairsAfter, pairsAfter, hnext, List.map_append, List.map_map,
        List.map_map]
      rfl

/-- The pairs of the first positions, the earlier position of each pair first. -/
def positionPairs (n : Nat) : List (Nat × Nat) := pairsAfter [] (List.range n)

theorem positionPairs_succ (n : Nat) :
    positionPairs (n + 1) = positionPairs n ++ (List.range n).map fun i => (i, n) := by
  rw [positionPairs, List.range_succ, pairsAfter_append, List.nil_append, pairsAfter, pairsAfter,
    List.append_nil]
  rfl

theorem mem_positionPairs {n i j : Nat} : (i, j) ∈ positionPairs n ↔ i < j ∧ j < n := by
  induction n with
  | zero => simp [positionPairs, pairsAfter]
  | succ n ih =>
      rw [positionPairs_succ, List.mem_append, ih, List.mem_map]
      constructor
      · rintro (hij | ⟨i', hi', ⟨⟩⟩)
        · omega
        · have hi := List.mem_range.1 hi'
          omega
      · intro hij
        by_cases hlast : j = n
        · exact .inr ⟨i, List.mem_range.2 (by omega), by rw [hlast]⟩
        · exact .inl (by omega)

/-- The later position counts first, then the earlier one. -/
def ComesSooner (p q : Nat × Nat) : Prop := p.2 < q.2 ∨ p.2 = q.2 ∧ p.1 < q.1

theorem pairwise_positionPairs (n : Nat) : (positionPairs n).Pairwise ComesSooner := by
  induction n with
  | zero => exact .nil
  | succ n ih =>
      rw [positionPairs_succ, List.pairwise_append]
      refine ⟨ih, ?_, ?_⟩
      · apply List.Pairwise.map _ _ List.pairwise_lt_range
        intro i i' h
        exact .inr ⟨rfl, h⟩
      · rintro ⟨i, j⟩ hp q hq
        obtain ⟨i', -, rfl⟩ := List.mem_map.1 hq
        exact .inl (mem_positionPairs.1 hp).2

/-- Pairs in this order are known by which of them there are. -/
theorem eq_of_comesSooner {positions positions' : List (Nat × Nat)}
    (h : positions.Pairwise ComesSooner) (h' : positions'.Pairwise ComesSooner)
    (hmem : ∀ p, p ∈ positions ↔ p ∈ positions') : positions = positions' := by
  have hne {p q : Nat × Nat} (hpq : ComesSooner p q) : p ≠ q := by
    rintro rfl
    unfold ComesSooner at hpq
    omega
  have hperm : positions.Perm positions' :=
    (List.perm_ext_iff_of_nodup (h.imp hne) (h'.imp hne)).2 hmem
  apply hperm.eq_of_pairwise _ h h'
  intro p q _ _ hpq hqp
  unfold ComesSooner at hpq hqp
  omega

/-- The pairs of a search by their positions. -/
theorem pairsAfter_eq_map (items : List α) (fallback : α) :
    pairsAfter [] items = (positionPairs items.length).map fun p =>
      (items.getD p.1 fallback, items.getD p.2 fallback) := by
  have hitems : items = (List.range items.length).map fun i => items.getD i fallback := by
    apply List.ext_getElem
    · simp
    · intro i h _
      simp [h]
  have hmap := pairsAfter_map (fun i => items.getD i fallback) [] (List.range items.length)
  rw [List.map_nil, ← hitems] at hmap
  exact hmap

theorem mem_pairsAfter {items : List α} {i j : Nat} {x y : α} (hlt : i < j)
    (hx : items[i]? = some x) (hy : items[j]? = some y) : (x, y) ∈ pairsAfter [] items := by
  obtain ⟨hj, -⟩ := List.getElem?_eq_some_iff.1 hy
  rw [pairsAfter_eq_map items x]
  refine List.mem_map.2 ⟨(i, j), mem_positionPairs.2 ⟨hlt, hj⟩, ?_⟩
  simp [List.getD_eq_getElem?_getD, hx, hy]

end Pairs

/-! ## The leads by their positions -/

section Leads

variable {rule : SearchRule} {params check : Record} {headers : List Record} {leads : List Lead}

/-- A lead stands for a match of the invoices at two positions. -/
def IsLeadAt (rule : SearchRule) (params check : Record) (headers : List Record) (p : Nat × Nat)
    (lead : Lead) : Prop :=
  ∃ earlier later found, headers[p.1]? = some earlier ∧ headers[p.2]? = some later ∧
    rule.matches? earlier later params = .ok (some found) ∧ lead = leadFor check later earlier found

/-- The leads stand for the matches of a list of invoices, one lead for each pair of positions and
in their order. -/
def ListsMatches (rule : SearchRule) (params check : Record) (headers : List Record)
    (leads : List Lead) : Prop :=
  ∃ positions : List (Nat × Nat), positions.Pairwise ComesSooner ∧
    (∀ i j, (i, j) ∈ positions ↔
      i < j ∧ ∃ lead, IsLeadAt rule params check headers (i, j) lead) ∧
    List.Forall₂ (IsLeadAt rule params check headers) positions leads

variable (rule params check) in
/-- What is found at two positions. -/
theorem says_leadOn {p : Nat × Nat} (hp : p ∈ positionPairs headers.length) :
    Yields (Says (∃ lead, IsLeadAt rule params check headers p lead)
        (IsLeadAt rule params check headers p))
      (leadOn rule params (leadFor check)
        (headers.getD p.1 Record.empty, headers.getD p.2 Record.empty)) := by
  obtain ⟨hlt, hlater⟩ := mem_positionPairs.1 hp
  have hearlier : p.1 < headers.length := Nat.lt_trans hlt hlater
  have hgets (i : Nat) (hi : i < headers.length) :
      headers[i]? = some (headers.getD i Record.empty) := by
    simp [hi]
  intro said hsaid
  obtain ⟨found, hfound, ⟨⟩⟩ := Result.bind_eq_ok.1 hsaid
  cases found with
  | none =>
      apply says_none.2
      rintro ⟨lead, earlier, later, found, hget, hget', hmatch, -⟩
      obtain rfl := Option.some.inj ((hgets _ hearlier).symm.trans hget)
      obtain rfl := Option.some.inj ((hgets _ hlater).symm.trans hget')
      cases hfound.symm.trans hmatch
  | some found =>
      have hlead : IsLeadAt rule params check headers p (leadFor check
          (headers.getD p.2 Record.empty) (headers.getD p.1 Record.empty) found) :=
        ⟨_, _, found, hgets _ hearlier, hgets _ hlater, hfound, rfl⟩
      exact says_some.2 ⟨⟨_, hlead⟩, hlead⟩

theorem listsMatches_leads (h : leadsAmong rule params (leadFor check) [] headers = .ok leads) :
    ListsMatches rule params check headers leads := by
  classical
  rw [leadsAmong_eq, pairsAfter_eq_map headers Record.empty, List.mapM_map] at h
  obtain ⟨all, hall, ⟨⟩⟩ := Result.bind_eq_ok.1 h
  let shows (p : Nat × Nat) : Bool :=
    decide (∃ lead, IsLeadAt rule params check headers p lead)
  refine ⟨(positionPairs headers.length).filter shows,
    (pairwise_positionPairs _).filter shows, ?_, ?_⟩
  · intro i j
    rw [List.mem_filter, mem_positionPairs, decide_eq_true_iff]
    constructor
    · rintro ⟨⟨hlt, -⟩, hlead⟩
      exact ⟨hlt, hlead⟩
    · rintro ⟨hlt, hlead⟩
      refine ⟨⟨hlt, ?_⟩, hlead⟩
      obtain ⟨_, _, _, _, _, hlater, _⟩ := hlead
      exact (List.getElem?_eq_some_iff.1 hlater).1
  · apply forall₂_filter_of_says
    have hsaid := (List.forall₂_and_left _ all).2
      ⟨fun p hp => says_leadOn rule params check hp, Result.forall₂_of_mapM_eq_ok hall⟩
    refine hsaid.imp fun p said hp => ?_
    simpa [shows] using hp.1 hp.2

/-- A search ends well if all pairs of invoices can be compared, and not otherwise. -/
theorem returns_leadsAmong_iff (make : Record → Record → Match → Lead) :
    Returns (leadsAmong rule params make [] headers) ↔ ∀ (i j : Nat) earlier later, i < j →
      headers[i]? = some earlier → headers[j]? = some later →
        Returns (rule.matches? earlier later params) := by
  constructor
  · rintro ⟨leads, h⟩ i j earlier later hlt hearlier hlater
    exact exists_matches? h _ (mem_pairsAfter hlt hearlier hlater)
  · intro h
    rw [leadsAmong_eq, pairsAfter_eq_map headers Record.empty, List.mapM_map]
    simp only [Returns.bind_iff, Returns.mapM_iff, Returns.pure_iff, implies_true, and_true]
    rintro ⟨i, j⟩ hp
    obtain ⟨hlt, hj⟩ := mem_positionPairs.1 hp
    have hmatch := h i j (headers.getD i Record.empty) (headers.getD j Record.empty) hlt
      (by simp [Nat.lt_trans hlt hj]) (by simp [hj])
    simpa [leadOn] using hmatch

/-- The leads of a search stay where they are when there are more invoices after the others. -/
theorem exists_isPrefix_leads {make : Record → Record → Match → Lead} {more : List Record}
    (h : leadsAmong rule params make [] (headers ++ more) = .ok leads) :
    ∃ first, leadsAmong rule params make [] headers = .ok first ∧ first <+: leads := by
  rw [leadsAmong_eq, pairsAfter_append] at h
  obtain ⟨all, hall, ⟨⟩⟩ := Result.bind_eq_ok.1 h
  obtain ⟨found, rest, hfound, -, rfl⟩ := Result.mapM_append_eq_ok.1 hall
  refine ⟨found.filterMap fun lead => lead, ?_, ?_⟩
  · rw [leadsAmong_eq, hfound]
    rfl
  · rw [List.filterMap_append]
    exact List.prefix_append _ _

end Leads

/-! ## Invoices that are submitted again -/

section Repeats

variable {earlier later params : Record} {found : Option Match}

/-- An invoice has the registration number, the total and the date of an earlier one. Digits are
compared in the number, the value of the total has to be finite, and the dates may be written in
two ways. -/
structure Repeats (earlier later : Record) : Prop where
  trn : ∃ digits, digits ≠ [] ∧ normalized trnForm (earlier.get "seller_trn") = .ok digits ∧
    normalized trnForm (later.get "seller_trn") = .ok digits
  total : ∃ m n units, (earlier.get "total_incl_vat").toNumber? = some m ∧
    (later.get "total_incl_vat").toNumber? = some n ∧ m.exact = .units units ∧
    n.exact = .units units
  date : ∃ d, dateOf? (earlier.get "issue_date") = .ok (some d) ∧
    dateOf? (later.get "issue_date") = .ok (some d)

/-- The parameters let equal suppliers and equal dates through. -/
structure AdmitsRepeats (params : Record) : Prop where
  vendor : ∃ x, (params.get "vendor_similarity_threshold").toBinary64 = .ok x ∧
    fullScore.compare? x ≠ some .lt
  window : ∃ days, (params.get "date_window_days").toWhole = .ok days ∧ 0 ≤ days

theorem admitsRepeats_defaultParameters : AdmitsRepeats ⟨defaultParameters⟩ where
  vendor := ⟨_, rfl, by decide +kernel⟩
  window := ⟨7, rfl, by decide⟩

theorem supplierSimilarity_of_repeats (h : Repeats earlier later) :
    supplierSimilarity earlier later = .ok fullScore := by
  obtain ⟨digits, hne, hearlier, hlater⟩ := h.trn
  have hempty : digits.isEmpty = false := List.isEmpty_eq_false_iff.2 hne
  rw [supplierSimilarity_eq hearlier hlater, if_pos ⟨hempty, rfl⟩]
  rfl

/-- An invoice that repeats an earlier one is taken for a duplicate. -/
theorem isSome_matchDuplicate_of_repeats (hrepeats : Repeats earlier later)
    (hadmits : AdmitsRepeats params) (h : matchDuplicate earlier later params = .ok found) :
    found.isSome := by
  obtain ⟨x, hx, hvendor⟩ := hadmits.vendor
  obtain ⟨window, hwindow, hdays⟩ := hadmits.window
  obtain ⟨m, n, units, hm, hn, hmunits, hnunits⟩ := hrepeats.total
  obtain ⟨d, hearlier, hlater⟩ := hrepeats.date
  have hbelow : belowThreshold fullScore (params.get "vendor_similarity_threshold") =
      .ok false := by
    rw [belowThreshold, hx, Result.ok_bind]
    exact congrArg Except.ok (beq_eq_false_iff_ne.2 hvendor)
  have hgap : ¬window < (d.gap d : Nat) := by
    have hself : d.gap d = 0 := by
      unfold Date.gap
      omega
    rw [hself]
    omega
  rw [matchDuplicate, supplierSimilarity_of_repeats hrepeats, Result.ok_bind, hbelow,
    Result.ok_bind, if_neg Bool.false_ne_true, hm, hn] at h
  obtain ⟨tolerance, -, h⟩ := Result.bind_eq_ok.1 h
  rw [Number.agree_of_exact hmunits hnunits, Result.ok_bind, Bool.not_true,
    if_neg Bool.false_ne_true, hearlier, Result.ok_bind, hlater, Result.ok_bind] at h
  dsimp only at h
  rw [hwindow, Result.ok_bind, if_neg hgap] at h
  obtain ⟨numbers, -, h⟩ := Result.bind_eq_ok.1 h
  obtain ⟨number, -, h⟩ := Result.bind_eq_ok.1 h
  obtain ⟨amount, -, ⟨⟩⟩ := Result.bind_eq_ok.1 h
  rfl

end Repeats

/-! ## Searches -/

section Searches

variable {rule : SearchRule} {check params : Record}

/-- **A search lists every match once.** It ends well if and only if all invoices can be compared
with those before them, and then it has one lead for each pair of positions whose invoices match:
on the later invoice, with the earlier one, in the order of the later position and then of the
earlier one. The leads of a dataset are the first leads of the dataset with more invoices at the
end. A search for duplicates flags each invoice that repeats an earlier one, with parameters that
let equals through, such as those that are set by default. -/
theorem runSearch_lists_matches (hrule : check.get "rule_type" = .text rule.name)
    (hparams : parametersOf check = .ok params) :
    (∀ data, Returns (runSearch check.value data (.text "AP")) ↔
      ∀ (i j : Nat) earlier later, i < j → data.headers[i]? = some earlier →
        data.headers[j]? = some later → Returns (rule.matches? earlier later params)) ∧
    (∀ data leads, runSearch check.value data (.text "AP") = .ok leads →
      ListsMatches rule params check data.headers leads) ∧
    (∀ data data' more leads', data'.headers = data.headers ++ more →
      runSearch check.value data' (.text "AP") = .ok leads' →
        ∃ leads, runSearch check.value data (.text "AP") = .ok leads ∧ leads <+: leads') ∧
    (rule = .fuzzyDuplicate → AdmitsRepeats params → ∀ data leads,
      runSearch check.value data (.text "AP") = .ok leads →
        ∀ (i j : Nat) earlier later, i < j → data.headers[i]? = some earlier →
          data.headers[j]? = some later → Repeats earlier later →
            ∃ lead ∈ leads, IsLeadAt rule params check data.headers (i, j) lead) ∧
    AdmitsRepeats ⟨defaultParameters⟩ := by
  simp only [runSearch_eq_leadsAmong hrule hparams]
  refine ⟨fun data => returns_leadsAmong_iff _, fun data leads => listsMatches_leads, ?_, ?_,
    admitsRepeats_defaultParameters⟩
  · intro data data' more leads' hheaders h
    rw [hheaders] at h
    exact exists_isPrefix_leads h
  · rintro rfl hadmits data leads h i j earlier later hlt hearlier hlater hrepeats
    have hpair := mem_pairsAfter hlt hearlier hlater
    obtain ⟨found, hfound⟩ := exists_matches? h _ hpair
    obtain ⟨m, rfl⟩ := Option.isSome_iff_exists.1
      (isSome_matchDuplicate_of_repeats hrepeats hadmits hfound)
    have hlead : leadFor check later earlier m ∈ leads :=
      (mem_leads_iff h _).2 ⟨_, hpair, m, hfound, rfl⟩
    exact ⟨_, hlead, earlier, later, m, hearlier, hlater, hfound, rfl⟩

end Searches

/-- One invoice comes three times, with its number, total and date written in several ways. Each
later copy is flagged, and the lead on the second one stays first when the third one comes. -/
theorem runSearch_lists_matches_resubmitted :
    let header (id trn date : String) (total : Value) : Record :=
      ⟨[("invoice_id", .text id), ("invoice_number", .text id), ("seller_trn", .text trn),
        ("issue_date", .text date), ("total_incl_vat", total)]⟩
    let first := header "1" "100-20" "2026-03-01" (.ofInt 100)
    let second := header "2" "TRN 10020" "01/03/2026" (.text "100.00")
    let third := header "3" "10020" "01-03-2026" (.ofInt 100)
    let check : Record := ⟨[("rule_type", .text "fuzzy_duplicate")]⟩
    let rule := SearchRule.fuzzyDuplicate
    check.get "rule_type" = .text rule.name ∧
      parametersOf check = .ok ⟨defaultParameters⟩ ∧ Repeats first second ∧
      ∃ data data' leads leads', Dataset.ofRecords [] [first, second] [] = .ok data ∧
        Dataset.ofRecords [] [first, second, third] [] = .ok data' ∧
        runSearch check.value data (.text "AP") = .ok leads ∧
        runSearch check.value data' (.text "AP") = .ok leads' ∧
        leads.length = 1 ∧ leads'.length = 3 ∧ leads <+: leads' ∧
        ListsMatches rule ⟨defaultParameters⟩ check data'.headers leads' ∧
        ∃ lead ∈ leads, IsLeadAt rule ⟨defaultParameters⟩ check data.headers (0, 1) lead := by
  intro header first second third check rule
  have hruns : (do
      let data ← Dataset.ofRecords [] [first, second] []
      let data' ← Dataset.ofRecords [] [first, second, third] []
      let leads ← runSearch check.value data (.text "AP")
      let leads' ← runSearch check.value data' (.text "AP")
      return (leads.length, leads'.length) : Result (Nat × Nat)) = .ok (1, 3) := by
    decide +kernel
  obtain ⟨data, hdata, h⟩ := Result.bind_eq_ok.1 hruns
  obtain ⟨data', hdata', h⟩ := Result.bind_eq_ok.1 h
  obtain ⟨leads, hleads, h⟩ := Result.bind_eq_ok.1 h
  obtain ⟨leads', hleads', h⟩ := Result.bind_eq_ok.1 h
  obtain ⟨hone, hthree⟩ := Prod.ext_iff.1 (Except.ok.inj h)
  have hheaders := (Dataset.headers_of_ofRecords hdata).1
  have hgrown : data'.headers = data.headers ++ [third] := by
    rw [(Dataset.headers_of_ofRecords hdata').1, hheaders]
    rfl
  have hrepeats : Repeats first second := by
    refine ⟨⟨"10020".toList, ?_⟩,
      ⟨.whole 100, .float (Binary64.ofInt 100), Number.wholeUnits 100, ?_⟩, ⟨⟨2026, 3, 1⟩, ?_⟩⟩
    · decide +kernel
    · decide +kernel
    · decide +kernel
  have hrule : check.get "rule_type" = .text rule.name := rfl
  have hparams : parametersOf check = .ok ⟨defaultParameters⟩ := rfl
  obtain ⟨-, hlists, hgrows, hflags, hadmits⟩ := runSearch_lists_matches hrule hparams
  obtain ⟨before, hbefore, hprefix⟩ := hgrows data data' _ leads' hgrown hleads'
  obtain rfl := Except.ok.inj (hbefore.symm.trans hleads)
  refine ⟨hrule, hparams, hrepeats, data, data', before, leads', hdata, hdata', hleads, hleads',
    hone, hthree, hprefix, hlists data' leads' hleads', ?_⟩
  apply hflags rfl hadmits data before hleads 0 1 first second Nat.zero_lt_one
  · rw [hheaders]
    rfl
  · rw [hheaders]
    rfl
  · exact hrepeats

end InvoiceReadiness.Matching
