import InvoiceReadiness.Proofs.Dataset.Joins
import InvoiceReadiness.Proofs.Matching.Symmetry
import Mathlib.Data.Sym.Sym2

/-!
# The leads of a search

A search compares each invoice with those before it, so it compares every two invoices
once (`pairsAfter`), and its leads are the matches among these pairs (`leadsAmong_eq`).
Which of two invoices is the earlier one depends on their order in the dataset, but the
pairs without their order do not (`unorderedPairs_perm`), and a comparison has the same
confidence in either order.

## Main results

* `leadsAmong_eq`, `mem_leads_iff` — the leads of a search, pair by pair.
* `map_scored_leads` — which pairs have a lead, with which confidence.
* `runSearch_perm` — a search of the same invoices in another order.
-/

namespace InvoiceReadiness.Matching

/-! ## The pairs of a search -/

section Pairs

variable {α : Type}

/-- Each item of the second list with those before it, the earlier one first. -/
def pairsAfter : List α → List α → List (α × α)
  | _, [] => []
  | before, later :: rest =>
    before.map (fun earlier => (earlier, later)) ++ pairsAfter (before ++ [later]) rest

/-- Every two items of a list. -/
def unorderedPairs : List α → List (Sym2 α)
  | [] => []
  | x :: rest => rest.map (fun y => s(x, y)) ++ unorderedPairs rest

theorem unorderedPairs_perm {items items' : List α} (h : items.Perm items') :
    (unorderedPairs items).Perm (unorderedPairs items') := by
  induction h with
  | nil => exact .refl _
  | cons x hrest ih => exact (hrest.map _).append ih
  | swap x y rest =>
      have hswap : s(y, x) = s(x, y) := Sym2.eq_swap
      simp only [unorderedPairs, List.map_cons, List.cons_append, hswap]
      refine .cons _ ?_
      rw [← List.append_assoc, ← List.append_assoc]
      exact List.perm_append_comm.append_right _
  | trans _ _ ih ih' => exact ih.trans ih'

theorem unorderedPairs_concat (items : List α) (x : α) :
    (unorderedPairs (items ++ [x])).Perm
      (items.map (fun y => s(y, x)) ++ unorderedPairs items) := by
  induction items with
  | nil => exact .refl _
  | cons y rest ih =>
      simp only [List.cons_append, unorderedPairs, List.map_append, List.map_cons, List.map_nil,
        List.append_assoc]
      have hmiddle := (ih.append_left (rest.map fun z => s(y, z))).trans
        (List.perm_append_comm_assoc _ _ _)
      exact List.perm_middle.trans (hmiddle.cons _)

/-- The pairs of a search are all pairs of the items, without those of the items that came
before it. -/
theorem map_pairsAfter_perm (before rest : List α) :
    ((pairsAfter before rest).map (fun pair => s(pair.1, pair.2)) ++ unorderedPairs before).Perm
      (unorderedPairs (before ++ rest)) := by
  induction rest generalizing before with
  | nil => rw [List.append_nil]; exact .refl _
  | cons later rest ih =>
      have hnext := ih (before ++ [later])
      rw [List.append_assoc, List.singleton_append] at hnext
      refine List.Perm.trans ?_ hnext
      rw [pairsAfter, List.map_append, List.map_map, List.append_assoc]
      refine (List.perm_append_comm_assoc _ _ _).trans (.append_left _ ?_)
      exact (unorderedPairs_concat before later).symm

/-- What holds of every two items in their order holds of the pairs of a search. -/
theorem of_mem_pairsAfter {R : α → α → Prop} {before rest : List α}
    (h : (before ++ rest).Pairwise R) : ∀ pair ∈ pairsAfter before rest, R pair.1 pair.2 := by
  induction rest generalizing before with
  | nil => intro pair hpair; cases hpair
  | cons later rest ih =>
      intro pair hpair
      rcases List.mem_append.1 hpair with hhere | hmore
      · obtain ⟨earlier, hearlier, rfl⟩ := List.mem_map.1 hhere
        exact (List.pairwise_append.1 h).2.2 earlier hearlier later List.mem_cons_self
      · refine ih ?_ pair hmore
        rwa [List.append_assoc]

end Pairs

/-! ## The matches among the pairs -/

variable (rule : SearchRule) (params : Record) (make : Record → Record → Match → Lead)

/-- The lead on a pair, if it shows a sign. -/
def leadOn (pair : Record × Record) : Result (Option Lead) := do
  return (← rule.matches? pair.1 pair.2 params).map (make pair.2 pair.1)

/-- The leads of a search are those on its pairs, one after the other. -/
theorem leadsAmong_eq (before rest : List Record) :
    leadsAmong rule params make before rest = (do
      let found ← (pairsAfter before rest).mapM (leadOn rule params make)
      return found.filterMap fun lead => lead) := by
  induction rest generalizing before with
  | nil => rfl
  | cons later rest ih =>
      have hhere : leadsOn rule params make later before = (do
          let found ← (before.map fun earlier => (earlier, later)).mapM
            (leadOn rule params make)
          return found.filterMap fun lead => lead) := by
        rw [leadsOn, List.mapM_map]
        rfl
      rw [leadsAmong, ih, hhere, pairsAfter, List.mapM_append]
      cases (before.map fun earlier => (earlier, later)).mapM (leadOn rule params make) with
      | error fault => rfl
      | ok here =>
          cases (pairsAfter (before ++ [later]) rest).mapM (leadOn rule params make) with
          | error fault => rfl
          | ok more => exact congrArg Except.ok List.filterMap_append.symm

/-- The confidence of two invoices, from a comparison that ends well. -/
def confidenceOf (a b : Record) : Option Binary64 :=
  match rule.matches? a b params, rule.matches? b a params with
  | .ok found, _ => found.map Prod.fst
  | _, .ok found => found.map Prod.fst
  | _, _ => none

theorem confidenceOf_comm (a b : Record) :
    confidenceOf rule params a b = confidenceOf rule params b a := by
  have halike := rule.matches?_alike a b params
  unfold confidenceOf
  cases hab : rule.matches? a b params with
  | error fault => cases rule.matches? b a params <;> rfl
  | ok found =>
      cases hba : rule.matches? b a params with
      | error fault => rfl
      | ok found' => exact halike hab hba

/-- The confidence of a pair of invoices. -/
def confidence : Sym2 Record → Option Binary64 :=
  Sym2.lift ⟨confidenceOf rule params, confidenceOf_comm rule params⟩

theorem confidence_of_matches? {a b : Record} {found : Option Match}
    (h : rule.matches? a b params = .ok found) :
    confidence rule params s(a, b) = found.map Prod.fst := by
  show confidenceOf rule params a b = _
  rw [confidenceOf, h]

/-- The two invoices of a lead, whichever is the earlier one, and its confidence. -/
def Lead.scored (lead : Lead) : Sym2 Record × Binary64 :=
  (s(lead.earlier, lead.later), lead.confidence)

/-- A pair with its confidence, if it has one. -/
def scoredPair (pair : Sym2 Record) : Option (Sym2 Record × Binary64) :=
  (confidence rule params pair).map fun score => (pair, score)

/-- The leads of a search are the pairs that have a confidence. -/
theorem map_scored_leads {headers : List Record} {leads : List Lead}
    (hmake : ∀ later earlier found,
      (make later earlier found).scored = (s(earlier, later), found.1))
    (h : leadsAmong rule params make [] headers = .ok leads) :
    leads.map Lead.scored =
      ((pairsAfter [] headers).map fun pair => s(pair.1, pair.2)).filterMap
        (scoredPair rule params) := by
  rw [leadsAmong_eq] at h
  obtain ⟨found, hfound, h⟩ := Result.bind_eq_ok.1 h
  obtain rfl := Except.ok.inj h
  have hscored : found.map (Option.map Lead.scored) =
      (pairsAfter [] headers).map fun pair => scoredPair rule params s(pair.1, pair.2) := by
    apply Result.map_eq_map_of_mapM_eq_ok hfound
    intro pair _ lead hlead
    obtain ⟨m, hm, hlead⟩ := Result.bind_eq_ok.1 hlead
    obtain rfl := Except.ok.inj hlead
    rw [scoredPair, confidence_of_matches? rule params hm, Option.map_map, Option.map_map]
    simp only [Function.comp_def, hmake]
  have hleft : (found.filterMap fun lead => lead).map Lead.scored =
      (found.map (Option.map Lead.scored)).filterMap fun scored => scored := by
    rw [List.map_filterMap, List.filterMap_map]
    rfl
  rw [hleft, hscored, List.filterMap_map, List.filterMap_map]
  rfl

variable {rule params make} in
/-- The leads of a search stand for the pairs that show a sign. -/
theorem mem_leads_iff {headers : List Record} {leads : List Lead}
    (h : leadsAmong rule params make [] headers = .ok leads) (lead : Lead) :
    lead ∈ leads ↔ ∃ pair ∈ pairsAfter [] headers, ∃ found,
      rule.matches? pair.1 pair.2 params = .ok (some found) ∧ make pair.2 pair.1 found = lead := by
  rw [leadsAmong_eq] at h
  obtain ⟨found, hfound, ⟨⟩⟩ := Result.bind_eq_ok.1 h
  have hlead (pair : Record × Record) : leadOn rule params make pair = .ok (some lead) ↔
      ∃ m, rule.matches? pair.1 pair.2 params = .ok (some m) ∧ make pair.2 pair.1 m = lead := by
    rw [leadOn]
    rcases rule.matches? pair.1 pair.2 params with fault | _ | m <;> simp
  have hmem : some lead ∈ found ↔
      ∃ pair ∈ pairsAfter [] headers, leadOn rule params make pair = .ok (some lead) := by
    have hinj : Function.Injective (Except.ok : Option Lead → Result (Option Lead)) :=
      fun _ _ => Except.ok.inj
    rw [← List.mem_map_of_injective hinj, ← Result.mapM_eq_ok_iff.1 hfound, List.mem_map]
  rw [List.mem_filterMap, exists_eq_right, hmem]
  exact exists_congr fun pair => and_congr_right fun _ => hlead pair

variable {rule params make} in
/-- All pairs of a search that ends well can be compared. -/
theorem exists_matches? {headers : List Record} {leads : List Lead}
    (h : leadsAmong rule params make [] headers = .ok leads) :
    ∀ pair ∈ pairsAfter [] headers, ∃ found, rule.matches? pair.1 pair.2 params = .ok found := by
  intro pair hpair
  rw [leadsAmong_eq] at h
  obtain ⟨found, hfound, -⟩ := Result.bind_eq_ok.1 h
  obtain ⟨lead, -, hlead⟩ := Result.exists_result_of_mem hfound hpair
  obtain ⟨m, hm, -⟩ := Result.bind_eq_ok.1 hlead
  exact ⟨m, hm⟩

/-! ## Searches in another order -/

variable {rule params}

/-- Two invoices can be compared, whichever is the earlier one. -/
def Comparable (rule : SearchRule) (params a b : Record) : Prop :=
  (∃ found, rule.matches? a b params = .ok found) ∧ ∃ found, rule.matches? b a params = .ok found

theorem exists_leadsAmong {headers : List Record}
    (h : headers.Pairwise (Comparable rule params)) :
    ∃ leads, leadsAmong rule params make [] headers = .ok leads := by
  rw [leadsAmong_eq, Result.exists_return_eq_ok_iff]
  apply Result.exists_mapM_eq_ok
  intro pair hpair
  rw [leadOn, Result.exists_return_eq_ok_iff]
  exact (of_mem_pairsAfter h pair hpair).1

theorem SearchRule.ofName?_name (rule : SearchRule) : ofName? rule.name = some rule := by
  cases rule <;> rfl

theorem SearchRule.eq_name_of_ofName? {name : String} (h : ofName? name = some rule) :
    name = rule.name := by
  have hname : (rule.name == name) = true := by
    rw [ofName?] at h
    exact List.find?_some (p := fun rule : SearchRule => rule.name == name) h
  exact (beq_iff_eq.1 hname).symm

/-- The lead of a check on two invoices that show a sign. -/
def leadFor (check later earlier : Record) (found : Match) : Lead where
  checkId := (check.get "id").orElse (check.get "rule_type")
  checkName := (check.get "name").orElse (check.get "rule_type")
  datasetType := .text "AP"
  later := later
  earlier := earlier
  message := found.2
  confidence := found.1

/-- A search of payables by a check with a known rule. -/
theorem runSearch_eq_leadsAmong {check : Record} (hrule : check.get "rule_type" = .text rule.name)
    (hparams : parametersOf check = .ok params) (data : Dataset) :
    runSearch check.value data (.text "AP") =
      leadsAmong rule params (leadFor check) [] data.headers := by
  have hcheck : check.value.record = .ok check := rfl
  have hlead : leadFor check = fun later earlier found => {
      checkId := (check.get "id").orElse (.text rule.name)
      checkName := (check.get "name").orElse (.text rule.name)
      datasetType := .text "AP", later, earlier
      message := found.2
      confidence := found.1 } := by
    funext later earlier found
    rw [leadFor, hrule]
  simp only [runSearch, hcheck, Result.ok_bind, hrule, Value.key, SearchRule.ofName?_name, hparams,
    hlead]

/-- Only a search of payables by a check with a known rule has leads. -/
theorem runSearch_cases {check datasetType : Value} {data : Dataset} {leads : List Lead}
    (h : runSearch check data datasetType = .ok leads) :
    leads = [] ∨ ∃ (given : Record) (rule : SearchRule) (params : Record),
      check = given.value ∧ given.get "rule_type" = .text rule.name ∧
        parametersOf given = .ok params ∧
        leadsAmong rule params (leadFor given) [] data.headers = .ok leads := by
  by_cases hkind : datasetType = .text "AP"
  · subst hkind
    cases check with
    | object members =>
        let given : Record := ⟨members⟩
        have hwhole := h
        obtain ⟨check, hcheck, h⟩ := Result.bind_eq_ok.1 h
        obtain rfl : given = check := Except.ok.inj hcheck
        obtain ⟨key, -, h⟩ := Result.bind_eq_ok.1 h
        cases hrule : (given.get "rule_type") with
        | text name =>
            rw [hrule] at h
            cases hname : SearchRule.ofName? name with
            | some rule =>
                rw [SearchRule.eq_name_of_ofName? hname] at hrule
                simp only [hname] at h
                obtain ⟨params, hparams, -⟩ := Result.bind_eq_ok.1 h
                have hleads := (runSearch_eq_leadsAmong hrule hparams data).symm.trans hwhole
                exact .inr ⟨given, rule, params, rfl, hrule, hparams, hleads⟩
            | none =>
                simp only [hname] at h
                exact .inl (Except.ok.inj h).symm
        | _ =>
            rw [hrule] at h
            exact .inl (Except.ok.inj h).symm
    | _ => cases h
  · rw [runSearch] at h
    · exact .inl (Except.ok.inj h).symm
    · exact hkind

theorem exists_runSearch_make {check : Record} (hrule : check.get "rule_type" = .text rule.name)
    (hparams : parametersOf check = .ok params) :
    ∃ make : Record → Record → Match → Lead,
      (∀ later earlier found, (make later earlier found).earlier = earlier ∧
        (make later earlier found).later = later ∧
        (make later earlier found).confidence = found.1) ∧
        ∀ data, runSearch check.value data (.text "AP") =
          leadsAmong rule params make [] data.headers :=
  ⟨leadFor check, fun _ _ _ => ⟨rfl, rfl, rfl⟩, runSearch_eq_leadsAmong hrule hparams⟩

theorem exists_runSearch_eq {check : Record} (hrule : check.get "rule_type" = .text rule.name)
    (hparams : parametersOf check = .ok params) :
    ∃ make : Record → Record → Match → Lead,
      (∀ later earlier found, (make later earlier found).scored = (s(earlier, later), found.1)) ∧
        ∀ data, runSearch check.value data (.text "AP") =
          leadsAmong rule params make [] data.headers := by
  obtain ⟨make, hmake, hrun⟩ := exists_runSearch_make hrule hparams
  refine ⟨make, fun later earlier found => ?_, hrun⟩
  obtain ⟨hearlier, hlater, hconfidence⟩ := hmake later earlier found
  rw [Lead.scored, hearlier, hlater, hconfidence]

/--
A search does not depend on the order of the invoices. A comparison of two of them has one
confidence in either order; so two searches of the same headers in different orders have
leads on the same pairs, with the same confidences, each as often. If every two headers can
be compared in either order, then there is a search in any order.
-/
theorem runSearch_perm {check : Record} (hrule : check.get "rule_type" = .text rule.name)
    (hparams : parametersOf check = .ok params) {data data' : Dataset}
    (hperm : data.headers.Perm data'.headers) :
    (∀ a b found found', rule.matches? a b params = .ok found →
      rule.matches? b a params = .ok found' → found.map Prod.fst = found'.map Prod.fst) ∧
    (∀ leads leads', runSearch check.value data (.text "AP") = .ok leads →
      runSearch check.value data' (.text "AP") = .ok leads' →
        (leads.map Lead.scored).Perm (leads'.map Lead.scored)) ∧
    (data.headers.Pairwise (Comparable rule params) →
      ∃ leads leads', runSearch check.value data (.text "AP") = .ok leads ∧
        runSearch check.value data' (.text "AP") = .ok leads') := by
  obtain ⟨make, hmake, hrun⟩ := exists_runSearch_eq hrule hparams
  rw [hrun, hrun]
  refine ⟨fun a b _ _ hab hba => rule.matches?_alike a b params hab hba, ?_, ?_⟩
  · intro leads leads' hleads hleads'
    rw [map_scored_leads rule params make hmake hleads,
      map_scored_leads rule params make hmake hleads']
    apply List.Perm.filterMap
    have hpairs (headers : List Record) :
        ((pairsAfter [] headers).map fun pair => s(pair.1, pair.2)).Perm
          (unorderedPairs headers) := by
      have hall := map_pairsAfter_perm [] headers
      rwa [unorderedPairs, List.append_nil] at hall
    exact (hpairs data.headers).trans ((unorderedPairs_perm hperm).trans (hpairs _).symm)
  · intro hcomparable
    have hcomparable' : data'.headers.Pairwise (Comparable rule params) :=
      (hperm.pairwise_iff fun h => And.symm h).1 hcomparable
    obtain ⟨leads, hleads⟩ := exists_leadsAmong make hcomparable
    obtain ⟨leads', hleads'⟩ := exists_leadsAmong make hcomparable'
    exact ⟨leads, leads', hleads, hleads'⟩

/-- Two invoices of one supplier whose numbers are written in two ways have one lead in
either order, each time on the other of them. -/
theorem runSearch_perm_variant :
    let header (id number : String) : Record :=
      ⟨[("invoice_id", .text id), ("invoice_number", .text number),
        ("seller_trn", .text "100-20"), ("seller_name", .text "Acme")]⟩
    let first := header "1" "INV-2026/001"
    let second := header "2" "inv 2026 01"
    let check : Record := ⟨[("rule_type", .text "invoice_number_variant")]⟩
    let params : Record := ⟨defaultParameters⟩
    check.get "rule_type" = .text SearchRule.invoiceNumberVariant.name ∧
      parametersOf check = .ok params ∧
      ∃ data data' leads leads', Dataset.ofRecords [] [first, second] [] = .ok data ∧
        Dataset.ofRecords [] [second, first] [] = .ok data' ∧
        data.headers.Perm data'.headers ∧
        data.headers.Pairwise (Comparable .invoiceNumberVariant params) ∧
        runSearch check.value data (.text "AP") = .ok leads ∧
        runSearch check.value data' (.text "AP") = .ok leads' ∧
        (leads.map Lead.scored).Perm (leads'.map Lead.scored) ∧
        leads.map (fun lead => (lead.later.get "invoice_id").asText) = [.ok "2"] ∧
        leads'.map (fun lead => (lead.later.get "invoice_id").asText) = [.ok "1"] := by
  intro header first second check params
  have hcompares (a b : Record)
      (h : (SearchRule.invoiceNumberVariant.matches? a b params).toOption.isSome) :
      ∃ found, SearchRule.invoiceNumberVariant.matches? a b params = .ok found := by
    cases hmatch : SearchRule.invoiceNumberVariant.matches? a b params with
    | ok found => exact ⟨found, rfl⟩
    | error fault => rw [hmatch] at h; cases h
  have hcomparable : [first, second].Pairwise (Comparable .invoiceNumberVariant params) := by
    rw [List.pairwise_pair]
    exact ⟨hcompares _ _ (by decide +kernel), hcompares _ _ (by decide +kernel)⟩
  have hrun (a b : Record) (id : String) (h : (do
      let data ← Dataset.ofRecords [] [a, b] []
      let leads ← runSearch check.value data (.text "AP")
      return leads.map fun lead => (lead.later.get "invoice_id").asText :
        Result (List (Result String))) = .ok [.ok id]) :
      ∃ data leads, Dataset.ofRecords [] [a, b] [] = .ok data ∧ data.headers = [a, b] ∧
        runSearch check.value data (.text "AP") = .ok leads ∧
        leads.map (fun lead => (lead.later.get "invoice_id").asText) = [.ok id] := by
    obtain ⟨data, hdata, h⟩ := Result.bind_eq_ok.1 h
    obtain ⟨leads, hleads, h⟩ := Result.bind_eq_ok.1 h
    exact ⟨data, leads, hdata, (Dataset.headers_of_ofRecords hdata).1, hleads, Except.ok.inj h⟩
  obtain ⟨data, leads, hdata, hheaders, hleads, hids⟩ :=
    hrun first second "2" (by decide +kernel)
  obtain ⟨data', leads', hdata', hheaders', hleads', hids'⟩ :=
    hrun second first "1" (by decide +kernel)
  have hrule : check.get "rule_type" = .text SearchRule.invoiceNumberVariant.name := rfl
  have hparams : parametersOf check = .ok params := rfl
  have hperm : data.headers.Perm data'.headers := by
    rw [hheaders, hheaders']
    exact .swap second first []
  obtain ⟨-, hscored, -⟩ := runSearch_perm hrule hparams hperm
  rw [← hheaders] at hcomparable
  exact ⟨hrule, hparams, data, data', leads, leads', hdata, hdata', hperm, hcomparable, hleads,
    hleads', hscored leads leads' hleads hleads', hids, hids'⟩

end InvoiceReadiness.Matching
