import InvoiceReadiness.Proofs.Pint.Stamping
import InvoiceReadiness.Proofs.Traceability.Gaps

/-!
# Failures of requirements

The cases of a run are counted by check, and the counts are added up for each
requirement over the rules that enforce it. What comes out is the number of cases
whose own requirements include that one: a case carries what its check enforces, so
it belongs to one rule only, and that rule is filed once under each requirement
however often it names it.

## Main results

* `sum_countP_enforcing` — the counts by check add up to a count of cases.
* `tallies_eq_ok` — the tallies of a run.
* `Matrix.ofTallies_tells` — a matrix tells the failures of each requirement.
-/

namespace InvoiceReadiness.Traceability

open Pint (Case)

/-! ## Counting by check -/

variable {rules : List Rule} {cases : List Case}

/-- One case is counted once, for the rule whose requirements it carries. -/
theorem countP_enforcing {c : Case} (enforces : List Value → Bool)
    (hdistinct : (rules.map fun rule => rule.id.keyOf).Nodup)
    (hc : ∃ rule ∈ rules, c.CarriesOf rule) :
    (rules.filter fun rule => enforces rule.requirements).countP
        (fun rule => c.checkId.keyOf == rule.id.keyOf) =
      if enforces c.terms then 1 else 0 := by
  obtain ⟨rule, hrule, hid, hterms⟩ := hc
  have hsame : ∀ other ∈ rules,
      ((c.checkId.keyOf == other.id.keyOf && enforces other.requirements) = true ↔
        (other.id.keyOf == rule.id.keyOf && enforces c.terms) = true) := by
    intro other hother
    rw [hid, hterms, Bool.and_eq_true, Bool.and_eq_true, beq_iff_eq, beq_iff_eq]
    constructor
    · rintro ⟨hkey, henforces⟩
      have heq := List.inj_on_of_nodup_map hdistinct hrule hother hkey
      exact ⟨hkey.symm, heq ▸ henforces⟩
    · rintro ⟨hkey, henforces⟩
      have heq := List.inj_on_of_nodup_map hdistinct hother hrule hkey
      exact ⟨hkey.symm, heq ▸ henforces⟩
  have hone : rules.countP (fun other => other.id.keyOf == rule.id.keyOf) = 1 := by
    have hcount := hdistinct.count (a := rule.id.keyOf)
    rw [if_pos (List.mem_map_of_mem hrule), List.count_eq_countP, List.countP_map] at hcount
    exact hcount
  rw [List.countP_filter, List.countP_congr hsame]
  cases enforces c.terms with
  | true => simpa using hone
  | false => simp

/-- The counts by check add up to a count of cases. -/
theorem sum_countP_enforcing (enforces : List Value → Bool)
    (hdistinct : (rules.map fun rule => rule.id.keyOf).Nodup)
    (hcases : ∀ c ∈ cases, ∃ rule ∈ rules, c.CarriesOf rule) :
    ((rules.filter fun rule => enforces rule.requirements).map fun rule =>
        cases.countP fun c => c.checkId.keyOf == rule.id.keyOf).sum =
      cases.countP fun c => enforces c.terms := by
  have hone (c : Case) (rest : List Case) (found : List Rule) :
      (found.map fun rule => (c :: rest).countP fun c => c.checkId.keyOf == rule.id.keyOf).sum =
        (found.map fun rule => rest.countP fun c => c.checkId.keyOf == rule.id.keyOf).sum +
          found.countP fun rule => c.checkId.keyOf == rule.id.keyOf := by
    induction found with
    | nil => rfl
    | cons rule more ih =>
        rw [List.map_cons, List.sum_cons, ih, List.map_cons, List.sum_cons, List.countP_cons,
          List.countP_cons]
        omega
  induction cases with
  | nil => simp
  | cons c rest ih =>
      obtain ⟨hc, hrest⟩ := List.forall_mem_cons.1 hcases
      rw [hone, ih hrest, countP_enforcing enforces hdistinct hc, List.countP_cons]

/-! ## Tallies -/

/-- The cases whose own requirements include an identifier. -/
def casesAbout (cases : List Case) (id : Value) : List Case :=
  cases.filter fun c => isAmong c.terms id

/-- The tally of a requirement in a run over `n` records. -/
def tallyOf (cases : List Case) (n : Nat) (id : Value) : Tally where
  requirement := id
  passes := .whole ((n - (casesAbout cases id).length : Nat) : Int)
  failures := (casesAbout cases id).length

/-- What is left of a number of records is never less than zero. -/
theorem passes_eq (n failed : Nat) :
    (if (Number.whole ((n : Int) - failed)).lt .zero then Number.zero
      else .whole ((n : Int) - failed)) = .whole ((n - failed : Nat) : Int) := by
  have hiff : (Number.whole ((n : Int) - failed)).lt .zero ↔ (n : Int) - failed < 0 :=
    whole_lt_whole_iff
  by_cases hle : failed ≤ n
  · have hlt : ¬(n : Int) - failed < 0 := by omega
    rw [if_neg (hiff.not.2 hlt), Int.ofNat_sub hle]
  · have hlt : (n : Int) - failed < 0 := by omega
    have hleft : n - failed = 0 := Nat.sub_eq_zero_of_le (by omega)
    rw [if_pos (hiff.2 hlt), hleft]
    rfl

/-- No case is about a requirement that no rule enforces. -/
theorem casesAbout_eq_nil (hcases : ∀ c ∈ cases, ∃ rule ∈ rules, c.CarriesOf rule)
    {id : Value} (hid : isEnforced rules id = false) : casesAbout cases id = [] := by
  refine List.filter_eq_nil_iff.2 fun c hc hamong => ?_
  obtain ⟨rule, hrule, -, hterms⟩ := hcases c hc
  rw [hterms] at hamong
  rw [isEnforced, List.any_eq_false] at hid
  exact hid rule hrule hamong

/-! ## Tallies of a catalog -/

/-- The tallies of a run, in the order in which the requirements are first named. -/
def talliesOf (catalog : Catalog) (cases : List Case) (n : Nat) : List Tally :=
  catalog.rulesByRequirement.entries.map fun entry => tallyOf cases n entry.shown

/-- What tallies tell in a run over `n` records: one for each requirement of a rule. -/
structure TalliesTell (rules : List Rule) (cases : List Case) (n : Nat)
    (found : List Tally) : Prop where
  distinct : found.Pairwise fun t u => t.requirement.sameIdentity u.requirement = false
  enforced : ∀ t ∈ found, isEnforced rules t.requirement
  complete : ∀ rule ∈ rules, ∀ id ∈ rule.requirements,
    ∃ t ∈ found, t.requirement.sameIdentity id
  failures : ∀ t ∈ found, t.failures = (casesAbout cases t.requirement).length
  passes : ∀ t ∈ found, t.passes = .whole ((n - t.failures : Nat) : Int)

section Run

variable {fields : List Registry.Field} {checks definitions : List Value}
  {catalog : Catalog} (hmade : catalog.MadeOf fields checks definitions)

include hmade

/-- The rules that are filed under a requirement are those that enforce it. -/
theorem of_mem_rulesByRequirement
    {entry : Entry (List Rule)} (hentry : entry ∈ catalog.rulesByRequirement.entries) :
    entry.shown.isIdentifier ∧ entry.key = entry.shown.keyOf ∧
      entry.value = catalog.rules.filter fun rule => isAmong rule.requirements entry.shown := by
  rw [hmade.rulesByRequirement] at hentry
  obtain ⟨⟨rule, hrule, hname⟩, hkey, hvalue⟩ := of_mem_citedIndex hmade.ruleNames hentry
  exact ⟨hmade.ruleNames rule hrule _ hname, hkey, hvalue⟩

/-- A requirement that some rule enforces is filed, and no other one is. -/
theorem isEnforced_iff {id : Value} (hid : id.isIdentifier) :
    isEnforced catalog.rules id ↔
      ∃ entry ∈ catalog.rulesByRequirement.entries, entry.key = id.keyOf := by
  rw [isEnforced, ← has_citedIndex_keyOf hmade.ruleNames hid, ← hmade.rulesByRequirement,
    Index.has, List.any_eq_true]
  simp only [beq_iff_eq]

theorem talliesTell (n : Nat) :
    TalliesTell catalog.rules cases n (talliesOf catalog cases n) := by
  refine {
    distinct := ?_
    enforced := List.forall_mem_map.2 fun entry hmem => ?_
    complete := fun rule hrule id hid => ?_
    failures := List.forall_mem_map.2 fun _ _ => rfl
    passes := List.forall_mem_map.2 fun _ _ => rfl }
  · have hnodup : catalog.rulesByRequirement.keys.Nodup := by
      rw [hmade.rulesByRequirement]
      exact Index.nodup_keys_file _ _ _
    rw [Index.keys, List.Nodup, List.pairwise_map] at hnodup
    refine List.pairwise_map.2 (hnodup.imp_of_mem ?_)
    intro entry other hmem hother hne
    obtain ⟨hid, hkey, -⟩ := of_mem_rulesByRequirement hmade hmem
    obtain ⟨hotherId, hotherKey, -⟩ := of_mem_rulesByRequirement hmade hother
    rw [hkey, hotherKey] at hne
    rw [Bool.eq_false_iff]
    exact fun hsame => hne ((Value.keyOf_eq_iff hid hotherId).2 hsame)
  · obtain ⟨hid, hkey, -⟩ := of_mem_rulesByRequirement hmade hmem
    exact (isEnforced_iff hmade hid).2 ⟨entry, hmem, hkey⟩
  · have hidentifier := hmade.ruleNames rule hrule id hid
    have henforced : isEnforced catalog.rules id :=
      List.any_eq_true.2 ⟨rule, hrule, isAmong_of_mem hid hidentifier⟩
    obtain ⟨entry, hmem, hkey⟩ := (isEnforced_iff hmade hidentifier).1 henforced
    obtain ⟨hentry, hown, -⟩ := of_mem_rulesByRequirement hmade hmem
    exact ⟨_, List.mem_map_of_mem hmem,
      (Value.keyOf_eq_iff hentry hidentifier).1 (hown.symm.trans hkey)⟩

variable (hcases : ∀ c ∈ cases, ∃ rule ∈ catalog.rules, c.CarriesOf rule)

include hcases

/-- Counting by check and adding up over rules gives the tallies of the run. -/
theorem tallies_eq_ok (hdistinct : (catalog.rules.map fun rule => rule.id.keyOf).Nodup)
    (n : Nat) :
    tallies catalog (cases.map Case.checkId) (.ofNat n) = .ok (talliesOf catalog cases n) := by
  have hruleIds := List.forall_mem_map.1 hmade.ruleIds
  have hcheckIds : ∀ id ∈ cases.map Case.checkId, id.isIdentifier := by
    refine List.forall_mem_map.2 fun c hc => ?_
    obtain ⟨rule, hrule, hid, -⟩ := hcases c hc
    rw [hid]
    exact hruleIds rule hrule
  have hindex : (cases.map Case.checkId).foldlM (fun (index : Index Nat) id => do
        return index.alter (← id.key) id fun known => known.getD 0 + 1) Index.empty =
      .ok (Index.tallied (fun v : Value => v) (cases.map Case.checkId)) :=
    (Index.foldlM_alter_eq_ok_iff (fun v : Value => v) _ _ _ _).2 ⟨hcheckIds, rfl⟩
  rw [tallies, hindex, Result.ok_bind]
  refine Result.mapM_eq_ok_map fun entry hentry => ?_
  obtain ⟨-, -, hvalue⟩ := of_mem_rulesByRequirement hmade hentry
  have hcounts : entry.value.mapM (fun rule : Rule => do
        return ((Index.tallied (fun v : Value => v) (cases.map Case.checkId)).get?
          (← rule.id.key)).getD 0) =
      (.ok (entry.value.map fun rule =>
        cases.countP fun c => c.checkId.keyOf == rule.id.keyOf) : Result (List Nat)) := by
    refine Result.mapM_eq_ok_map fun rule hrule => ?_
    rw [hvalue] at hrule
    rw [Value.key_eq_ok_keyOf (hruleIds rule (List.mem_filter.1 hrule).1), Result.ok_bind,
      Index.getD_get?_tallied, List.countP_map]
    rfl
  have hsum : (entry.value.map fun rule =>
        cases.countP fun c => c.checkId.keyOf == rule.id.keyOf).foldl (· + ·) 0 =
      (casesAbout cases entry.shown).length := by
    rw [← List.sum_eq_foldl, hvalue,
      sum_countP_enforcing (fun terms => isAmong terms entry.shown) hdistinct hcases,
      List.countP_eq_length_filter]
    rfl
  have hrecords : (Value.ofNat n).number? = some (.whole n) := rfl
  have hsub (failed : Nat) :
      Number.sub (.whole n) (.whole failed) = .ok (.whole ((n : Int) - failed)) := rfl
  rw [hcounts, Result.ok_bind]
  simp only [hsum, hrecords, hsub, Result.ok_bind, passes_eq]
  rfl

/-- Of two identifiers of one key the same cases are about both. -/
theorem casesAbout_congr {v w : Value} (hv : v.isIdentifier) (hw : w.isIdentifier)
    (hkey : v.keyOf = w.keyOf) :
    casesAbout cases v = casesAbout cases w := by
  refine List.filter_congr fun c hc => ?_
  obtain ⟨rule, hrule, -, hterms⟩ := hcases c hc
  have hids : AllIdentifiers c.terms := hterms ▸ hmade.ruleNames rule hrule
  rw [← any_keyOf_eq_isAmong hids hv, ← any_keyOf_eq_isAmong hids hw, hkey]

/-- A requirement has counts in a run if and only if some rule enforces it. -/
theorem countsAmong_eq_ok (n : Nat) {r : Requirement} (hr : r.id.isIdentifier) :
    countsAmong (talliesOf catalog cases n) r =
      .ok (if isEnforced catalog.rules r.id then (tallyOf cases n r.id).value else .null) := by
  rw [countsAmong, Value.key_eq_ok_keyOf hr, Result.ok_bind]
  dsimp only
  refine congrArg Except.ok ?_
  cases hfind : (talliesOf catalog cases n).find? fun t =>
      t.requirement.key.toOption == some r.id.keyOf with
  | none =>
      have hnot : ¬isEnforced catalog.rules r.id := by
        rw [isEnforced_iff hmade hr]
        rintro ⟨entry, hmem, hkey⟩
        obtain ⟨hid, hown, -⟩ := of_mem_rulesByRequirement hmade hmem
        have hne := List.find?_eq_none.1 hfind _ (List.mem_map_of_mem hmem)
        rw [tallyOf, Value.key_eq_ok_keyOf hid, ← hown, hkey] at hne
        exact hne (beq_self_eq_true _)
      rw [if_neg hnot]
      rfl
  | some t =>
      obtain ⟨entry, hmem, rfl⟩ := List.mem_map.1 (List.mem_of_find?_eq_some hfind)
      obtain ⟨hid, hown, -⟩ := of_mem_rulesByRequirement hmade hmem
      have hkey := List.find?_some hfind
      rw [tallyOf, Value.key_eq_ok_keyOf hid, beq_iff_eq] at hkey
      have hkey : entry.shown.keyOf = r.id.keyOf := Option.some.inj hkey
      rw [if_pos ((isEnforced_iff hmade hr).2 ⟨entry, hmem, hown.trans hkey⟩), Option.map_some,
        Option.getD_some, Tally.value, Tally.value, tallyOf, tallyOf,
        casesAbout_congr hmade hcases hid hr hkey]

/-! ## Rows and matrices -/

/-- What a row tells about its requirement in a run over `n` records. -/
structure Row.Tells (rules : List Rule) (cases : List Case) (n : Nat) (row : Row) :
    Prop where
  failures : row.failures = .ofNat (casesAbout cases row.requirement.id).length
  unenforced : isEnforced rules row.requirement.id = false → row.failures = .ofNat 0
  no_rate_iff : row.passRate = none ↔ isEnforced rules row.requirement.id = false
  rate : ∀ rate, row.passRate = some rate →
    let failed := (casesAbout cases row.requirement.id).length
    IsRateOf (n - failed) failed rate

/-- A requirement has a row if its status is a text. -/
theorem Row.exists_ofRequirementWith (n : Nat) (populations : List FilePopulation)
    {r : Requirement} (hr : r.id.isIdentifier) (hstatus : ∃ s, r.vatLawStatus = .text s) :
    ∃ row, Row.ofRequirementWith catalog populations
        (countsAmong (talliesOf catalog cases n)) r = .ok row ∧
      row.requirement = r ∧ row.Tells catalog.rules cases n := by
  obtain ⟨s, hs⟩ := hstatus
  have hkey := Value.key_eq_ok_keyOf hr
  have hcounts := countsAmong_eq_ok hmade hcases n hr
  have hnew : r.isNew = .ok (lower s == "new") := by
    rw [Requirement.isNew, hs]
    rfl
  rw [Row.ofRequirementWith, Catalog.rulesFor, Catalog.controlsFor, hkey, hcounts, hnew]
  cases henforced : isEnforced catalog.rules r.id with
  | false =>
      refine ⟨_, rfl, rfl, ?_, fun _ => rfl, iff_of_true rfl henforced, ?_⟩
      · rw [casesAbout_eq_nil hcases henforced]
        rfl
      · rintro _ ⟨⟩
  | true =>
      let failed := (casesAbout cases r.id).length
      have hrate := Row.passRateOf_eq_ok (n - failed) failed
      have hfilled : (tallyOf cases n r.id).value.isFilled := rfl
      have hnot : isEnforced catalog.rules r.id ≠ false := by
        rw [henforced]
        exact Bool.noConfusion
      have houtcome : Row.outcomeOf (tallyOf cases n r.id).value =
          .ok (some (.float (Binary64.percent (n - failed) (n - failed + failed))),
            .ofNat failed) := by
        rw [Row.outcomeOf, if_pos hfilled]
        exact Result.bind_eq_ok.2 ⟨_, rfl, Result.bind_eq_ok.2 ⟨_, hrate, rfl⟩⟩
      simp only [Result.ok_bind, if_true, houtcome]
      refine ⟨_, rfl, rfl, rfl, fun h => absurd h hnot,
        iff_of_false (Option.some_ne_none _) hnot, ?_⟩
      rintro _ ⟨⟩
      exact isRateOf_percent (n - failed) failed

/-- A catalog has a matrix if the statuses of all requirements are texts. -/
theorem Matrix.exists_ofTallies
    (hstatus : ∀ field ∈ fields, ∃ s, field.vatLawStatus = .text s) (n : Nat)
    (populations : List FilePopulation) :
    ∃ matrix, Matrix.ofTallies catalog populations (talliesOf catalog cases n) = .ok matrix ∧
      matrix.rows.map Row.requirement = catalog.requirements ∧
      ∀ row ∈ matrix.rows, row.Tells catalog.rules cases n := by
  have hids := List.forall_mem_map.1 hmade.requirementIds
  have htexts : ∀ r ∈ catalog.requirements, ∃ s, r.vatLawStatus = .text s := by
    refine Yields.mapM (fun field hfield r hr => ?_) hmade.requirements
    rw [(Requirement.of_ofField_eq_ok hr).2.2]
    exact hstatus field hfield
  have hrow := fun r hr => Row.exists_ofRequirementWith hmade hcases n populations
    (hids r hr) (htexts r hr)
  obtain ⟨rows, hrows⟩ := Result.exists_mapM_eq_ok fun r hr =>
    let ⟨row, hof, _⟩ := hrow r hr
    ⟨row, hof⟩
  have heq := (Matrix.follows_foldl_add catalog rows).rows_eq
  refine ⟨rows.foldl Matrix.add (.start catalog),
    Matrix.ofRows_eq_ok_iff.2 ⟨rows, hrows, rfl⟩, ?_, ?_⟩
  · have hsame := Result.map_eq_map_of_mapM_eq_ok (g := Row.requirement)
      (k := fun r => r) hrows fun r hr row hof => ?_
    · rwa [List.map_id', ← heq] at hsame
    · obtain ⟨_, hof', hsame, -⟩ := hrow r hr
      rw [hof] at hof'
      cases hof'
      exact hsame
  · rw [heq]
    refine Yields.mapM (fun r hr row hof => ?_) hrows
    obtain ⟨_, hof', -, htells⟩ := hrow r hr
    rw [hof] at hof'
    cases hof'
    exact htells

end Run

/-! ## Runs -/

/-- Rules have the identifiers of their checks. -/
theorem map_id_eq_checkIds {checks : List Value} {rules : List Rule} {ids : List Value}
    (hrules : checks.mapM Rule.ofCheck = .ok rules)
    (hids : checks.mapM (fun check => requiredMember check "check_id") = .ok ids) :
    rules.map Rule.id = ids := by
  have hsame : rules.map (fun rule => (.ok rule.id : Result Value)) = ids.map .ok := by
    rw [← Result.mapM_eq_ok_iff.1 hids]
    exact Result.map_eq_map_of_mapM_eq_ok hrules
      fun check _ rule hrule => (Pint.of_ofCheck_eq_ok hrule).1.symm
  have hinjective : Function.Injective (Except.ok : Value → Result Value) :=
    fun _ _ h => Except.ok.inj h
  apply List.map_injective_iff.2 hinjective
  rw [List.map_map]
  exact hsame

/--
From the checks of a pack to the matrix of a run: the counts of each requirement are
those of the cases that name it, and the rates follow from the counts.
-/
theorem Matrix.ofTallies_tells {fields : List Registry.Field}
    {checks definitions ids : List Value} {version : Value} {catalog : Catalog}
    (hcatalog : Catalog.build fields checks definitions version = .ok catalog)
    (hids : checks.mapM (fun check => requiredMember check "check_id") = .ok ids)
    (hdistinct : ids.Pairwise fun v w => v.sameIdentity w = false)
    (hstatus : ∀ field ∈ fields, ∃ s, field.vatLawStatus = .text s)
    (data : Dataset) (n : Nat) (populations : List FilePopulation) :
    ((∀ id ∈ ids, id.withinDigits) → ∃ cases, Pint.runAll checks data = .ok cases) ∧
      ∀ cases, Pint.runAll checks data = .ok cases →
        ∃ found matrix,
          tallies catalog (cases.map Case.checkId) (.ofNat n) = .ok found ∧
          Matrix.ofTallies catalog populations found = .ok matrix ∧
          TalliesTell catalog.rules cases n found ∧
          matrix.rows.map Row.requirement = catalog.requirements ∧
          ∀ row ∈ matrix.rows, row.Tells catalog.rules cases n := by
  have hmade := Catalog.of_build_eq_ok hcatalog
  have heq := map_id_eq_checkIds hmade.rules hids
  subst heq
  constructor
  · intro hdigits
    refine Pint.exists_runAll data fun check hcheck => ?_
    obtain ⟨rule, hrule, hof⟩ := Result.exists_result_of_mem hmade.rules hcheck
    obtain ⟨-, r, hr, hid, -⟩ := Pint.of_ofCheck_eq_ok hof
    exact ⟨r, hr, hid ▸ hdigits _ (List.mem_map_of_mem hrule)⟩
  · intro cases hcases
    have hcarries := Pint.runAll_stamps hmade.rules data hcases
    have hkeys := Catalog.nodup_keys_of_distinct hmade hdistinct
    obtain ⟨matrix, hmatrix, hrows, htells⟩ :=
      Matrix.exists_ofTallies hmade hcarries hstatus n populations
    exact ⟨_, matrix, tallies_eq_ok hmade hcarries hkeys n, hmatrix, talliesTell hmade n,
      hrows, htells⟩

/-- A requirement that one check names twice and another one once, one that only a check
without cases names, and one that no check names, in a run over three records. -/
theorem Matrix.ofTallies_tells_thrice :
    let field (id : String) : Registry.Field :=
      { id := .text id, term := .text id, vatLawStatus := .text "New" }
    let fields := [field "IBT-001", field "IBT-002", field "IBT-003"]
    let check (id : String) (terms : List Value) : Value := .object [
      ("check_id", .text id), ("check_name", .text id), ("is_enabled", .bool true),
      ("pint_reference_terms", .list terms),
      ("parameters", .object [("field", .text "invoice_number")])]
    let checks := [check "UAE-UC1-CHK-001" [.text "IBT-001", .text "IBT-001"],
      check "UAE-UC1-CHK-030" [.text "IBT-001"], check "OTHER" [.text "IBT-002"]]
    let header : Record := ⟨[("invoice_id", .text "A")]⟩
    ∃ data catalog cases found matrix,
      Dataset.ofRecords [] [header] [] = .ok data ∧
      Catalog.build fields checks [] .null = .ok catalog ∧
      Pint.runAll checks data = .ok cases ∧
      tallies catalog (cases.map Case.checkId) (.ofNat 3) = .ok found ∧
      Matrix.ofTallies catalog [] found = .ok matrix ∧
      TalliesTell catalog.rules cases 3 found ∧
      (∀ row ∈ matrix.rows, row.Tells catalog.rules cases 3) ∧
      matrix.rows.map (fun row => (row.failures.number?, row.passRate)) = [
        (some (.whole 2), some (.float (Binary64.percent 1 3))),
        (some (.whole 0), some (.float .hundred)), (some (.whole 0), none)] := by
  intro field fields check checks header
  have hrun : (do
      let data ← Dataset.ofRecords [] [header] []
      let catalog ← Catalog.build fields checks [] .null
      let cases ← Pint.runAll checks data
      let found ← tallies catalog (cases.map Case.checkId) (.ofNat 3)
      let matrix ← Matrix.ofTallies catalog [] found
      return matrix.rows.map fun row => (row.failures.number?, row.passRate)) =
      (.ok [(some (.whole 2), some (.float (Binary64.percent 1 3))),
        (some (.whole 0), some (.float .hundred)), (some (.whole 0), none)] :
        Result (List (Option Number × Option Number))) := by
    decide +kernel
  obtain ⟨data, hdata, hrun⟩ := Result.bind_eq_ok.1 hrun
  obtain ⟨catalog, hcatalog, hrun⟩ := Result.bind_eq_ok.1 hrun
  obtain ⟨cases, hcases, hrun⟩ := Result.bind_eq_ok.1 hrun
  obtain ⟨found, hfound, hrun⟩ := Result.bind_eq_ok.1 hrun
  obtain ⟨matrix, hmatrix, hrun⟩ := Result.bind_eq_ok.1 hrun
  have hids : checks.mapM (fun check => requiredMember check "check_id") =
      .ok [.text "UAE-UC1-CHK-001", .text "UAE-UC1-CHK-030", .text "OTHER"] := rfl
  obtain ⟨-, htells⟩ := Matrix.ofTallies_tells hcatalog hids (by decide)
    (by simp [fields, field]) data 3 []
  obtain ⟨_, _, hfound', hmatrix', htallies, -, hrows⟩ := htells cases hcases
  rw [hfound] at hfound'
  cases hfound'
  rw [hmatrix] at hmatrix'
  cases hmatrix'
  exact ⟨data, catalog, cases, found, matrix, hdata, hcatalog, hcases, hfound, hmatrix,
    htallies, hrows, Except.ok.inj hrun⟩

/-- A status that is no text leaves no matrix, though there is a catalog and a run. -/
theorem Matrix.ofTallies_fails_on_status :
    let field : Registry.Field :=
      { id := .text "IBT-001", term := .text "Invoice number", vatLawStatus := .ofInt 5 }
    let check : Value := .object [
      ("check_id", .text "UAE-UC1-CHK-001"), ("check_name", .text "Invoice number"),
      ("pint_reference_terms", .list [.text "IBT-001"])]
    ∃ data catalog cases found,
      Dataset.ofRecords [] [] [] = .ok data ∧
      Catalog.build [field] [check] [] .null = .ok catalog ∧
      Pint.runAll [check] data = .ok cases ∧
      tallies catalog (cases.map Case.checkId) (.ofNat 1) = .ok found ∧
      Matrix.ofTallies catalog [] found = .error .notText := by
  intro field check
  have hrun : (do
      let data ← Dataset.ofRecords [] [] []
      let catalog ← Catalog.build [field] [check] [] .null
      let cases ← Pint.runAll [check] data
      let found ← tallies catalog (cases.map Case.checkId) (.ofNat 1)
      return (Matrix.ofTallies catalog [] found).map fun _ => ()) =
      (.ok (.error .notText) : Result (Result Unit)) := by
    decide +kernel
  obtain ⟨data, hdata, hrun⟩ := Result.bind_eq_ok.1 hrun
  obtain ⟨catalog, hcatalog, hrun⟩ := Result.bind_eq_ok.1 hrun
  obtain ⟨cases, hcases, hrun⟩ := Result.bind_eq_ok.1 hrun
  obtain ⟨found, hfound, hrun⟩ := Result.bind_eq_ok.1 hrun
  refine ⟨data, catalog, cases, found, hdata, hcatalog, hcases, hfound, ?_⟩
  cases hmatrix : Matrix.ofTallies catalog [] found with
  | ok matrix =>
      rw [hmatrix] at hrun
      cases hrun
  | error fault =>
      rw [hmatrix] at hrun
      cases hrun
      rfl

end InvoiceReadiness.Traceability
