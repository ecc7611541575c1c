import InvoiceReadiness.Proofs.Expression.Amounts
import InvoiceReadiness.Proofs.Matching.Leads
import InvoiceReadiness.Proofs.Matching.Ranking
import InvoiceReadiness.Proofs.Value.Showing

/-!
# Confidence

The confidence of a lead is a similarity, the mean of two similarities, or what a distance
leaves of one. All of them are between zero and one, and rounding to two decimal places keeps
them there. The parameters of the check decide which pairs are flagged but have no part in the
bounds.

The share of a distance is taken of one more than the threshold, which is zero for the
threshold minus one. Distances are not negative, so the comparison before it lets no distance
through to a negative threshold, and what dividing by zero would do makes no difference.

## Main results

* `isUpTo_supplierSimilarity`, `isUpTo_distanceConfidence` — the bounds of scores.
* `SearchRule.isGraded_matches?` — the bounds of matches.
* `matchTrnFormatBy_eq` — zero is never divided by.
* `runSearch_confidence_bounded` — the leads of a search.
-/

namespace InvoiceReadiness.Matching

open Binary64

/-! ## Scores -/

section Scores

variable {a b : Record}

theorem isUpTo_nameSimilarity : Yields (IsUpTo 1) (nameSimilarity a b) := by
  simp only [nameSimilarity, Yields.bind_iff, Yields.ite_iff, Yields.pure_iff]
  intro first _ second _
  exact ⟨fun _ => isUpTo_zero 1, fun _ => isUpTo_similarity first second⟩

theorem isUpTo_supplierSimilarity : Yields (IsUpTo 1) (supplierSimilarity a b) := by
  simp only [supplierSimilarity, Yields.bind_iff, Yields.ite_iff, Yields.pure_iff]
  intro first _
  exact ⟨fun _ => isUpTo_nameSimilarity,
    fun _ second _ => ⟨fun _ => isUpTo_fullScore, fun _ => isUpTo_nameSimilarity⟩⟩

theorem isUpTo_numberSimilarity : Yields (IsUpTo 1) (numberSimilarity a b) := by
  simp only [numberSimilarity, Yields.bind_iff, Yields.pure_iff]
  intro first _ second _
  exact isUpTo_similarity first second

/-- The mean of two scores. -/
theorem isUpTo_mean {x y : Binary64} (hx : x.IsUpTo 1) (hy : y.IsUpTo 1) :
    ((x.add y).div (ofInt 2)).IsUpTo 1 := by
  have hsum : (x.add y).IsUpTo 2 := hx.add hy rfl representable_wholeUnits_two
  exact IsUpTo.half (n := 1) hsum representable_wholeUnits_one

/-- A distance within the threshold leaves a share of one, and the share is defined: the
threshold is not negative then. -/
theorem isUpTo_distanceConfidence {distance : Nat} {threshold : Int}
    (h : (distance : Int) ≤ threshold) :
    ∃ x, distanceConfidence distance threshold = .ok x ∧ x.IsUpTo 1 := by
  let share := ofRatio false distance (threshold + 1).natAbs
  have hshare : share.IsUpTo 1 := by
    apply isUpTo_ofRatio ?_ ?_ representable_wholeUnits_one
    · omega
    · omega
  have hdiv : Number.div (.whole distance) (.whole (threshold + 1)) = .ok (.float share) := by
    have hsign : (decide ((distance : Int) < 0) != decide (threshold + 1 < 0)) = false := by
      rw [decide_eq_false (by omega), decide_eq_false (by omega)]
      rfl
    simp only [Number.div, hsign, Int.natAbs_natCast]
    exact if_pos hshare.isFinite
  have hone : Number.toBinary64 (.whole 1) = .ok (ofInt 1) := by decide +kernel
  have hrest : Number.sub (.whole 1) (.float share) = .ok (.float ((ofInt 1).sub share)) := by
    rw [Number.sub_whole_float, hone]
    rfl
  let rest := (ofInt 1).sub share
  refine ⟨if rest.compare? zero == some .gt then rest else zero, ?_, ?_⟩
  · rw [distanceConfidence, hdiv, Result.ok_bind, hrest]
    rfl
  · split
    · exact hshare.oneSub
    · exact isUpTo_zero 1

end Scores

/-! ## Matches -/

section Matches

variable {earlier later params : Record}

/-- A match with a confidence between zero and one, or none. -/
def IsGraded (found : Option Match) : Prop := ∀ m, found = some m → m.1.IsUpTo 1

theorem isGraded_none : IsGraded none := by
  intro m hm
  cases hm

theorem isGraded_some {x : Binary64} (hx : x.IsUpTo 1) (message : String) :
    IsGraded (some (x, message)) := by
  rintro _ ⟨⟩
  exact hx

/-- Scores are rounded to two decimal places. -/
theorem isGraded_rounded {x : Binary64} (hx : x.IsUpTo 1) (message : String) :
    IsGraded (some (x.roundPlaces 2, message)) :=
  isGraded_some (hx.roundPlaces representable_wholeUnits_one 2) message

theorem matchDuplicate_isGraded : Yields IsGraded (matchDuplicate earlier later params) := by
  unfold matchDuplicate
  rw [Yields.bind_iff]
  intro vendor hvendor
  simp only [Yields.bind_iff, Yields.ite_iff, Yields.pure_iff]
  refine fun below _ => ⟨fun _ => isGraded_none, fun _ => ?_⟩
  split
  · simp only [Yields.bind_iff, Yields.ite_iff, Yields.pure_iff]
    refine fun tolerance _ agrees _ => ⟨fun _ => isGraded_none, fun _ first _ second _ => ?_⟩
    split
    · simp only [Yields.bind_iff, Yields.ite_iff, Yields.pure_iff]
      refine fun window _ => ⟨fun _ => isGraded_none, fun _ numbers hnumbers _ _ _ _ => ?_⟩
      exact isGraded_rounded (isUpTo_mean (isUpTo_supplierSimilarity hvendor)
        (isUpTo_numberSimilarity hnumbers)) _
    · exact Yields.pure_iff.2 isGraded_none
  · exact Yields.pure_iff.2 isGraded_none

theorem matchNumberVariant_isGraded :
    Yields IsGraded (matchNumberVariant earlier later params) := by
  simp only [matchNumberVariant, Yields.bind_iff, Yields.ite_iff, Yields.pure_iff]
  refine fun first _ second _ => ⟨fun _ => isGraded_none, fun _ vendor _ below _ => ?_⟩
  refine ⟨fun _ => isGraded_none, fun _ score hscore below _ => ?_⟩
  exact ⟨fun _ => isGraded_none, fun _ => isGraded_rounded (isUpTo_numberSimilarity hscore) _⟩

theorem matchTrnFormat_isGraded : Yields IsGraded (matchTrnFormat earlier later params) := by
  simp only [matchTrnFormat, Yields.bind_iff, Yields.ite_iff, Yields.pure_iff]
  refine fun first _ second _ => ⟨fun _ => isGraded_none, fun _ names _ below _ => ?_⟩
  refine ⟨fun _ => isGraded_none, fun _ threshold _ => ⟨fun _ => isGraded_none, ?_⟩⟩
  intro hnear confidence hconfidence name _
  obtain ⟨x, hx, hupto⟩ := isUpTo_distanceConfidence (Int.not_lt.1 hnear)
  obtain rfl := Except.ok.inj (hx.symm.trans hconfidence)
  exact isGraded_rounded hupto _

theorem SearchRule.isGraded_matches? (rule : SearchRule) :
    Yields IsGraded (rule.matches? earlier later params) := by
  cases rule with
  | fuzzyDuplicate => exact matchDuplicate_isGraded
  | invoiceNumberVariant => exact matchNumberVariant_isGraded
  | trnFormatSimilarity => exact matchTrnFormat_isGraded

end Matches

/-! ## Dividing by zero -/

section Division

/-- The comparison of registration numbers with another way to grade a distance. -/
def matchTrnFormatBy (grade : Nat → Int → Result Binary64) (earlier later params : Record) :
    Result (Option Match) := do
  let first ← trimmedText (earlier.get "seller_trn")
  let second ← trimmedText (later.get "seller_trn")
  if first.isEmpty || second.isEmpty || first == second then return none
  let names ← nameSimilarity earlier later
  if ← belowThreshold names (params.get "vendor_similarity_threshold") then return none
  let threshold ← (params.get "trn_distance_threshold").toWhole
  let distance := editDistance (trnForm first.toList) (trnForm second.toList)
  if threshold < distance then return none
  let confidence ← grade distance threshold
  let name ← (later.get "seller_name").shown
  return some (confidence.roundPlaces 2,
    s!"Supplier '{name}' appears with TRN '{second}' and '{first}' (edit distance {distance})")

theorem matchTrnFormat_eq : matchTrnFormat = matchTrnFormatBy distanceConfidence := rfl

/-- Only distances within the threshold are graded. -/
theorem matchTrnFormatBy_congr {grade grade' : Nat → Int → Result Binary64}
    (h : ∀ (distance : Nat) (threshold : Int), (distance : Int) ≤ threshold →
      grade distance threshold = grade' distance threshold) :
    matchTrnFormatBy grade = matchTrnFormatBy grade' := by
  funext earlier later params
  unfold matchTrnFormatBy
  refine bind_congr fun first => bind_congr fun second => ?_
  refine if_congr Iff.rfl rfl (bind_congr fun names => bind_congr fun below => ?_)
  refine if_congr Iff.rfl rfl (bind_congr fun threshold => ?_)
  dsimp only
  split
  · rfl
  · rename_i hnear
    rw [h _ _ (Int.not_lt.1 hnear)]

/-- The confidence of a distance, where dividing by zero gives `onZero`. -/
def gradeOr (onZero : Result Binary64) (distance : Nat) (threshold : Int) : Result Binary64 :=
  if threshold + 1 = 0 then onZero else distanceConfidence distance threshold

/-- What dividing by zero gives makes no difference. -/
theorem matchTrnFormatBy_eq (onZero : Result Binary64) :
    matchTrnFormatBy (gradeOr onZero) = matchTrnFormat := by
  rw [matchTrnFormat_eq]
  apply matchTrnFormatBy_congr
  intro distance threshold h
  have hdivisor : threshold + 1 ≠ 0 := by omega
  rw [gradeOr, if_neg hdivisor]

end Division

/-! ## Searches that end well -/

section Returning

variable {params : Record}

/-- Parameters that convert to numbers. -/
structure Converts (params : Record) : Prop where
  vendor : Returns (params.get "vendor_similarity_threshold").toBinary64
  number : Returns (params.get "invoice_number_similarity_threshold").toBinary64
  tolerance : Returns (params.get "amount_tolerance").toBinary64
  distance : Returns (params.get "trn_distance_threshold").toWhole
  window : Returns (params.get "date_window_days").toWhole

/-- A header whose cells can be shown, with a total in the range of binary64 if it has one. -/
structure IsSearchable (header : Record) : Prop where
  digits : ∀ name, (header.get name).withinDigits
  total : ∀ n, (header.get "total_incl_vat").toNumber? = some n → Returns n.toBinary64

theorem returns_normalized {v : Value} (hv : v.withinDigits) (form : List Char → List Char) :
    Returns (normalized form v) := by
  simp [normalized, Value.returns_shown hv]

theorem returns_trimmedText {v : Value} (hv : v.withinDigits) : Returns (trimmedText v) := by
  simp [trimmedText, Value.returns_shown (Value.withinDigits_orElse (w := .text "") hv rfl)]

theorem returns_dateOf? {v : Value} (hv : v.withinDigits) : Returns (dateOf? v) := by
  simp [dateOf?, Value.returns_shown hv]

theorem returns_belowThreshold {threshold : Value} (h : Returns threshold.toBinary64)
    (x : Binary64) : Returns (belowThreshold x threshold) := by
  simp [belowThreshold, h]

namespace IsSearchable

variable {a b : Record} (ha : IsSearchable a) (hb : IsSearchable b)

include ha hb

theorem returns_nameSimilarity : Returns (nameSimilarity a b) := by
  simp [nameSimilarity, returns_normalized (ha.digits _), returns_normalized (hb.digits _)]

theorem returns_supplierSimilarity : Returns (supplierSimilarity a b) := by
  simp [supplierSimilarity, returns_normalized (ha.digits _), returns_normalized (hb.digits _),
    returns_nameSimilarity ha hb]

theorem returns_numberSimilarity : Returns (numberSimilarity a b) := by
  simp [numberSimilarity, returns_normalized (ha.digits _), returns_normalized (hb.digits _)]

theorem returns_matchDuplicate (hparams : Converts params) :
    Returns (matchDuplicate a b params) := by
  simp only [matchDuplicate, Returns.bind_iff, Returns.ite_iff]
  refine ⟨returns_supplierSimilarity ha hb, fun vendor _ =>
    ⟨returns_belowThreshold hparams.vendor vendor, fun below _ => ⟨fun _ => ⟨none, rfl⟩, ?_⟩⟩⟩
  intro _
  split
  · rename_i first second hfirst hsecond
    have hagree (tolerance : Binary64) : Returns (first.agree second (.float tolerance)) :=
      Number.exists_agree _ (Number.exists_sub (ha.total _ hfirst) (hb.total _ hsecond))
    have htext : Returns second.text :=
      Number.exists_text (Value.withinDigits_of_toNumber? (hb.digits _) hsecond)
    simp only [Returns.bind_iff, Returns.ite_iff]
    refine ⟨hparams.tolerance, fun tolerance _ => ⟨hagree tolerance, fun agrees _ =>
      ⟨fun _ => ⟨none, rfl⟩, fun _ => ⟨returns_dateOf? (ha.digits _), fun d _ =>
        ⟨returns_dateOf? (hb.digits _), fun e _ => ?_⟩⟩⟩⟩⟩
    split
    · simp [hparams.window, returns_numberSimilarity ha hb, Value.returns_shown (ha.digits _),
        htext]
    · exact ⟨none, rfl⟩
  · exact ⟨none, rfl⟩

theorem returns_matchNumberVariant (hparams : Converts params) :
    Returns (matchNumberVariant a b params) := by
  simp [matchNumberVariant, returns_trimmedText (ha.digits _), returns_trimmedText (hb.digits _),
    returns_supplierSimilarity ha hb, returns_numberSimilarity ha hb,
    returns_belowThreshold hparams.vendor, returns_belowThreshold hparams.number]

theorem returns_matchTrnFormat (hparams : Converts params) :
    Returns (matchTrnFormat a b params) := by
  have hgrade {distance : Nat} {threshold : Int} (h : ¬threshold < distance) :
      Returns (distanceConfidence distance threshold) := by
    obtain ⟨x, hx, -⟩ := isUpTo_distanceConfidence (Int.not_lt.1 h)
    exact ⟨x, hx⟩
  simp +contextual [matchTrnFormat, returns_trimmedText (ha.digits _),
    returns_trimmedText (hb.digits _), returns_nameSimilarity ha hb,
    returns_belowThreshold hparams.vendor, hparams.distance, Value.returns_shown (hb.digits _),
    hgrade]

theorem returns_matches? (hparams : Converts params) (rule : SearchRule) :
    Returns (rule.matches? a b params) := by
  cases rule with
  | fuzzyDuplicate => exact returns_matchDuplicate ha hb hparams
  | invoiceNumberVariant => exact returns_matchNumberVariant ha hb hparams
  | trnFormatSimilarity => exact returns_matchTrnFormat ha hb hparams

end IsSearchable

/-- A search with parameters that convert ends well if all headers can be searched. -/
theorem exists_runSearch {rule : SearchRule} {check : Record} {data : Dataset}
    (hrule : check.get "rule_type" = .text rule.name) (hparams : parametersOf check = .ok params)
    (hconverts : Converts params) (hheaders : ∀ header ∈ data.headers, IsSearchable header) :
    ∃ leads, runSearch check.value data (.text "AP") = .ok leads := by
  rw [runSearch_eq_leadsAmong hrule hparams]
  apply exists_leadsAmong
  apply List.pairwise_of_forall_mem_list
  intro a ha b hb
  have hab := (hheaders a ha).returns_matches? (hheaders b hb) hconverts rule
  have hba := (hheaders b hb).returns_matches? (hheaders a ha) hconverts rule
  exact ⟨hab, hba⟩

end Returning

/-! ## The leads of a search -/

theorem isUpTo_confidence {check datasetType : Value} {data : Dataset} {leads : List Lead}
    (h : runSearch check data datasetType = .ok leads) :
    ∀ lead ∈ leads, lead.confidence.IsUpTo 1 := by
  intro lead hlead
  rcases runSearch_cases h with rfl | ⟨given, rule, params, -, -, -, hleads⟩
  · cases hlead
  · obtain ⟨pair, -, found, hfound, rfl⟩ := (mem_leads_iff hleads lead).1 hlead
    show found.1.IsUpTo 1
    exact rule.isGraded_matches? hfound found rfl

/-- **Confidence is between zero and one.** This holds of every lead of a search, for all checks,
parameters and datasets. There is no less than a result for parameters that convert to numbers
and headers whose cells can be read. The comparison of registration numbers is the one that
divides, and it comes to the same with any result `onZero` for a divisor that is zero: negative
thresholds let no pair through to the division. -/
theorem runSearch_confidence_bounded :
    (∀ (check datasetType : Value) (data : Dataset) (leads : List Lead),
      runSearch check data datasetType = .ok leads → ∀ lead ∈ leads,
        Number.zero.le (.float lead.confidence) ∧
          (Number.float lead.confidence).le (.whole 1)) ∧
    (∀ (rule : SearchRule) (check params : Record) (data : Dataset),
      check.get "rule_type" = .text rule.name → parametersOf check = .ok params →
      Converts params → (∀ header ∈ data.headers, IsSearchable header) →
        ∃ leads, runSearch check.value data (.text "AP") = .ok leads) ∧
    matchTrnFormat = matchTrnFormatBy distanceConfidence ∧
    ∀ onZero, matchTrnFormatBy (gradeOr onZero) = matchTrnFormat := by
  refine ⟨?_, ?_, matchTrnFormat_eq, matchTrnFormatBy_eq⟩
  · intro check datasetType data leads h lead hlead
    exact (isUpTo_confidence h lead hlead).bounds
  · intro rule check params data hrule hparams hconverts hheaders
    exact exists_runSearch hrule hparams hconverts hheaders

/-- One supplier with two registration numbers that differ in a digit: within a threshold of two
there is a lead, and the threshold whose divisor is zero lets no pair through. -/
theorem runSearch_confidence_bounded_trn :
    let header (id trn : String) : Record :=
      ⟨[("invoice_id", .text id), ("seller_name", .text "Acme"), ("seller_trn", .text trn)]⟩
    let check (threshold : Int) : Record :=
      ⟨[("rule_type", .text "trn_format_similarity"),
        ("parameters", .object [("trn_distance_threshold", .ofInt threshold)])]⟩
    ∃ data leads, Dataset.ofRecords [] [header "1" "100", header "2" "101"] [] = .ok data ∧
      runSearch (check 2).value data (.text "AP") = .ok leads ∧
      leads.map Lead.confidence = [Binary64.decimal 67 2] ∧
      (∀ lead ∈ leads, Number.zero.le (.float lead.confidence) ∧
        (Number.float lead.confidence).le (.whole 1)) ∧
      runSearch (check (-1)).value data (.text "AP") = .ok [] := by
  intro header check
  have hsearches : (do
      let data ← Dataset.ofRecords [] [header "1" "100", header "2" "101"] []
      let leads ← runSearch (check 2).value data (.text "AP")
      let none ← runSearch (check (-1)).value data (.text "AP")
      return (leads.map Lead.confidence, none.map Lead.confidence) :
        Result (List Binary64 × List Binary64)) = .ok ([Binary64.decimal 67 2], []) := by
    decide +kernel
  obtain ⟨data, hdata, h⟩ := Result.bind_eq_ok.1 hsearches
  obtain ⟨leads, hleads, h⟩ := Result.bind_eq_ok.1 h
  obtain ⟨none, hnone, h⟩ := Result.bind_eq_ok.1 h
  obtain ⟨hconfidence, hempty⟩ := Prod.ext_iff.1 (Except.ok.inj h)
  obtain rfl := List.map_eq_nil_iff.1 hempty
  have hdigits (id trn : String) : (header id trn).value.withinDigits := rfl
  have hsearchable (id trn : String) : IsSearchable (header id trn) := by
    refine ⟨Value.withinDigits_cell (hdigits id trn), ?_⟩
    intro n hn
    cases hn
  have hconverts (threshold : Int) : Converts
      ⟨[("vendor_similarity_threshold", .ofFloat (Binary64.decimal 85 2)),
        ("invoice_number_similarity_threshold", .ofFloat (Binary64.decimal 9 1)),
        ("trn_distance_threshold", .ofInt threshold), ("date_window_days", .ofNat 7),
        ("amount_tolerance", .ofFloat (Binary64.decimal 1 2))]⟩ :=
    ⟨⟨_, rfl⟩, ⟨_, rfl⟩, ⟨_, rfl⟩, ⟨_, rfl⟩, ⟨_, rfl⟩⟩
  obtain ⟨hbounded, hreturns, -⟩ := runSearch_confidence_bounded
  obtain ⟨leads', hleads'⟩ := hreturns .trnFormatSimilarity (check 2) _ data rfl rfl (hconverts 2)
    (by
      rw [(Dataset.headers_of_ofRecords hdata).1]
      simp [hsearchable])
  obtain rfl := Except.ok.inj (hleads.symm.trans hleads')
  exact ⟨data, leads, hdata, hleads, hconfidence, hbounded _ _ _ _ hleads, hnone⟩

end InvoiceReadiness.Matching
