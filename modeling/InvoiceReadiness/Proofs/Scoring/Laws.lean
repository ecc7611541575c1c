import InvoiceReadiness.Proofs.Scoring.Health

/-!
# Laws of scores

A score and a health are between zero and a hundred. Neither depends on the order of the
incidents, and neither rises when more of them come. A risk adds up. With as many incidents,
more invoices are no worse for the health.

A health depends on incidents and invoices by the risk per invoice alone, and it is antitone
in it. That holds for the health that is computed, although each operation rounds, and for the
one by exact division. So both have the same laws (`LawfulHealth.of_risk`).

The laws are about incidents whose severities can be looked up. If one of them cannot, there
is neither a score nor a risk, and no health either, unless there are no invoices.

## Main results

* `LawfulHealth.of_risk` — the laws of a health that is antitone in the risk per invoice.
* `health_eq_exactHealthOf` — the computed health is the exact one.
* `scores_lawful` — all laws.
-/

namespace InvoiceReadiness.Scoring

/-! ## Risks per invoice -/

section Risk

variable {risk risk' invoices invoices' : Nat}

/-- Risks per invoice are compared crosswise. -/
theorem lostUnits_le (hinvoices : 0 < invoices) (hinvoices' : 0 < invoices')
    (h : risk * invoices' ≤ risk' * invoices) :
    lostUnits risk invoices ≤ lostUnits risk' invoices' := by
  refine Nat.mul_le_mul_left 2 (Binary64.nearestUnits_le_nearestUnits hinvoices hinvoices' ?_)
  rw [Nat.mul_right_comm, Nat.mul_right_comm risk']
  exact Nat.mul_le_mul_right unitsPerOne h

theorem roundedHealth_le (hinvoices : 0 < invoices) (hinvoices' : 0 < invoices')
    (h : risk * invoices' ≤ risk' * invoices) :
    roundedHealth risk' invoices' ≤ roundedHealth risk invoices := by
  have hlost := lostUnits_le hinvoices hinvoices' h
  exact clampPercent_mono (withSign_mono Binary64.wholeOfUnits_mono (by omega))

/-- Rounding a quotient of either sign does not depend on how it is written. -/
theorem withSign_roundHalfEven_mul {factor : Nat} (hfactor : 0 < factor) (den : Nat)
    (num : Int) : withSign (fun n => roundHalfEven n (factor * den)) (factor * num) =
      withSign (fun n => roundHalfEven n den) num := by
  have hsign : (factor * num : Int) < 0 ↔ num < 0 := by
    rw [← Int.mul_lt_mul_left (Int.natCast_pos.2 hfactor) (b := num), Int.mul_zero]
  simp only [withSign, hsign, Int.natAbs_mul, Int.natAbs_natCast, roundHalfEven_mul_left hfactor]

theorem exactHealth_le (hinvoices : 0 < invoices) (hinvoices' : 0 < invoices')
    (h : risk * invoices' ≤ risk' * invoices) :
    exactHealth risk' invoices' ≤ exactHealth risk invoices := by
  have hkept : (invoices : Int) * ((100 * invoices' : Nat) - (2 * risk' : Nat) : Int) ≤
      invoices' * ((100 * invoices : Nat) - (2 * risk : Nat) : Int) := by
    have hall : invoices * (100 * invoices') = invoices' * (100 * invoices) := by
      rw [Nat.mul_left_comm, Nat.mul_left_comm invoices', Nat.mul_comm invoices]
    have hlost : invoices' * (2 * risk) ≤ invoices * (2 * risk') := by
      rw [Nat.mul_left_comm, Nat.mul_left_comm invoices, Nat.mul_comm invoices',
        Nat.mul_comm invoices]
      exact Nat.mul_le_mul_left 2 h
    rw [Int.mul_sub, Int.mul_sub, ← Int.natCast_mul, ← Int.natCast_mul, ← Int.natCast_mul,
      ← Int.natCast_mul, hall]
    omega
  unfold exactHealth
  rw [← withSign_roundHalfEven_mul hinvoices invoices',
    ← withSign_roundHalfEven_mul hinvoices' invoices, Nat.mul_comm invoices' invoices]
  exact clampPercent_mono (withSign_mono roundHalfEven_mono hkept)

theorem clampPercent_bounds (n : Int) : 0 ≤ clampPercent n ∧ clampPercent n ≤ 100 := by
  unfold clampPercent
  omega

end Risk

variable (incidents : List Incident)

/-- Any list of incidents that can be written down has a risk in the range of binary64. -/
theorem inRange_of_length {invoices : Nat} (hinvoices : 0 < invoices)
    (h : incidents.length ≤ twoPow 1000) : InRange (risk (namedSeverities incidents)) invoices := by
  have hrisk : risk (namedSeverities incidents) ≤ twoPow 1004 := by
    have hsplit : twoPow 1004 = twoPow 4 * twoPow 1000 := twoPow_add 4 1000
    have hfour : twoPow 4 = 16 := rfl
    rw [hsplit, hfour]
    have hweights := risk_le (namedSeverities incidents)
    have hnamed : (namedSeverities incidents).length ≤ incidents.length :=
      List.length_filterMap_le _ _
    omega
  have hunits : risk (namedSeverities incidents) * unitsPerOne ≤ twoPow 2078 * invoices := by
    have hsplit : twoPow 2078 = twoPow 1004 * unitsPerOne := by
      rw [unitsPerOne, ← twoPow_add]
    rw [hsplit]
    exact Nat.le_trans (Nat.mul_le_mul_right unitsPerOne hrisk)
      (Nat.le_mul_of_pos_right _ hinvoices)
  have hbound := Binary64.nearestUnits_le hinvoices hunits
    (Binary64.representable_twoPow (by decide)).2
  have hdouble : twoPow 2079 = twoPow 1 * twoPow 2078 := twoPow_add 1 2078
  have htwo : twoPow 1 = 2 := rfl
  rw [htwo] at hdouble
  calc lostUnits (risk (namedSeverities incidents)) invoices ≤ 2 * twoPow 2078 :=
        Nat.mul_le_mul_left 2 hbound
    _ = twoPow 2079 := hdouble.symm
    _ < unitsBound := twoPow_lt_twoPow (by decide)

/-! ## Health of incidents -/

/-- The health of incidents by exact division. -/
def exactHealthOf (incidents : List Incident) (invoices : Nat) : Result Int :=
  if invoices = 0 then .ok 100
  else do return exactHealth (risk (← severitiesOf incidents)) invoices

/-- Severities are read only if there is an invoice. -/
theorem health_eq (invoices : Nat) : health incidents (.ofNat invoices) =
    if invoices = 0 then .ok 100
    else if Gradable incidents then
      if InRange (risk (namedSeverities incidents)) invoices then
        .ok (roundedHealth (risk (namedSeverities incidents)) invoices)
      else .error .numberTooLarge
    else .error .notAKey := by
  have hrun : health incidents (.ofNat invoices) =
      if !(Number.whole invoices).isNonzero then .ok 100
      else (do healthOf (← severitiesOf incidents) (.whole invoices)) := rfl
  rw [hrun, severitiesOf_eq]
  by_cases hnone : invoices = 0
  · rw [if_pos hnone, hnone]
    rfl
  · have hnonzero : (Number.whole invoices).isNonzero = true :=
      bne_iff_ne.2 (Int.natCast_ne_zero.2 hnone)
    rw [if_neg hnone, hnonzero, Bool.not_true, if_neg Bool.false_ne_true]
    split
    · exact healthOf_eq _ (Nat.pos_of_ne_zero hnone)
    · rfl

theorem exactHealthOf_eq (invoices : Nat) : exactHealthOf incidents invoices =
    if invoices = 0 then .ok 100
    else if Gradable incidents then .ok (exactHealth (risk (namedSeverities incidents)) invoices)
    else .error .notAKey := by
  rw [exactHealthOf, severitiesOf_eq]
  refine if_congr Iff.rfl rfl ?_
  split <;> rfl

/-- The health that is computed is the exact one among up to `2 ^ 44` invoices. -/
theorem health_eq_exactHealthOf {invoices : Nat} (hlength : incidents.length ≤ twoPow 1000)
    (hinvoices : invoices ≤ twoPow 44) :
    health incidents (.ofNat invoices) = exactHealthOf incidents invoices := by
  rw [health_eq, exactHealthOf_eq]
  by_cases hnone : invoices = 0
  · rw [if_pos hnone, if_pos hnone]
  · have hpos := Nat.pos_of_ne_zero hnone
    rw [if_neg hnone, if_neg hnone, if_pos (inRange_of_length incidents hpos hlength),
      roundedHealth_eq_exactHealth hpos hinvoices]

/-! ## Laws -/

/-- The laws of a health of incidents among invoices. -/
structure LawfulHealth (health : List Incident → Nat → Result Int) : Prop where
  bounded : ∀ A n h, health A n = .ok h → 0 ≤ h ∧ h ≤ 100
  reordered : ∀ A B n, A.Perm B → health A n = health B n
  extended : ∀ A B n h', health (A ++ B) n = .ok h' → ∃ h, health A n = .ok h ∧ h' ≤ h
  moreInvoices : ∀ A m n h, 0 < m → m ≤ n → health A m = .ok h →
    ∃ h', health A n = .ok h' ∧ h ≤ h'

/-- A health that is antitone in the risk per invoice is lawful, if no smaller one is further
out of range. -/
theorem LawfulHealth.of_risk (inRange : Nat → Nat → Prop)
    [∀ risk invoices, Decidable (inRange risk invoices)] (ofRisk : Nat → Nat → Int) (fault : Fault)
    {health : List Incident → Nat → Result Int}
    (heq : ∀ A n, health A n =
      if n = 0 then .ok 100
      else if Gradable A then
        if inRange (risk (namedSeverities A)) n then .ok (ofRisk (risk (namedSeverities A)) n)
        else .error fault
      else .error .notAKey)
    (hbounds : ∀ risk invoices, 0 ≤ ofRisk risk invoices ∧ ofRisk risk invoices ≤ 100)
    (hantitone : ∀ {risk invoices risk' invoices'}, 0 < invoices → 0 < invoices' →
      risk * invoices' ≤ risk' * invoices → inRange risk' invoices' →
        inRange risk invoices ∧ ofRisk risk' invoices' ≤ ofRisk risk invoices) :
    LawfulHealth health := by
  have hok {A : List Incident} {n : Nat} {h : Int} (hn : 0 < n) : health A n = .ok h ↔
      Gradable A ∧ inRange (risk (namedSeverities A)) n ∧
        h = ofRisk (risk (namedSeverities A)) n := by
    rw [heq, if_neg (Nat.ne_of_gt hn)]
    by_cases hgradable : Gradable A
    · rw [if_pos hgradable, Result.guard_eq_ok_iff, and_iff_right hgradable]
    · rw [if_neg hgradable]
      exact iff_of_false nofun fun h => hgradable h.1
  have hnone (A : List Incident) : health A 0 = .ok 100 := heq A 0
  exact {
    bounded := by
      intro A n h hh
      rcases Nat.eq_zero_or_pos n with rfl | hn
      · rw [hnone, Except.ok.injEq] at hh
        omega
      · obtain ⟨-, -, rfl⟩ := (hok hn).1 hh
        exact hbounds _ _
    reordered := by
      intro A B n hperm
      simp only [heq, gradable_perm hperm, risk_perm (namedSeverities_perm hperm)]
    extended := by
      intro A B n h' hh'
      rcases Nat.eq_zero_or_pos n with rfl | hn
      · rw [hnone, Except.ok.injEq] at hh'
        exact ⟨100, hnone A, by omega⟩
      · obtain ⟨hgradable, hrange, rfl⟩ := (hok hn).1 hh'
        have hrisk : risk (namedSeverities A) * n ≤ risk (namedSeverities (A ++ B)) * n := by
          rw [namedSeverities_append, risk_append]
          exact Nat.mul_le_mul_right n (Nat.le_add_right _ _)
        obtain ⟨hless, hle⟩ := hantitone hn hn hrisk hrange
        exact ⟨_, (hok hn).2 ⟨(gradable_append.1 hgradable).1, hless, rfl⟩, hle⟩
    moreInvoices := by
      intro A m n h hm hmn hh
      have hn : 0 < n := Nat.lt_of_lt_of_le hm hmn
      obtain ⟨hgradable, hrange, rfl⟩ := (hok hm).1 hh
      obtain ⟨hless, hle⟩ := hantitone hn hm (Nat.mul_le_mul_left _ hmn) hrange
      exact ⟨_, (hok hn).2 ⟨hgradable, hless, rfl⟩, hle⟩ }

theorem lawfulHealth_health : LawfulHealth fun A n => health A (.ofNat n) :=
  .of_risk InRange roundedHealth .numberTooLarge health_eq (fun _ _ => clampPercent_bounds _)
    fun hn hn' hle hrange =>
      ⟨Nat.lt_of_le_of_lt (lostUnits_le hn hn' hle) hrange, roundedHealth_le hn hn' hle⟩

theorem lawfulHealth_exactHealthOf : LawfulHealth exactHealthOf :=
  .of_risk (fun _ _ => True) exactHealth .numberTooLarge
    (fun A n => by rw [exactHealthOf_eq, if_pos trivial]) (fun _ _ => clampPercent_bounds _)
    fun hn hn' hle _ => ⟨trivial, exactHealth_le hn hn' hle⟩

/-- The laws of a score of incidents. -/
structure LawfulScore (score : List Incident → Result Nat) : Prop where
  returns : ∀ A, Returns (score A) ↔ Gradable A
  bounded : ∀ A s, score A = .ok s → s ≤ 100
  reordered : ∀ A B, A.Perm B → score A = score B
  extended : ∀ A B s', score (A ++ B) = .ok s' → ∃ s, score A = .ok s ∧ s' ≤ s

/-- The laws of a risk of incidents. -/
structure LawfulRisk (risk : List Incident → Result Number) : Prop where
  returns : ∀ A, Returns (risk A) ↔ Gradable A
  reordered : ∀ A B, A.Perm B → risk A = risk B
  additive : ∀ A B, Gradable (A ++ B) → ∃ m n : Nat, risk A = .ok (.whole m) ∧
    risk B = .ok (.whole n) ∧ risk (A ++ B) = .ok (.whole (m + n : Nat))

theorem lawfulScore_scoreOf : LawfulScore scoreOf where
  returns A := by rw [scoreOf_eq, Returns.guard_iff]
  bounded A s hs := by
    rw [scoreOf_eq, Result.guard_eq_ok_iff] at hs
    rw [hs.2]
    exact score_le _
  reordered A B hperm := by
    simp only [scoreOf_eq, gradable_perm hperm, score_perm (namedSeverities_perm hperm)]
  extended A B s' hs' := by
    rw [scoreOf_eq, Result.guard_eq_ok_iff, gradable_append, namedSeverities_append] at hs'
    obtain ⟨⟨hgradable, -⟩, rfl⟩ := hs'
    exact ⟨_, (scoreOf_eq A).trans (if_pos hgradable), score_append_le _ _⟩

theorem lawfulRisk_riskOf : LawfulRisk riskOf where
  returns A := by rw [riskOf_eq, Returns.guard_iff]
  reordered A B hperm := by
    simp only [riskOf_eq, gradable_perm hperm, risk_perm (namedSeverities_perm hperm)]
  additive A B hgradable := by
    obtain ⟨hA, hB⟩ := gradable_append.1 hgradable
    refine ⟨_, _, (riskOf_eq A).trans (if_pos hA), (riskOf_eq B).trans (if_pos hB), ?_⟩
    rw [riskOf_eq, if_pos hgradable, namedSeverities_append, risk_append]

/-! ## All laws -/

/-- Incidents have a health if there are no invoices, or if their severities can be looked up
and their risk is not out of range. -/
theorem returns_health_iff (invoices : Nat) : Returns (health incidents (.ofNat invoices)) ↔
    invoices = 0 ∨ Gradable incidents ∧ InRange (risk (namedSeverities incidents)) invoices := by
  rw [health_eq]
  by_cases hnone : invoices = 0
  · rw [if_pos hnone]
    exact iff_of_true ⟨100, rfl⟩ (.inl hnone)
  · rw [if_neg hnone, or_iff_right hnone]
    by_cases hgradable : Gradable incidents
    · rw [if_pos hgradable, Returns.guard_iff, and_iff_right hgradable]
    · rw [if_neg hgradable]
      exact iff_of_false nofun fun h => hgradable h.1

theorem returns_exactHealthOf_iff (invoices : Nat) :
    Returns (exactHealthOf incidents invoices) ↔ invoices = 0 ∨ Gradable incidents := by
  rw [exactHealthOf_eq]
  by_cases hnone : invoices = 0
  · rw [if_pos hnone]
    exact iff_of_true ⟨100, rfl⟩ (.inl hnone)
  · rw [if_neg hnone, Returns.guard_iff, or_iff_right hnone]

/-- **Scores are bounded, independent of the order, and monotone.** A score and a health are
between zero and a hundred; neither changes if incidents are reordered, and neither rises if
incidents are appended; risks add up; and more invoices never lower a health. There are such
numbers if the severities can be looked up, where the risk of up to `2 ^ 1000` incidents is
in range. The health by exact division, which has no range, has the same laws. The computed
one agrees with it among up to `2 ^ 44` invoices. -/
theorem scores_lawful :
    LawfulScore scoreOf ∧ LawfulRisk riskOf ∧
    (LawfulHealth fun A n => health A (.ofNat n)) ∧
    (∀ A n, Returns (health A (.ofNat n)) ↔
      n = 0 ∨ Gradable A ∧ InRange (risk (namedSeverities A)) n) ∧
    (∀ A n, 0 < n → A.length ≤ twoPow 1000 → InRange (risk (namedSeverities A)) n) ∧
    LawfulHealth exactHealthOf ∧
    (∀ A n, Returns (exactHealthOf A n) ↔ n = 0 ∨ Gradable A) ∧
    ∀ A n, A.length ≤ twoPow 1000 → n ≤ twoPow 44 →
      health A (.ofNat n) = exactHealthOf A n :=
  ⟨lawfulScore_scoreOf, lawfulRisk_riskOf, lawfulHealth_health, returns_health_iff,
    fun A _ => inRange_of_length A, lawfulHealth_exactHealthOf, returns_exactHealthOf_iff,
    fun A _ => health_eq_exactHealthOf A⟩

/-- An incident of a severity. -/
def ofSeverity (severity : Value) : Incident := ⟨severity, .null, .null, .null, .null⟩

/-- A critical incident after a high one and one of an unknown severity lowers their score and
their health, and a sixth invoice raises the health. -/
theorem scores_lawful_critical :
    let A := [ofSeverity (.text "High"), ofSeverity (.text "Urgent")]
    let B := [ofSeverity (.text "Critical")]
    scoreOf (A ++ B) = .ok 60 ∧ (∃ s, scoreOf A = .ok s ∧ 60 ≤ s) ∧
      health (A ++ B) (.ofNat 5) = .ok 94 ∧ exactHealthOf (A ++ B) 5 = .ok 94 ∧
      (∃ h, health A (.ofNat 5) = .ok h ∧ 94 ≤ h) ∧
      ∃ h, health (A ++ B) (.ofNat 6) = .ok h ∧ 94 ≤ h := by
  intro A B
  obtain ⟨hscores, -, hhealth, -, -, -, -, hexact⟩ := scores_lawful
  have hscore : scoreOf (A ++ B) = .ok 60 := by decide +kernel
  have hfive : health (A ++ B) (.ofNat 5) = .ok 94 := by decide +kernel
  have hsame := hexact (A ++ B) 5 (by decide +kernel) (by decide +kernel)
  exact ⟨hscore, hscores.extended A B 60 hscore, hfive, hsame.symm.trans hfive,
    hhealth.extended A B 5 94 hfive,
    hhealth.moreInvoices (A ++ B) 5 6 94 (by decide) (by decide) hfive⟩

/-- An incident whose severity is a list has no score, no risk, and no health among invoices. -/
theorem ungradable_unscored :
    let incident := ofSeverity (.list [])
    scoreOf [incident] = .error .notAKey ∧ riskOf [incident] = .error .notAKey ∧
      health [incident] (.ofNat 1) = .error .notAKey ∧
      ¬∀ A, ∃ s, scoreOf A = .ok s ∧ s ≤ 100 := by
  intro incident
  have hscore : scoreOf [incident] = .error .notAKey := by decide +kernel
  have hrisk : riskOf [incident] = .error .notAKey := by decide +kernel
  have hhealth : health [incident] (.ofNat 1) = .error .notAKey := by decide +kernel
  refine ⟨hscore, hrisk, hhealth, fun hall => ?_⟩
  obtain ⟨s, hs, -⟩ := hall [incident]
  rw [hscore] at hs
  cases hs

end InvoiceReadiness.Scoring
