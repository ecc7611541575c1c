import InvoiceReadiness.Proofs.Outcome
import InvoiceReadiness.Proofs.Value.Identity
import InvoiceReadiness.Scoring

/-!
# Severities of incidents

Scores know an incident by its severity only. The severities of incidents are read one by
one: a text that names a severity counts for it, and any other value counts for none. Only a
value that cannot be looked up among names stops the reading, which is a list or an object.
So what is read depends on neither the order of the incidents nor how they are divided.

Of the severities a score, counts, and of the counts a risk are made. The risk is the sum of
the weights of the incidents.

## Main results

* `severitiesOf_eq` — what is read, and when.
* `count_namedSeverities` — the count of a severity is the number of incidents with it.
* `scoreOf_eq`, `riskOf_eq` — the scores of incidents by what their severities are.
* `score_perm`, `risk_perm` — the order does not matter.
-/

namespace InvoiceReadiness

theorem Severity.ofName?_eq_some_iff {name : String} {s : Severity} :
    Severity.ofName? name = some s ↔ name = s.name := by
  constructor
  · intro h
    have hname := List.find?_some h
    exact (beq_iff_eq.1 hname).symm
  · rintro rfl
    cases s <;> decide

namespace Scoring

/-! ## Reading -/

/-- The severity that a value names; no value but a text names one. -/
def namedSeverity : Value → Option Severity
  | .text name => Severity.ofName? name
  | _ => none

/-- The severities that incidents name. -/
def namedSeverities (incidents : List Incident) : List Severity :=
  incidents.filterMap fun incident => namedSeverity incident.severity

/-- Incidents whose severities can be looked up among names. -/
def Gradable (incidents : List Incident) : Prop :=
  ∀ incident ∈ incidents, incident.severity.isIdentifier

variable {incidents more : List Incident}

instance : Decidable (Gradable incidents) :=
  inferInstanceAs (Decidable (∀ incident ∈ incidents, incident.severity.isIdentifier))

theorem gradable_append : Gradable (incidents ++ more) ↔ Gradable incidents ∧ Gradable more :=
  List.forall_mem_append

theorem gradable_perm (h : incidents.Perm more) : Gradable incidents ↔ Gradable more :=
  forall_congr' fun _ => imp_congr_left h.mem_iff

theorem severitiesOf_eq (incidents : List Incident) : severitiesOf incidents =
    if Gradable incidents then .ok (namedSeverities incidents) else .error .notAKey := by
  have hread (v : Value) : severityOf v =
      if v.isIdentifier then .ok (namedSeverity v) else .error .notAKey := by
    cases v <;> rfl
  have hreads := Result.mapM_guard (fun incident : Incident => hread incident.severity) incidents
  by_cases h : Gradable incidents
  · rw [severitiesOf, hreads.trans (if_pos h), if_pos h, Result.ok_bind, List.filterMap_map]
    rfl
  · rw [severitiesOf, hreads.trans (if_neg h), if_neg h]
    rfl

theorem severitiesOf_eq_ok_iff {severities : List Severity} :
    severitiesOf incidents = .ok severities ↔
      Gradable incidents ∧ severities = namedSeverities incidents := by
  rw [severitiesOf_eq, Result.guard_eq_ok_iff]

/-- Only the text that names a severity counts for it. -/
theorem namedSeverity_eq_some_iff {v : Value} {s : Severity} :
    namedSeverity v = some s ↔ v.same (.text s.name) := by
  rw [Value.same_text_iff]
  cases v with
  | text name => rw [namedSeverity, Severity.ofName?_eq_some_iff, Value.text.injEq]
  | _ => exact iff_of_false nofun nofun

/-- The count of a severity is the number of incidents with it. -/
theorem count_namedSeverities (incidents : List Incident) (s : Severity) :
    (namedSeverities incidents).count s = incidents.countP fun incident =>
      incident.severity.same (.text s.name) := by
  rw [namedSeverities, List.count_filterMap]
  refine List.countP_congr fun incident _ => ?_
  rw [beq_iff_eq]
  exact namedSeverity_eq_some_iff

theorem count_severitiesOf {severities : List Severity}
    (h : severitiesOf incidents = .ok severities) (s : Severity) :
    severities.count s = incidents.countP fun incident =>
      incident.severity.same (.text s.name) := by
  rw [(severitiesOf_eq_ok_iff.1 h).2, count_namedSeverities]

theorem namedSeverities_append (incidents more : List Incident) :
    namedSeverities (incidents ++ more) = namedSeverities incidents ++ namedSeverities more :=
  List.filterMap_append

theorem namedSeverities_perm (h : incidents.Perm more) :
    (namedSeverities incidents).Perm (namedSeverities more) := h.filterMap _

/-! ## Scores and risks of severities -/

theorem penalty_perm {xs ys : List Severity} (h : xs.Perm ys) : penalty xs = penalty ys :=
  h.foldr_eq' (fun s _ t _ total => Nat.add_left_comm t.penalty s.penalty total) 0

theorem score_perm {xs ys : List Severity} (h : xs.Perm ys) : score xs = score ys := by
  rw [score, score, penalty_perm h]

theorem risk_perm {xs ys : List Severity} (h : xs.Perm ys) : risk xs = risk ys :=
  h.foldr_eq' (fun s _ t _ total => Nat.add_left_comm t.riskWeight s.riskWeight total) 0

/-- A risk is at most ten for each severity. -/
theorem risk_le (severities : List Severity) : risk severities ≤ 10 * severities.length := by
  induction severities with
  | nil => exact Nat.le_refl 0
  | cons s rest ih =>
      have hweight : s.riskWeight ≤ 10 := by cases s <;> decide
      rw [risk, List.foldr_cons, ← risk, List.length_cons]
      omega

/-- The weights of severities, sorted by severity. -/
theorem risk_eq_counts (severities : List Severity) : risk severities =
    severities.count .critical * 10 + severities.count .high * 6 +
      severities.count .medium * 3 + severities.count .low * 1 := by
  induction severities with
  | nil => rfl
  | cons s rest ih =>
      rw [risk, List.foldr_cons, ← risk, ih]
      cases s <;> simp [Severity.riskWeight] <;> omega

/-- The risk that is computed of the counts is the risk of the severities. -/
theorem riskOfCounts_countsValue (severities : List Severity) :
    (countsValue severities).record.bind riskOfCounts = .ok (.whole (risk severities)) := by
  let counts : Record := ⟨Severity.all.map fun s => (s.name, .ofNat (severities.count s))⟩
  have hrun : (countsValue severities).record.bind riskOfCounts = riskOfCounts counts := rfl
  have hstep (sum : Nat) (s : Severity) :
      (do (Number.whole sum).add (← weighedCount counts s)) =
        .ok (.whole (sum + severities.count s * s.riskWeight : Nat)) := by
    have hweighed : weighedCount counts s =
        .ok (.whole (severities.count s * s.riskWeight : Nat)) := by
      cases s <;> rfl
    rw [hweighed]
    rfl
  have hzero : Number.zero = .whole (0 : Nat) := rfl
  rw [hrun, riskOfCounts, hzero, risk_eq_counts, Severity.all]
  simp only [List.foldlM_cons, List.foldlM_nil, hstep, Result.ok_bind, Nat.zero_add]
  rfl

/-! ## Scores and risks of incidents -/

/-- The score of incidents. -/
def scoreOf (incidents : List Incident) : Result Nat := do
  return score (← severitiesOf incidents)

/-- The risk of incidents, computed of the counts by severity. -/
def riskOf (incidents : List Incident) : Result Number := do
  (countsValue (← severitiesOf incidents)).record.bind riskOfCounts

theorem scoreOf_eq (incidents : List Incident) : scoreOf incidents =
    if Gradable incidents then .ok (score (namedSeverities incidents)) else .error .notAKey := by
  rw [scoreOf, severitiesOf_eq]
  split <;> rfl

theorem riskOf_eq (incidents : List Incident) : riskOf incidents =
    if Gradable incidents then .ok (.whole (risk (namedSeverities incidents)))
    else .error .notAKey := by
  rw [riskOf, severitiesOf_eq]
  split
  · exact riskOfCounts_countsValue _
  · rfl

end Scoring

end InvoiceReadiness
