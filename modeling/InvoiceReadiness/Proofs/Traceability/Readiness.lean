import InvoiceReadiness.Proofs.Numeric.Ordering
import InvoiceReadiness.Service.Traceability

/-!
# The gate before a run

A run has three preconditions: there is a mapping profile, it maps as many of the mandatory
requirements as it has to, and the columns of these are populated as well as they have to
be, if that is known. The gate reports a percentage that is below the required one. As long
as percentages are numbers that is the same as not reaching it: the gate reports exactly
the unmet preconditions, in their order, and opens if there are none.

What is not a number reaches nothing, and is below nothing either. Such a percentage can be
requested, is not reported, and leaves the gate open.

## Main results

* `lt_whole_iff` — what it takes to be below a required percentage.
* `Preparation.obstacles_eq` — what the gate reports.
* `readiness_slip` — where the gate is right.
-/

namespace InvoiceReadiness

theorem Number.fixedText_float (places : Nat) (x : Binary64) :
    (Number.float x).fixedText places = .ok (x.fixedText places) := rfl

namespace Traceability

/-! ## Percentages -/

/-- A percentage is at least the required one. -/
def Reaches (percent : Binary64) (required : Nat) : Prop :=
  (Number.whole required).exact.AtMost (Number.float percent).exact

instance {percent : Binary64} {required : Nat} : Decidable (Reaches percent required) :=
  decidable_of_iff ((Number.whole required).le (.float percent)) Number.le_iff

/-- A percentage is below the required one if it is a number that does not reach it. -/
theorem lt_whole_iff {percent : Binary64} {required : Nat} :
    (Number.float percent).lt (.whole required) ↔
      ¬Reaches percent required ∧ percent ≠ .nan := by
  rw [Number.lt_iff, Reaches]
  constructor
  · rintro ⟨hbelow, hreaches⟩
    refine ⟨hreaches, ?_⟩
    rintro rfl
    exact hbelow
  · rintro ⟨hreaches, hnumber⟩
    have hexact : (Number.float percent).exact ≠ .nan := by
      cases percent with
      | nan => exact absurd rfl hnumber
      | _ => exact ExactValue.noConfusion
    have hrequired : (Number.whole required).exact ≠ .nan := ExactValue.noConfusion
    exact ⟨(ExactValue.atMost_or_atMost hexact hrequired).resolve_right hreaches, hreaches⟩

/-- What is not a number reaches no percentage. -/
theorem ne_nan_of_reaches {percent : Binary64} {required : Nat}
    (h : Reaches percent required) : percent ≠ .nan := by
  rintro rfl
  exact h

/-! ## Preconditions -/

/-- What has to be so before a run starts. -/
inductive Precondition where
  | profile
  | mapping
  | population
  deriving DecidableEq

namespace Precondition

/-- The preconditions in the order of reports. -/
def all : List Precondition := [profile, mapping, population]

theorem mem_all (c : Precondition) : c ∈ all := by
  cases c <;> decide

end Precondition

/-- What is known before a run. -/
structure Preparation where
  hasProfile : Bool
  coverage : Binary64
  population : Option Binary64

namespace Preparation

variable (p : Preparation)

/-- What the gate finds in the way of the run. -/
def obstacles : Result (List Obstacle) :=
  Traceability.obstacles (.bool p.hasProfile) (.ofFloat p.coverage)
    ((p.population.map Value.ofFloat).getD .null)

/-- The body of a request that tells what is known. -/
def request : Value :=
  .object [
    ("has_mapping_profile", .bool p.hasProfile),
    ("mandatory_mapping_coverage", .ofFloat p.coverage),
    ("mandatory_population_pct", (p.population.map Value.ofFloat).getD .null)]

/-- A precondition is met. -/
def Meets : Precondition → Prop
  | .profile => p.hasProfile
  | .mapping => Reaches p.coverage 100
  | .population => ∀ percent ∈ p.population, Reaches percent 99

/-- What a precondition is about is no percentage, or one that is a number. -/
def Measures : Precondition → Prop
  | .profile => True
  | .mapping => p.coverage ≠ .nan
  | .population => ∀ percent ∈ p.population, percent ≠ .nan

/-- The population as a text in a report. -/
def populationText : String := (p.population.map (Binary64.fixedText 0)).getD ""

/-- How a precondition that is not met is reported. -/
def obstacle : Precondition → Obstacle
  | .profile => {
      message := "No active mapping profile found."
      link := "/mapping?tab=create"
      linkLabel := "Create Mapping" }
  | .mapping => {
      message := s!"Mandatory DR mapping coverage is {p.coverage.fixedText 0}% (required: 100%)."
      link := "/mapping"
      linkLabel := "Fix Mapping" }
  | .population => {
      message := s!"Mandatory DR population coverage is {p.populationText}% (required: 99%)."
      link := "/upload"
      linkLabel := "Re-upload Data" }

variable {p}

instance : DecidablePred p.Meets
  | .profile => inferInstanceAs (Decidable (p.hasProfile = true))
  | .mapping => inferInstanceAs (Decidable (Reaches _ _))
  | .population => inferInstanceAs (Decidable (∀ percent ∈ p.population, Reaches percent _))

instance : DecidablePred p.Measures
  | .profile => .isTrue trivial
  | .mapping => inferInstanceAs (Decidable (p.coverage ≠ .nan))
  | .population => inferInstanceAs (Decidable (∀ percent ∈ p.population, percent ≠ .nan))

theorem Meets.measures {c : Precondition} (h : p.Meets c) : p.Measures c := by
  cases c with
  | profile => exact trivial
  | mapping => exact ne_nan_of_reaches h
  | population => exact fun percent hpercent => ne_nan_of_reaches (h percent hpercent)

variable (p)

/-- The preconditions that are not met. -/
def unmet : List Precondition := Precondition.all.filter fun c => ¬p.Meets c

/-- The preconditions that are not met as far as it can be told. -/
def reported : List Precondition := p.unmet.filter fun c => p.Measures c

variable {p}

theorem mem_unmet {c : Precondition} : c ∈ p.unmet ↔ ¬p.Meets c := by
  simp [unmet, Precondition.mem_all]

theorem mem_reported {c : Precondition} : c ∈ p.reported ↔ ¬p.Meets c ∧ p.Measures c := by
  simp [reported, mem_unmet]

theorem reported_eq_nil_iff : p.reported = [] ↔ ∀ c, p.Measures c → p.Meets c := by
  simp only [List.eq_nil_iff_forall_not_mem, mem_reported]
  exact forall_congr' fun c => by rw [not_and', not_not]

/-- Everything that is not met is reported if all percentages are numbers. -/
theorem reported_eq_unmet_iff : p.reported = p.unmet ↔ ∀ c, p.Measures c := by
  rw [reported, List.filter_eq_self]
  simp only [mem_unmet, decide_eq_true_eq]
  refine forall_congr' fun c => ⟨fun h => ?_, fun h _ => h⟩
  by_cases hc : p.Meets c
  · exact hc.measures
  · exact h hc

/-! ## Reports -/

variable (p)

/-- What is reported of a precondition. -/
def report? (c : Precondition) : Option Obstacle :=
  if ¬p.Meets c ∧ p.Measures c then some (p.obstacle c) else none

theorem map_reported : p.reported.map p.obstacle =
    Precondition.all.flatMap fun c => (p.report? c).toList := by
  rw [reported, unmet, List.filter_filter]
  induction Precondition.all with
  | nil => rfl
  | cons c rest ih =>
      rw [List.flatMap_cons, ← ih, List.filter_cons, report?]
      by_cases hmeets : p.Meets c <;> by_cases hmeasures : p.Measures c <;>
        simp [hmeets, hmeasures]

/-- A percentage can always be held against a required one. -/
theorem fallsShort_ofFloat (percent : Binary64) (required : Nat) :
    fallsShort (.ofFloat percent) required =
      .ok (if ¬Reaches percent required ∧ percent ≠ .nan then some (.float percent)
        else none) := by
  have hlt := @lt_whole_iff percent required
  by_cases h : ¬Reaches percent required ∧ percent ≠ .nan
  · rw [if_pos h]
    simp [fallsShort, Value.ofFloat, Value.number?, hlt.2 h]
  · rw [if_neg h]
    simp [fallsShort, Value.ofFloat, Value.number?, hlt.not.2 h]

theorem profileObstacle_eq : profileObstacle (.bool p.hasProfile) = p.report? .profile := by
  rcases p with ⟨_ | _, coverage, population⟩ <;> rfl

theorem mappingObstacle_eq :
    mappingObstacle (.ofFloat p.coverage) = .ok (p.report? .mapping) := by
  rw [mappingObstacle, fallsShort_ofFloat, Result.ok_bind]
  by_cases h : ¬Reaches p.coverage requiredMapping ∧ p.coverage ≠ .nan
  · have htext (shown : String) :
        s!"Mandatory DR mapping coverage is {shown}% (required: {requiredMapping}%)." =
          s!"Mandatory DR mapping coverage is {shown}% (required: 100%)." := by
      simp only [String.append_assoc]
      rfl
    have hreport : p.report? .mapping = some {
        message := s!"Mandatory DR mapping coverage is {p.coverage.fixedText 0}% (required: 100%)."
        link := "/mapping"
        linkLabel := "Fix Mapping" } := if_pos h
    rw [if_pos h, hreport, ← htext]
    simp only [Number.fixedText_float, Result.ok_bind]
    rfl
  · have hreport : p.report? .mapping = none := if_neg h
    rw [if_neg h, hreport]
    rfl

theorem populationObstacle_eq :
    populationObstacle ((p.population.map Value.ofFloat).getD .null) =
      .ok (p.report? .population) := by
  obtain ⟨hasProfile, coverage, _ | percent⟩ := p
  · rfl
  let p : Preparation := ⟨hasProfile, coverage, some percent⟩
  change populationObstacle (.ofFloat percent) = .ok (p.report? .population)
  have hnull : ¬(Value.ofFloat percent).isNull := Bool.false_ne_true
  have hfalls : (¬p.Meets .population ∧ p.Measures .population) ↔
      ¬Reaches percent requiredPopulation ∧ percent ≠ .nan := by
    simp [p, Meets, Measures, requiredPopulation]
  rw [populationObstacle, if_neg hnull, fallsShort_ofFloat, Result.ok_bind]
  by_cases h : ¬Reaches percent requiredPopulation ∧ percent ≠ .nan
  · have htext (shown : String) :
        s!"Mandatory DR population coverage is {shown}% " ++
            s!"(required: {requiredPopulation}%)." =
          s!"Mandatory DR population coverage is {shown}% (required: 99%)." := by
      simp only [String.append_assoc]
      rfl
    have hreport : p.report? .population = some {
        message := s!"Mandatory DR population coverage is {percent.fixedText 0}% (required: 99%)."
        link := "/upload"
        linkLabel := "Re-upload Data" } := if_pos (hfalls.2 h)
    rw [if_pos h, hreport, ← htext]
    simp only [Number.fixedText_float, Result.ok_bind]
    rfl
  · have hreport : p.report? .population = none := if_neg (hfalls.not.2 h)
    rw [if_neg h, hreport]
    rfl

/-- The gate never fails, and reports the preconditions that are not met as far as it can be
told. -/
theorem obstacles_eq : p.obstacles = .ok (p.reported.map p.obstacle) := by
  rw [obstacles, Traceability.obstacles, mappingObstacle_eq, Result.ok_bind,
    populationObstacle_eq, Result.ok_bind, profileObstacle_eq, map_reported]
  simp [Precondition.all]
  rfl

/-- Whatever is known can be requested, and the reply is the report of the gate. -/
theorem answerReadiness_request :
    Service.answerReadiness p.request = .ok (readinessValue (p.reported.map p.obstacle)) := by
  have hread : Service.answerReadiness p.request =
      (do return readinessValue (← p.obstacles) : Service.Reply Value) := by
    obtain ⟨hasProfile, coverage, _ | percent⟩ := p <;> rfl
  rw [hread, obstacles_eq]
  rfl

/-- The report is complete if all percentages are numbers. -/
theorem map_reported_eq_map_unmet_iff :
    p.reported.map p.obstacle = p.unmet.map p.obstacle ↔ ∀ c, p.Measures c := by
  rw [← reported_eq_unmet_iff]
  refine ⟨fun h => ?_, fun h => by rw [h]⟩
  have hlength : p.reported.length = p.unmet.length := by
    simpa using congrArg List.length h
  exact List.filter_sublist.eq_of_length hlength

theorem can_run_iff :
    (readinessValue (p.reported.map p.obstacle)).member "can_run" = .ok (.bool true) ↔
      ∀ c, p.Measures c → p.Meets c := by
  have hmember : (readinessValue (p.reported.map p.obstacle)).member "can_run" =
      .ok (.bool (p.reported.map p.obstacle).isEmpty) := rfl
  rw [hmember, ← reported_eq_nil_iff]
  simp

end Preparation

/-! ## The gate -/

/-- The gate reports the unmet preconditions, and opens if there are none, except for
percentages that are no numbers. It neither reports these nor minds them. So its report is
complete if and only if all percentages are numbers, and its decision is right if and only if
this is so, or there is something else to report. -/
theorem readiness_slip (p : Preparation) :
    ∃ found, p.obstacles = .ok found ∧
      Service.answerReadiness p.request = .ok (readinessValue found) ∧
      found = p.reported.map p.obstacle ∧
      (found = p.unmet.map p.obstacle ↔ ∀ c, p.Measures c) ∧
      ((readinessValue found).member "can_run" = .ok (.bool true) ↔
        ∀ c, p.Measures c → p.Meets c) ∧
      (((readinessValue found).member "can_run" = .ok (.bool true) ↔ ∀ c, p.Meets c) ↔
        (∀ c, p.Measures c) ∨ ∃ c, p.Measures c ∧ ¬p.Meets c) := by
  refine ⟨_, p.obstacles_eq, p.answerReadiness_request, rfl,
    p.map_reported_eq_map_unmet_iff, p.can_run_iff, ?_⟩
  rw [p.can_run_iff]
  constructor
  · intro hright
    by_cases hopen : ∀ c, p.Measures c → p.Meets c
    · exact .inl fun c => (hright.1 hopen c).measures
    · push Not at hopen
      exact .inr hopen
  · rintro (hmeasures | ⟨c, hmeasures, hmeets⟩)
    · exact ⟨fun h c => h c (hmeasures c), fun h c _ => h c⟩
    · exact iff_of_false (fun h => hmeets (h c hmeasures)) (fun h => hmeets (h c))

/-- A mapping that is not a number does not reach what is required, and the gate opens. -/
theorem unmeasured_mapping_opens :
    let p : Preparation := ⟨true, .nan, none⟩
    ¬p.Meets .mapping ∧ p.obstacles = .ok [] ∧
      Service.answerReadiness (.object [("has_mapping_profile", .bool true),
        ("mandatory_mapping_coverage", .text "nan")]) =
        .ok (.object [("can_run", .bool true), ("reasons", .list [])]) :=
  ⟨id, rfl, rfl⟩

end Traceability

end InvoiceReadiness
