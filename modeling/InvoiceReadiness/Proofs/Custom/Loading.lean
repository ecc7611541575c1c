import InvoiceReadiness.Proofs.Expression.Faults
import InvoiceReadiness.Proofs.Value.Identity
import InvoiceReadiness.Service.Validation

/-!
# What configurations of checks come to

A configuration is loaded as a check, or refused with a message that says which of its
members is unusable. Refusals deny the request that carries the configuration.

Refusals are meant to be all that can go wrong, and they are not: some members are of a
kind that the loader meets unprepared. A list or an object names nothing and cannot even be
looked up, a number or truth value is no sequence of fields, and a whole number beyond the
range of binary64 is no tolerance. Such a configuration ends the request with a fault.

## Main results

* `Check.ofRecord_ends` — what a configuration comes to, and why.
* `loadAll_ends` — configurations are loaded in order up to the first that is unusable.
* `Service.run_ends_as_loaded` — what a request to run checks comes to by its checks.
-/

namespace InvoiceReadiness.Custom

/-! ## Names -/

theorem RuleType.ofName?_eq_some_iff {s : String} {type : RuleType} :
    RuleType.ofName? s = some type ↔ s = type.name := by
  constructor
  · intro h
    have hname := List.find?_some h
    exact (beq_iff_eq.1 hname).symm
  · rintro rfl
    cases type <;> decide

theorem Scope.ofName?_eq_some_iff {s : String} {scope : Scope} :
    Scope.ofName? s = some scope ↔ s = scope.name := by
  constructor
  · intro h
    have hname := List.find?_some h
    exact (beq_iff_eq.1 hname).symm
  · rintro rfl
    cases scope <;> decide

namespace Check

/-- How the member of a configuration ends that has to name one of a known set. -/
inductive NamedEnds {α : Type} (nameOf : α → String) (refusal : String → String → ConfigFault)
    (given label : Value) : Result α → Prop where
  | found {a : α} (h : given = .text (nameOf a)) : NamedEnds nameOf refusal given label (.ok a)
  | unknown {shownLabel shown : String} (hid : given.isIdentifier)
      (hunknown : ∀ a, given ≠ .text (nameOf a)) (hlabel : label.shown = .ok shownLabel)
      (hshown : given.quotedText = .ok shown) :
      NamedEnds nameOf refusal given label (.error (.config (refusal shownLabel shown)))
  | notAKey (h : given.isIdentifier = false) :
      NamedEnds nameOf refusal given label (.error .notAKey)
  | unshown (h : ¬ (label.withinDigits ∧ given.withinDigits)) :
      NamedEnds nameOf refusal given label (.error .digitLimit)

theorem named_of_not_isIdentifier {α : Type} {given : Value} {ofName? : String → Option α}
    {label : Value} {refusal : String → String → ConfigFault} (h : given.isIdentifier = false) :
    named given ofName? label refusal = .error .notAKey := by
  cases given with
  | list items => rfl
  | object members => rfl
  | _ => cases h

theorem named_ends {α : Type} {ofName? : String → Option α} {nameOf : α → String}
    (hof : ∀ {s a}, ofName? s = some a ↔ s = nameOf a) (given label : Value)
    (refusal : String → String → ConfigFault) :
    NamedEnds nameOf refusal given label (named given ofName? label refusal) := by
  by_cases hid : given.isIdentifier
  · unfold named
    rw [Value.key_eq_ok_keyOf hid, Result.ok_bind]
    dsimp only
    split
    · rename_i a hfound
      refine .found ?_
      split at hfound
      · rw [hof.1 hfound]
      · cases hfound
    · rename_i hnone
      have hunknown : ∀ a, given ≠ .text (nameOf a) := by
        rintro a rfl
        exact absurd (hnone.symm.trans (hof.2 rfl)) nofun
      cases hlabel : label.shown with
      | error fault =>
          obtain ⟨rfl, hbeyond⟩ := Value.beyond_of_shown hlabel
          exact .unshown fun hdigits => hbeyond hdigits.1
      | ok shownLabel =>
          cases hshown : given.quotedText with
          | error fault =>
              obtain ⟨rfl, hbeyond⟩ := Value.beyond_of_quotedText hshown
              exact .unshown fun hdigits => hbeyond hdigits.2
          | ok shown => exact .unknown hid hunknown hlabel hshown
  · rw [Bool.not_eq_true] at hid
    rw [named_of_not_isIdentifier hid]
    exact .notAKey hid

end Check

/-! ## Configurations -/

/-- What messages call a configuration. -/
def labelOf (given : Record) : Value :=
  ((given.get "name").orElse (given.get "id")).orElse (.text "(unnamed)")

/-- A configuration names a rule and the records that it looks at, and its parameters are
an object. -/
structure IsNamed (given : Record) (type : RuleType) (scope : Scope) (parameters : Record) :
    Prop where
  ruleType : given.get "rule_type" = .text type.name
  datasetScope : given.get "dataset_scope" = .text scope.name
  parameters : (given.get "parameters").orElse (.object []) = parameters.value

/-- A check is what a configuration describes. -/
structure Check.IsLoadedFrom (given : Record) (check : Check) : Prop where
  named : ∃ parameters, IsNamed given check.rule.type check.scope parameters ∧
    Rule.ofParameters check.rule.type parameters = .ok check.rule
  id_eq : check.id = given.get "id"

/-- Why a configuration is refused. -/
inductive Refuses (given : Record) : ConfigFault → Prop where
  | ruleType {label shown : String} (hid : (given.get "rule_type").isIdentifier)
      (hunknown : ∀ type : RuleType, given.get "rule_type" ≠ .text type.name)
      (hlabel : (labelOf given).shown = .ok label)
      (hshown : (given.get "rule_type").quotedText = .ok shown) :
      Refuses given (.ruleType label shown)
  | datasetScope {type : RuleType} {label shown : String}
      (htype : given.get "rule_type" = .text type.name)
      (hid : (given.get "dataset_scope").isIdentifier)
      (hunknown : ∀ scope : Scope, given.get "dataset_scope" ≠ .text scope.name)
      (hlabel : (labelOf given).shown = .ok label)
      (hshown : (given.get "dataset_scope").quotedText = .ok shown) :
      Refuses given (.datasetScope label shown)
  | parameters {type : RuleType} {scope : Scope} {label : String}
      (htype : given.get "rule_type" = .text type.name)
      (hscope : given.get "dataset_scope" = .text scope.name)
      (hparameters : ∀ parameters : Record,
        (given.get "parameters").orElse (.object []) ≠ parameters.value)
      (hlabel : (labelOf given).shown = .ok label) :
      Refuses given (.parameters label)
  | tolerance {scope : Scope} {parameters : Record} {shown : String}
      (hnamed : IsNamed given .math scope parameters)
      (hnumber : (parameters.get "tolerance").toBinary64 = .error .notANumeral ∨
        (parameters.get "tolerance").toBinary64 = .error .operandKind)
      (hshown : (parameters.get "tolerance").quotedText = .ok shown) :
      Refuses given (.tolerance shown)

/-- The faults that a configuration ends with although it is not refused: something that
cannot be looked up stands for a name, a number or truth value for a list of fields, or a
whole number beyond the range of binary64 for a tolerance. The last case needs a whole
number beyond the digits that texts may have, which no reader lets through. -/
inductive Escapes (given : Record) : Fault → Prop where
  | ruleType (h : (given.get "rule_type").isIdentifier = false) : Escapes given .notAKey
  | datasetScope {type : RuleType} (htype : given.get "rule_type" = .text type.name)
      (h : (given.get "dataset_scope").isIdentifier = false) : Escapes given .notAKey
  | fields {scope : Scope} {parameters : Record} {n : Number}
      (hnamed : IsNamed given .duplicate scope parameters)
      (hfilled : (parameters.get "fields").isFilled)
      (hnumber : (parameters.get "fields").number? = some n) : Escapes given .notASequence
  | tolerance {scope : Scope} {parameters : Record} {n : Int}
      (hnamed : IsNamed given .math scope parameters)
      (hwhole : parameters.get "tolerance" = .number (.whole n))
      (hlarge : Binary64.ofInt? n = .error .numberTooLarge) : Escapes given .numberTooLarge
  | unshown (h : given.value.withinDigits = false) : Escapes given .digitLimit

/-- What a configuration comes to. -/
inductive Ends (given : Record) : Result Check → Prop where
  | loaded {check : Check} (h : check.IsLoadedFrom given) : Ends given (.ok check)
  | refused {cause : ConfigFault} (h : Refuses given cause) : Ends given (.error (.config cause))
  | escaped {fault : Fault} (h : Escapes given fault) : Ends given (.error fault)

/-! ## Parameters -/

namespace Rule

theorem duplicateFields_ends (given : Value) :
    (∃ fields, duplicateFields given = .ok fields) ∨
      given.isFilled ∧ (∃ n, given.number? = some n) ∧
        duplicateFields given = .error .notASequence := by
  cases given with
  | null => exact .inl ⟨_, rfl⟩
  | text s => exact .inl ⟨_, rfl⟩
  | bool b =>
      cases b
      · exact .inl ⟨_, rfl⟩
      · exact .inr ⟨rfl, ⟨_, rfl⟩, rfl⟩
  | number n =>
      by_cases hfilled : (Value.number n).isFilled
      · refine .inr ⟨hfilled, ⟨n, rfl⟩, ?_⟩
        simp [duplicateFields, hfilled, Value.elements]
      · refine .inl ⟨[], ?_⟩
        simp [duplicateFields, hfilled, pure, Except.pure]
  | list items =>
      refine .inl ?_
      by_cases hfilled : (Value.list items).isFilled <;>
        simp [duplicateFields, hfilled, Value.elements, pure, Except.pure]
  | object members =>
      refine .inl ?_
      by_cases hfilled : (Value.object members).isFilled <;>
        simp [duplicateFields, hfilled, Value.elements, pure, Except.pure]

theorem duplicateFields_of_number? {given : Value} {n : Number} (hnumber : given.number? = some n)
    (hfilled : given.isFilled) : duplicateFields given = .error .notASequence := by
  rcases duplicateFields_ends given with ⟨fields, hfields⟩ | ⟨-, -, hfault⟩
  · cases given with
    | bool b =>
        obtain rfl : b = true := hfilled
        cases hfields
    | number m => simp [duplicateFields, hfilled, Value.elements] at hfields
    | _ => cases hnumber
  · exact hfault

theorem toleranceOf_of_large {n : Int} (h : Binary64.ofInt? n = .error .numberTooLarge) :
    toleranceOf (.number (.whole n)) = .error .numberTooLarge := by
  have hfault : (Value.number (.whole n)).toBinary64 = .error .numberTooLarge := h
  unfold toleranceOf
  rw [hfault]
  rfl

/-- Only a whole number can be too large, since a numeral in a text has a binary64 number
of its own. -/
theorem toBinary64_ends (given : Value) :
    (∃ x, given.toBinary64 = .ok x) ∨ given.toBinary64 = .error .notANumeral ∨
      given.toBinary64 = .error .operandKind ∨
      ∃ n, given = .number (.whole n) ∧ Binary64.ofInt? n = .error .numberTooLarge := by
  cases given with
  | number n =>
      cases n with
      | float x => exact .inl ⟨x, rfl⟩
      | whole n =>
          cases hn : Binary64.ofInt? n with
          | ok x => exact .inl ⟨x, hn⟩
          | error fault =>
              obtain rfl : fault = .numberTooLarge := Binary64.ofInt?_fails n hn
              exact .inr (.inr (.inr ⟨n, rfl, hn⟩))
  | text s =>
      cases hs : readNumber? s with
      | some x => exact .inl ⟨x, by rw [Value.toBinary64, hs]⟩
      | none => exact .inr (.inl (by rw [Value.toBinary64, hs]))
  | bool b => exact .inl ⟨_, rfl⟩
  | _ => exact .inr (.inr (.inl rfl))

end Rule

variable {given parameters : Record} {type : RuleType} {scope : Scope}

theorem IsNamed.withinDigits (h : IsNamed given type scope parameters)
    (hdigits : given.value.withinDigits) : parameters.value.withinDigits := by
  rw [← h.parameters]
  exact Value.withinDigits_orElse (Value.withinDigits_cell hdigits _) rfl

/-- What the parameters of a rule come to. -/
inductive RuleEnds (given : Record) (type : RuleType) : Result Rule → Prop where
  | loaded {rule : Rule} (h : rule.type = type) : RuleEnds given type (.ok rule)
  | refused {cause : ConfigFault} (h : Refuses given cause) :
      RuleEnds given type (.error (.config cause))
  | escaped {fault : Fault} (h : Escapes given fault) : RuleEnds given type (.error fault)

theorem toleranceOf_ends (hnamed : IsNamed given .math scope parameters) :
    (∃ tolerance, Rule.toleranceOf (parameters.get "tolerance") = .ok tolerance) ∨
      ∃ fault, Rule.toleranceOf (parameters.get "tolerance") = .error fault ∧
        ((∃ cause, fault = .config cause ∧ Refuses given cause) ∨ Escapes given fault) := by
  unfold Rule.toleranceOf
  by_cases hnull : (parameters.get "tolerance").isNull
  · rw [if_pos hnull]
    exact .inl ⟨_, rfl⟩
  rw [if_neg hnull]
  have hrefused (hnumber : (parameters.get "tolerance").toBinary64 = .error .notANumeral ∨
      (parameters.get "tolerance").toBinary64 = .error .operandKind) :
      ∃ fault, (do
        throw (.config (.tolerance (← (parameters.get "tolerance").quotedText))) :
          Result Binary64) = .error fault ∧
        ((∃ cause, fault = .config cause ∧ Refuses given cause) ∨ Escapes given fault) := by
    cases hshown : (parameters.get "tolerance").quotedText with
    | ok shown => exact ⟨_, rfl, .inl ⟨_, rfl, .tolerance hnamed hnumber hshown⟩⟩
    | error fault =>
        obtain ⟨rfl, hbeyond⟩ := Value.beyond_of_quotedText hshown
        refine ⟨_, rfl, .inr (.unshown ?_)⟩
        by_contra hdigits
        rw [Bool.not_eq_false] at hdigits
        exact hbeyond (Value.withinDigits_cell (hnamed.withinDigits hdigits) "tolerance")
  rcases Rule.toBinary64_ends (parameters.get "tolerance") with
    ⟨x, hx⟩ | hnumeral | hkind | ⟨n, hwhole, hlarge⟩
  · rw [hx]
    exact .inl ⟨x, rfl⟩
  · rw [hnumeral]
    exact .inr (hrefused (.inl hnumeral))
  · rw [hkind]
    exact .inr (hrefused (.inr hkind))
  · have hfault : (parameters.get "tolerance").toBinary64 = .error .numberTooLarge := by
      rw [hwhole]
      exact hlarge
    rw [hfault]
    exact .inr ⟨_, rfl, .inr (.tolerance hnamed hwhole hlarge)⟩

theorem Rule.ofParameters_ends (hnamed : IsNamed given type scope parameters) :
    RuleEnds given type (Rule.ofParameters type parameters) := by
  cases type with
  | missing => exact .loaded rfl
  | regex => exact .loaded rfl
  | formula => exact .loaded rfl
  | duplicate =>
      show RuleEnds given .duplicate
        ((Rule.duplicateFields (parameters.get "fields")).map Rule.duplicate)
      rcases Rule.duplicateFields_ends (parameters.get "fields") with
        ⟨fields, hfields⟩ | ⟨hfilled, ⟨n, hnumber⟩, hfault⟩
      · rw [hfields]
        exact .loaded rfl
      · rw [hfault]
        exact .escaped (.fields hnamed hfilled hnumber)
  | math =>
      unfold Rule.ofParameters
      dsimp only
      rcases toleranceOf_ends hnamed with
        ⟨tolerance, htolerance⟩ | ⟨fault, hfault, ⟨cause, rfl, hcause⟩ | hescapes⟩
      · rw [htolerance]
        exact .loaded rfl
      · rw [hfault]
        exact .refused hcause
      · rw [hfault]
        exact .escaped hescapes

/-! ## Loading one configuration -/

theorem withinDigits_labelOf (hdigits : given.value.withinDigits) :
    (labelOf given).withinDigits :=
  Value.withinDigits_orElse (Value.withinDigits_orElse (Value.withinDigits_cell hdigits _)
    (Value.withinDigits_cell hdigits _)) rfl

/-- Something that cannot be shown was given in the configuration. -/
theorem Escapes.of_unshown {v w : Value}
    (hparts : given.value.withinDigits → v.withinDigits ∧ w.withinDigits)
    (h : ¬ (v.withinDigits ∧ w.withinDigits)) : Escapes given .digitLimit := by
  refine .unshown ?_
  by_contra hdigits
  exact h (hparts (by rwa [Bool.not_eq_false] at hdigits))

theorem Escapes.of_label {fault : Fault} (h : (labelOf given).shown = .error fault) :
    Escapes given fault := by
  obtain ⟨rfl, hbeyond⟩ := Value.beyond_of_shown h
  refine .unshown ?_
  by_contra hdigits
  rw [Bool.not_eq_false] at hdigits
  exact hbeyond (withinDigits_labelOf hdigits)

theorem parametersOf_ends (given : Record) (label : Value) :
    (∃ parameters, Check.parametersOf given label = .ok parameters ∧
      (given.get "parameters").orElse (.object []) = parameters.value) ∨
    (∀ parameters : Record, (given.get "parameters").orElse (.object []) ≠ parameters.value) ∧
      Check.parametersOf given label =
        (do throw (.config (.parameters (← label.shown))) : Result Record) := by
  unfold Check.parametersOf
  cases hgiven : (given.get "parameters").orElse (.object []) with
  | object members => exact .inl ⟨⟨members⟩, rfl, rfl⟩
  | _ => exact .inr ⟨nofun, rfl⟩

/-- A check that is completed by its rule. -/
theorem ends_of_rule (hnamed : IsNamed given type scope parameters) {complete : Rule → Check}
    (hcomplete : ∀ rule, (complete rule).rule = rule ∧ (complete rule).scope = scope ∧
      (complete rule).id = given.get "id") :
    Ends given (do return complete (← Rule.ofParameters type parameters)) := by
  have hrule := Rule.ofParameters_ends hnamed
  cases hr : Rule.ofParameters type parameters with
  | error fault =>
      rw [hr] at hrule
      cases hrule with
      | refused hcause => exact .refused hcause
      | escaped hfault => exact .escaped hfault
  | ok rule =>
      rw [hr] at hrule
      cases hrule with
      | loaded htype =>
          obtain ⟨hcheckRule, hcheckScope, hcheckId⟩ := hcomplete rule
          refine .loaded ⟨⟨parameters, ?_, ?_⟩, hcheckId⟩
          · rw [hcheckRule, hcheckScope, htype]
            exact hnamed
          · rw [hcheckRule, htype]
            exact hr

/-- The members are judged in a fixed order: the rule, the records, the parameters. -/
theorem Check.ofRecord_ends (given : Record) : Ends given (Check.ofRecord given) := by
  unfold Check.ofRecord
  extract_lets label
  have hlabelDigits (hdigits : given.value.withinDigits) : label.withinDigits :=
    withinDigits_labelOf hdigits
  have htype := named_ends RuleType.ofName?_eq_some_iff (given.get "rule_type") label .ruleType
  generalize named (given.get "rule_type") RuleType.ofName? label .ruleType = r at htype ⊢
  cases htype with
  | unknown hid hunknown hlabel hshown => exact .refused (.ruleType hid hunknown hlabel hshown)
  | notAKey hid => exact .escaped (.ruleType hid)
  | unshown h =>
      exact .escaped (.of_unshown (fun hdigits =>
        ⟨hlabelDigits hdigits, Value.withinDigits_cell hdigits _⟩) h)
  | @found type htype =>
  rw [Result.ok_bind]
  have hscope := named_ends Scope.ofName?_eq_some_iff (given.get "dataset_scope") label
    .datasetScope
  generalize named (given.get "dataset_scope") Scope.ofName? label .datasetScope = r at hscope ⊢
  cases hscope with
  | unknown hid hunknown hlabel hshown =>
      exact .refused (.datasetScope htype hid hunknown hlabel hshown)
  | notAKey hid => exact .escaped (.datasetScope htype hid)
  | unshown h =>
      exact .escaped (.of_unshown (fun hdigits =>
        ⟨hlabelDigits hdigits, Value.withinDigits_cell hdigits _⟩) h)
  | @found scope hscope =>
  rw [Result.ok_bind]
  rcases parametersOf_ends given label with ⟨parameters, hok, hgiven⟩ | ⟨hnone, herror⟩
  · have hnamed : IsNamed given type scope parameters := ⟨htype, hscope, hgiven⟩
    rw [hok, Result.ok_bind]
    split
    · exact ends_of_rule hnamed fun rule => ⟨rfl, rfl, rfl⟩
    · cases hlabel : label.shown with
      | error fault => exact .escaped (.of_label hlabel)
      | ok s => exact ends_of_rule hnamed fun rule => ⟨rfl, rfl, rfl⟩
  · rw [herror]
    cases hlabel : label.shown with
    | error fault => exact .escaped (.of_label hlabel)
    | ok s => exact .refused (.parameters htype hscope hnone hlabel)

/-! ## Configurations that escape

Each shape that escapes does so in every configuration that can be shown. -/

theorem Check.named_text {α : Type} {ofName? : String → Option α} {nameOf : α → String}
    (hof : ∀ {s a}, ofName? s = some a ↔ s = nameOf a) (a : α) (label : Value)
    (refusal : String → String → ConfigFault) :
    named (.text (nameOf a)) ofName? label refusal = .ok a := by
  unfold named
  rw [Value.key, Result.ok_bind]
  dsimp only
  rw [hof.2 rfl]
  rfl

/-- What is wrong with the rule of a configuration is wrong with the configuration. -/
theorem Check.ofRecord_of_rule_error {fault : Fault} (hdigits : given.value.withinDigits)
    (hnamed : IsNamed given type scope parameters)
    (hrule : Rule.ofParameters type parameters = .error fault) :
    Check.ofRecord given = .error fault := by
  unfold Check.ofRecord
  extract_lets label
  obtain ⟨s, hlabel⟩ : ∃ s, label.shown = .ok s :=
    Value.exists_shown (withinDigits_labelOf hdigits)
  rw [hnamed.ruleType, Check.named_text RuleType.ofName?_eq_some_iff, Result.ok_bind,
    hnamed.datasetScope, Check.named_text Scope.ofName?_eq_some_iff, Result.ok_bind]
  have hparameters : Check.parametersOf given label = .ok parameters := by
    unfold Check.parametersOf
    rw [hnamed.parameters]
    rfl
  rw [hparameters, Result.ok_bind, hlabel, hrule]
  split <;> rfl

theorem Check.ofRecord_of_escapes {fault : Fault} (hdigits : given.value.withinDigits)
    (h : Escapes given fault) : Check.ofRecord given = .error fault := by
  cases h with
  | ruleType hkey =>
      unfold Check.ofRecord
      extract_lets label
      rw [Check.named_of_not_isIdentifier hkey]
      rfl
  | datasetScope htype hkey =>
      unfold Check.ofRecord
      extract_lets label
      rw [htype, Check.named_text RuleType.ofName?_eq_some_iff, Result.ok_bind,
        Check.named_of_not_isIdentifier hkey]
      rfl
  | fields hnamed hfilled hnumber =>
      refine Check.ofRecord_of_rule_error hdigits hnamed ?_
      show (Rule.duplicateFields _).map Rule.duplicate = _
      have hfields := Rule.duplicateFields_of_number? hnumber hfilled
      rw [hfields]
      rfl
  | tolerance hnamed hwhole hlarge =>
      refine Check.ofRecord_of_rule_error hdigits hnamed ?_
      unfold Rule.ofParameters
      dsimp only
      rw [hwhole, Rule.toleranceOf_of_large hlarge]
      rfl
  | unshown hnot => exact absurd hdigits (by rw [hnot]; nofun)

/-! ## Loading configurations -/

/-- Configurations are loaded in order, or the first that is unusable decides. -/
theorem loadAll_ends (configs : List Record) :
    (∃ checks, loadAll (configs.map Record.value) = .ok checks ∧
      List.Forall₂ (fun given check => Check.IsLoadedFrom given check) configs checks) ∨
    ∃ before given after fault, configs = before ++ given :: after ∧
      (∀ earlier ∈ before, ∃ check : Check, check.IsLoadedFrom earlier) ∧
      loadAll (configs.map Record.value) = .error fault ∧
      ((∃ cause, fault = .config cause ∧ Refuses given cause) ∨ Escapes given fault) := by
  have hloaded {given : Record} {check : Check} (h : Check.ofRecord given = .ok check) :
      check.IsLoadedFrom given := by
    have hends := Check.ofRecord_ends given
    rw [h] at hends
    cases hends with
    | loaded hcheck => exact hcheck
  have hmap : loadAll (configs.map Record.value) = configs.mapM Check.ofRecord := by
    unfold loadAll
    rw [List.mapM_map]
    rfl
  rw [hmap]
  cases hchecks : configs.mapM Check.ofRecord with
  | ok checks =>
      refine .inl ⟨checks, rfl, ?_⟩
      exact (Result.forall₂_of_mapM_eq_ok hchecks).imp fun given check => hloaded
  | error fault =>
      obtain ⟨before, given, after, rfl, hbefore, hgiven⟩ :=
        Result.exists_first_of_mapM_eq_error hchecks
      refine .inr ⟨before, given, after, fault, rfl, ?_, rfl, ?_⟩
      · intro earlier hearlier
        obtain ⟨check, hcheck⟩ := hbefore earlier hearlier
        exact ⟨check, hloaded hcheck⟩
      · have hends := Check.ofRecord_ends given
        rw [hgiven] at hends
        cases hends with
        | refused hcause => exact .inl ⟨_, rfl, hcause⟩
        | escaped hfault => exact .inr hfault

end InvoiceReadiness.Custom

namespace InvoiceReadiness.Service

open Custom

/-- **Custom checks of a request.** Either there is a check for every configuration, in
order, or the first configuration that is not loaded decides: one that is refused denies
the request with its message, and one that escapes ends it with a fault. -/
theorem run_ends_as_loaded (request : RunRequest) :
    (∃ checks, loadAll (request.customChecks.map Record.value) = .ok checks ∧
      List.Forall₂ (fun given check => Check.IsLoadedFrom given check)
        request.customChecks checks) ∨
    ∃ before given after, request.customChecks = before ++ given :: after ∧
      (∀ earlier ∈ before, ∃ check : Check, check.IsLoadedFrom earlier) ∧
      ((∃ cause, Refuses given cause ∧
          loadAll (request.customChecks.map Record.value) = .error (.config cause) ∧
          run request = .error (.denied unprocessable (.text cause.message))) ∨
        ∃ fault, Escapes given fault ∧
          loadAll (request.customChecks.map Record.value) = .error fault ∧
          run request = .error (.fault fault)) := by
  have hrun {reply : Refusal}
      (h : loadChecks request.customChecks = .error reply) : run request = .error reply := by
    unfold run
    rw [h]
    rfl
  rcases loadAll_ends request.customChecks with
    hloaded | ⟨before, given, after, fault, hconfigs, hbefore, hfault, hwhy⟩
  · exact .inl hloaded
  refine .inr ⟨before, given, after, hconfigs, hbefore, ?_⟩
  rcases hwhy with ⟨cause, rfl, hcause⟩ | hescapes
  · refine .inl ⟨cause, hcause, hfault, hrun ?_⟩
    unfold loadChecks
    rw [hfault]
  · refine .inr ⟨fault, hescapes, hfault, hrun ?_⟩
    unfold loadChecks
    rw [hfault]
    cases hescapes <;> rfl

/-- A configuration that escapes ends the request if it is the first. -/
theorem run_of_escapes {request : RunRequest} {given : Record} {rest : List Record}
    {fault : Fault} (hconfigs : request.customChecks = given :: rest)
    (hdigits : given.value.withinDigits) (hescapes : Escapes given fault) :
    run request = .error (.fault fault) := by
  have hload : loadAll (request.customChecks.map Record.value) = .error fault := by
    rw [hconfigs, List.map_cons]
    unfold loadAll
    rw [List.mapM_cons]
    have hgiven : Check.ofValue given.value = .error fault :=
      Check.ofRecord_of_escapes hdigits hescapes
    rw [hgiven]
    rfl
  unfold run loadChecks
  rw [hload]
  cases hescapes <;> rfl

/-- The configuration of a check on headers. -/
def headerConfig (ruleType : Value) (parameters : Members) : Record :=
  ⟨[("rule_type", ruleType), ("dataset_scope", .text "header"),
    ("parameters", .object parameters)]⟩

theorem headerConfig_isNamed (type : RuleType) {parameters : Members}
    (hfilled : (Value.object parameters).isFilled) :
    IsNamed (headerConfig (.text type.name) parameters) type .header ⟨parameters⟩ where
  ruleType := rfl
  datasetScope := rfl
  parameters := if_pos hfilled

/-- A request with one configuration and no records. -/
def requestOfCheck (given : Record) : RunRequest where
  dataset := ⟨[], [], []⟩
  customChecks := [given]
  withBaseline := true
  withPack := true
  direction := none
  ownNumbers := []

/-- A rule type that is a list, fields that are a number, and a tolerance beyond the range
of binary64 are not denied. -/
theorem run_escaping_checks :
    run (requestOfCheck (headerConfig (.list []) [])) = .error (.fault .notAKey) ∧
    run (requestOfCheck (headerConfig (.text "duplicate") [("fields", .ofNat 5)])) =
      .error (.fault .notASequence) ∧
    run (requestOfCheck (headerConfig (.text "math") [("tolerance", .ofNat (tenPow 400))])) =
      .error (.fault .numberTooLarge) := by
  have hlarge : Binary64.ofInt? (tenPow 400) = .error .numberTooLarge := by decide +kernel
  have hbound : (tenPow 400 : Int).natAbs < tenPow maxWholeDigits := by decide +kernel
  refine ⟨?_, ?_, ?_⟩
  · exact run_of_escapes rfl rfl (.ruleType rfl)
  · exact run_of_escapes rfl (by decide +kernel)
      (.fields (headerConfig_isNamed .duplicate rfl) rfl rfl)
  · unfold Value.ofNat
    generalize ((tenPow 400 : Nat) : Int) = n at hlarge hbound ⊢
    refine run_of_escapes rfl ?_ (.tolerance (headerConfig_isNamed .math rfl) rfl hlarge)
    simp [headerConfig, Record.value, Value.withinDigits, Value.membersWithinDigits, hbound]

end InvoiceReadiness.Service
