import InvoiceReadiness.Proofs.Traceability.Citations
import Mathlib.Data.List.Nodup

/-!
# Lookups in a catalog

A catalog files its rules and controls under the requirements that they are about.
The same rules and controls can be found by going through all of them, and a third way
leads through the rules: a control is about a requirement if it covers a rule that
enforces it. Here the three are compared.

They agree although a control names its rules by identifier only. A name that no rule
has leads nowhere; a name that several rules have leads to the last of them, so the way
through the rules is exact only if the rules have different identifiers.

## Main results

* `Catalog.exists_build_iff` — the parts that a catalog can be built of.
* `Control.protects_iff` — what a control protects, by the rules that it names.
* `Catalog.build_joins` — indices, search and the way through the rules agree.
-/

namespace InvoiceReadiness.Traceability

/-! ## Asking for keys -/

/-- What is computed of the keys of values exists if all values can be identifiers. -/
theorem mapM_key_eq_ok_iff {β : Type} {f : Key → β} {ids : List Value} {results : List β} :
    ids.mapM (fun id => do return f (← id.key)) = (.ok results : Result (List β)) ↔
      AllIdentifiers ids ∧ results = ids.map fun id => f id.keyOf := by
  have hall (hids : AllIdentifiers ids) :
      ids.mapM (fun id => do return f (← id.key)) =
        (.ok (ids.map fun id => f id.keyOf) : Result (List β)) := by
    refine Result.mapM_eq_ok_map fun id hid => ?_
    rw [Value.key_eq_ok_keyOf (hids id hid)]
    rfl
  constructor
  · intro h
    have hids : AllIdentifiers ids := by
      intro id hid
      obtain ⟨y, -, hy⟩ := Result.exists_result_of_mem h hid
      obtain ⟨key, hkey, -⟩ := Result.bind_eq_ok.1 hy
      exact Value.isIdentifier_of_key_eq_ok hkey
    rw [hall hids] at h
    exact ⟨hids, (Except.ok.inj h).symm⟩
  · rintro ⟨hids, rfl⟩
    exact hall hids

/-! ## What a control protects -/

/-- The rule that has an identifier; of several the last one. -/
def ruleWith? (rules : List Rule) (id : Value) : Option Rule :=
  (rules.filter fun rule => rule.id.keyOf == id.keyOf).getLast?

/-- The requirements of the rules that have one of some identifiers. -/
def requirementsOfRules (rules : List Rule) (ids : List Value) : List Value :=
  ids.flatMap fun id => ((ruleWith? rules id).map Rule.requirements).getD []

theorem mem_requirementsOfRules {rules : List Rule} {ids : List Value} {term : Value} :
    term ∈ requirementsOfRules rules ids ↔
      ∃ id ∈ ids, ∃ rule, ruleWith? rules id = some rule ∧ term ∈ rule.requirements := by
  rw [requirementsOfRules, List.mem_flatMap]
  refine exists_congr fun id => and_congr_right fun _ => ?_
  cases ruleWith? rules id <;> simp

theorem mem_of_ruleWith? {rules : List Rule} {id : Value} {rule : Rule}
    (h : ruleWith? rules id = some rule) : rule ∈ rules ∧ rule.id.keyOf = id.keyOf := by
  have hmem := List.mem_filter.1 (List.mem_of_getLast? h)
  exact ⟨hmem.1, beq_iff_eq.1 hmem.2⟩

/-- Among rules of different identifiers each is the one that has its own. -/
theorem ruleWith?_of_mem {rules : List Rule} {rule : Rule} {id : Value}
    (hdistinct : (rules.map fun rule => rule.id.keyOf).Nodup) (hrule : rule ∈ rules)
    (hkey : rule.id.keyOf = id.keyOf) : ruleWith? rules id = some rule := by
  have hmem : rule ∈ rules.filter fun rule => rule.id.keyOf == id.keyOf :=
    List.mem_filter.2 ⟨hrule, beq_iff_eq.2 hkey⟩
  obtain ⟨last, hlast⟩ := Option.ne_none_iff_exists'.1
    (mt List.getLast?_eq_none_iff.1 (List.ne_nil_of_mem hmem))
  obtain ⟨hother, hsame⟩ := mem_of_ruleWith? hlast
  rw [ruleWith?, hlast, List.inj_on_of_nodup_map hdistinct hrule hother (hkey.trans hsame.symm)]

namespace Control

variable {rules : List Rule}

theorem protectedBy_eq_ok_iff {ids result : List Value} :
    protectedBy (Index.lastOf Rule.id rules) ids = .ok result ↔
      AllIdentifiers ids ∧ AllIdentifiers (requirementsOfRules rules ids) ∧
        result = (requirementsOfRules rules ids).eraseDupsBy fun v w => v.keyOf == w.keyOf := by
  have hterms : (ids.map fun id =>
        (((Index.lastOf Rule.id rules).get? id.keyOf).map Rule.requirements).getD []).flatten =
      requirementsOfRules rules ids := by
    simp only [Index.get?_lastOf]
    rfl
  rw [protectedBy, Result.bind_eq_ok]
  constructor
  · rintro ⟨terms, hmap, hdistinct⟩
    obtain ⟨hids, rfl⟩ := mapM_key_eq_ok_iff.1 hmap
    rw [hterms] at hdistinct
    exact ⟨hids, distinctValues_eq_ok_iff.1 hdistinct⟩
  · rintro ⟨hids, hdistinct⟩
    refine ⟨_, mapM_key_eq_ok_iff.2 ⟨hids, rfl⟩, ?_⟩
    rw [hterms]
    exact distinctValues_eq_ok_iff.2 hdistinct

/-- What has to be there for a control to be defined: its rules, named by what can be an
identifier, and what it is called. -/
structure IsDefined (definition : Value) : Prop where
  rules : ∃ names ids, requiredMember definition "covered_rule_ids" = .ok names ∧
    names.elements = .ok ids ∧ AllIdentifiers ids
  description : ∀ name ∈ ["control_id", "control_name", "control_type"],
    ∃ v, requiredMember definition name = .ok v

/-- A control protects the requirements of the rules that it names, once each. -/
theorem of_ofDefinition_eq_ok {definition : Value} {c : Control}
    (h : ofDefinition (Index.lastOf Rule.id rules) definition = .ok c) :
    IsDefined definition ∧ AllIdentifiers c.rules ∧
      c.requirements =
        (requirementsOfRules rules c.rules).eraseDupsBy fun v w => v.keyOf == w.keyOf := by
  obtain ⟨names, hnames, h⟩ := Result.bind_eq_ok.1 h
  obtain ⟨ids, hids, h⟩ := Result.bind_eq_ok.1 h
  obtain ⟨requirements, hrequirements, h⟩ := Result.bind_eq_ok.1 h
  obtain ⟨id, hid, h⟩ := Result.bind_eq_ok.1 h
  obtain ⟨name, hname, h⟩ := Result.bind_eq_ok.1 h
  obtain ⟨type, htype, h⟩ := Result.bind_eq_ok.1 h
  obtain ⟨r, -, ⟨⟩⟩ := Result.bind_eq_ok.1 h
  obtain ⟨hidentifiers, -, heq⟩ := protectedBy_eq_ok_iff.1 hrequirements
  refine ⟨⟨⟨names, ids, hnames, hids, hidentifiers⟩, ?_⟩, hidentifiers, heq⟩
  simp [hid, hname, htype]

theorem record_of_requiredMember {v w : Value} {name : String}
    (h : requiredMember v name = .ok w) : ∃ r, v.record = .ok r := by
  cases v with
  | object members => exact ⟨_, rfl⟩
  | _ => cases h

theorem exists_ofDefinition (hrules : ∀ rule ∈ rules, AllIdentifiers rule.requirements)
    {definition : Value} (h : IsDefined definition) :
    ∃ c, ofDefinition (Index.lastOf Rule.id rules) definition = .ok c := by
  obtain ⟨names, ids, hnames, hids, hidentifiers⟩ := h.rules
  obtain ⟨id, hid⟩ := h.description "control_id" (by simp)
  obtain ⟨name, hname⟩ := h.description "control_name" (by simp)
  obtain ⟨type, htype⟩ := h.description "control_type" (by simp)
  obtain ⟨r, hr⟩ := record_of_requiredMember hnames
  have hterms : AllIdentifiers (requirementsOfRules rules ids) := by
    intro term hterm
    obtain ⟨_, -, rule, hrule, hmem⟩ := mem_requirementsOfRules.1 hterm
    exact hrules rule (mem_of_ruleWith? hrule).1 term hmem
  rw [ofDefinition, hnames, Result.ok_bind, hids, Result.ok_bind,
    protectedBy_eq_ok_iff.2 ⟨hidentifiers, hterms, rfl⟩, hid, hname, htype, hr]
  exact ⟨_, rfl⟩

end Control

/-! ## Building a catalog -/

namespace Catalog

variable {fields : List Registry.Field} {checks definitions : List Value} {version : Value}
  {catalog : Catalog}

/-- Parts of a catalog that can be read, and of which all that has to identify something
can do so. A field without such an identifier describes no requirement. -/
structure Readable (fields : List Registry.Field) (checks definitions : List Value) :
    Prop where
  fields : ∀ field ∈ fields, ∃ r, Requirement.ofField field = .ok r
  checks : ∀ check ∈ checks, ∃ rule, Rule.ofCheck check = .ok rule ∧
    rule.id.isIdentifier ∧ AllIdentifiers rule.requirements
  definitions : ∀ definition ∈ definitions, Control.IsDefined definition

theorem MadeOf.readable (hmade : catalog.MadeOf fields checks definitions) :
    Readable fields checks definitions where
  fields := Result.exists_mapM_eq_ok_iff.1 ⟨_, hmade.requirements⟩
  checks := by
    intro check hcheck
    obtain ⟨rule, hrule, hof⟩ := Result.exists_result_of_mem hmade.rules hcheck
    exact ⟨rule, hof, hmade.ruleIds _ (List.mem_map_of_mem hrule), hmade.ruleNames rule hrule⟩
  definitions := by
    intro definition hdefinition
    obtain ⟨c, -, hof⟩ := Result.exists_result_of_mem hmade.controls hdefinition
    rw [hmade.ruleIndex] at hof
    exact (Control.of_ofDefinition_eq_ok hof).1

/-- A catalog can be built of readable parts and of no others. -/
theorem exists_build_iff :
    (∃ catalog, build fields checks definitions version = .ok catalog) ↔
      Readable fields checks definitions := by
  constructor
  · rintro ⟨catalog, h⟩
    exact (of_build_eq_ok h).readable
  · intro h
    obtain ⟨requirements, hrequirements⟩ := Result.exists_mapM_eq_ok h.fields
    obtain ⟨rules, hrules⟩ := Result.exists_mapM_eq_ok fun check hcheck =>
      let ⟨rule, hof, _⟩ := h.checks check hcheck
      ⟨rule, hof⟩
    have hrequirementIds : ∀ r ∈ requirements, r.id.isIdentifier := by
      refine Yields.mapM (fun field _ r hr => ?_) hrequirements
      obtain ⟨hid, heq, -⟩ := Requirement.of_ofField_eq_ok hr
      exact heq ▸ hid
    have hruleIds : ∀ rule ∈ rules,
        rule.id.isIdentifier ∧ AllIdentifiers rule.requirements := by
      refine Yields.mapM (fun check hcheck rule hrule => ?_) hrules
      obtain ⟨_, hof, hids⟩ := h.checks check hcheck
      rw [hrule] at hof
      cases hof
      exact hids
    have hruleNames := fun rule hrule => (hruleIds rule hrule).2
    obtain ⟨controls, hcontrols⟩ := Result.exists_mapM_eq_ok fun definition hdefinition =>
      Control.exists_ofDefinition hruleNames (h.definitions definition hdefinition)
    have hcontrolNames : ∀ c ∈ controls, AllIdentifiers c.requirements := by
      refine Yields.mapM (fun definition _ c hc => ?_) hcontrols
      obtain ⟨-, -, heq⟩ := Control.of_ofDefinition_eq_ok hc
      intro term hterm
      rw [heq] at hterm
      obtain ⟨_, -, rule, hrule, hmem⟩ :=
        mem_requirementsOfRules.1 (Index.mem_of_mem_eraseDupsBy hterm)
      exact hruleNames rule (mem_of_ruleWith? hrule).1 term hmem
    have hruleIndex : indexRules rules = .ok (Index.lastOf Rule.id rules) :=
      (Index.foldlM_alter_eq_ok_iff _ _ _ _ _).2
        ⟨fun rule hrule => (hruleIds rule hrule).1, rfl⟩
    have hrequirementIndex : requirements.foldlM (fun (index : Index Requirement) r => do
          return index.insert (← r.id.key) r.id r) Index.empty =
        .ok (Index.lastOf Requirement.id requirements) :=
      (Index.foldlM_alter_eq_ok_iff _ _ _ _ _).2 ⟨hrequirementIds, rfl⟩
    rw [build, hrequirements, Result.ok_bind, hrules, Result.ok_bind, hruleIndex,
      Result.ok_bind, hcontrols, Result.ok_bind, hrequirementIndex, Result.ok_bind,
      fileUnder_eq_ok_iff.2 ⟨hruleNames, rfl⟩, Result.ok_bind,
      fileUnder_eq_ok_iff.2 ⟨hcontrolNames, rfl⟩]
    exact ⟨_, rfl⟩

end Catalog

/-! ## What a catalog finds -/

section Lookups

variable {fields : List Registry.Field} {checks definitions : List Value}
  {catalog : Catalog} (hmade : catalog.MadeOf fields checks definitions)

include hmade

theorem Catalog.rulesFor_eq_ok {id : Value} (hid : id.isIdentifier) :
    catalog.rulesFor id = .ok (catalog.rules.filter fun rule => rule.enforces id) := by
  rw [rulesFor, Value.key_eq_ok_keyOf hid, Result.ok_bind, hmade.rulesByRequirement,
    getD_get?_citedIndex_keyOf hmade.ruleNames hid]
  rfl

theorem Catalog.controlsFor_eq_ok {id : Value} (hid : id.isIdentifier) :
    catalog.controlsFor id =
      .ok (catalog.controls.filter fun control => control.protects id) := by
  rw [controlsFor, Value.key_eq_ok_keyOf hid, Result.ok_bind, hmade.controlsByRequirement,
    getD_get?_citedIndex_keyOf hmade.controlNames hid]
  rfl

/-- A control is made of what its definition names. -/
theorem Control.of_mem_controls {control : Control} (hcontrol : control ∈ catalog.controls) :
    AllIdentifiers control.rules ∧
      control.requirements = (requirementsOfRules catalog.rules control.rules).eraseDupsBy
        fun v w => v.keyOf == w.keyOf := by
  have hyields : ∀ control ∈ catalog.controls, AllIdentifiers control.rules ∧
      control.requirements = (requirementsOfRules catalog.rules control.rules).eraseDupsBy
        fun v w => v.keyOf == w.keyOf := by
    refine Yields.mapM (fun definition _ control h => ?_) hmade.controls
    rw [hmade.ruleIndex] at h
    exact (Control.of_ofDefinition_eq_ok h).2
  exact hyields control hcontrol

/-- A control protects what the rules enforce that it names. -/
theorem Control.protects_iff {control : Control} (hcontrol : control ∈ catalog.controls)
    {id : Value} (hid : id.isIdentifier) :
    control.protects id ↔ ∃ name ∈ control.rules, ∃ rule,
      ruleWith? catalog.rules name = some rule ∧ rule.enforces id := by
  obtain ⟨-, hrequirements⟩ := Control.of_mem_controls hmade hcontrol
  have hprotects : control.protects id =
      (requirementsOfRules catalog.rules control.rules).any fun v => v.keyOf == id.keyOf := by
    rw [← Index.any_eraseDupsBy, ← hrequirements]
    exact (any_keyOf_eq_isAmong (hmade.controlNames control hcontrol) hid).symm
  have henforces (rule : Rule) (hrule : rule ∈ catalog.rules) :
      rule.enforces id = rule.requirements.any fun v => v.keyOf == id.keyOf :=
    (any_keyOf_eq_isAmong (hmade.ruleNames rule hrule) hid).symm
  rw [hprotects, List.any_eq_true]
  constructor
  · rintro ⟨term, hterm, hkey⟩
    obtain ⟨name, hname, rule, hrule, hmem⟩ := mem_requirementsOfRules.1 hterm
    refine ⟨name, hname, rule, hrule, ?_⟩
    rw [henforces rule (mem_of_ruleWith? hrule).1]
    exact List.any_eq_true.2 ⟨term, hmem, hkey⟩
  · rintro ⟨name, hname, rule, hrule, henforced⟩
    rw [henforces rule (mem_of_ruleWith? hrule).1] at henforced
    obtain ⟨term, hmem, hkey⟩ := List.any_eq_true.1 henforced
    exact ⟨term, mem_requirementsOfRules.2 ⟨name, hname, rule, hrule, hmem⟩, hkey⟩

/-- What a control protects is enforced by a rule. -/
theorem Control.exists_enforces {control : Control} (hcontrol : control ∈ catalog.controls)
    {id : Value} (hid : id.isIdentifier) (h : control.protects id) :
    ∃ rule ∈ catalog.rules, rule.enforces id := by
  obtain ⟨_, -, rule, hrule, henforces⟩ := (Control.protects_iff hmade hcontrol hid).1 h
  exact ⟨rule, (mem_of_ruleWith? hrule).1, henforces⟩

/-- Of rules with different identifiers, a control protects what those enforce that it
covers. -/
theorem Control.protects_iff_covers
    (hdistinct : (catalog.rules.map fun rule => rule.id.keyOf).Nodup)
    {control : Control} (hcontrol : control ∈ catalog.controls) {id : Value}
    (hid : id.isIdentifier) :
    control.protects id ↔
      ∃ rule ∈ catalog.rules, rule.enforces id ∧ control.covers rule.id := by
  have hnames := (Control.of_mem_controls hmade hcontrol).1
  have hruleIds := List.forall_mem_map.1 hmade.ruleIds
  rw [Control.protects_iff hmade hcontrol hid]
  constructor
  · rintro ⟨name, hname, rule, hrule, henforces⟩
    obtain ⟨hmem, hkey⟩ := mem_of_ruleWith? hrule
    refine ⟨rule, hmem, henforces, List.any_eq_true.2 ⟨name, hname, ?_⟩⟩
    exact (Value.keyOf_eq_iff (hnames name hname) (hruleIds rule hmem)).1 hkey.symm
  · rintro ⟨rule, hmem, henforces, hcovers⟩
    obtain ⟨name, hname, hsame⟩ := List.any_eq_true.1 hcovers
    have hkey := (Value.keyOf_eq_iff (hnames name hname) (hruleIds rule hmem)).2 hsame
    exact ⟨name, hname, rule, ruleWith?_of_mem hdistinct hmem hkey.symm, henforces⟩

/-- Rules of different identifiers have different keys. -/
theorem Catalog.nodup_keys_of_distinct
    (hdistinct : (catalog.rules.map Rule.id).Pairwise fun v w => v.sameIdentity w = false) :
    (catalog.rules.map fun rule => rule.id.keyOf).Nodup := by
  have hruleIds := List.forall_mem_map.1 hmade.ruleIds
  refine List.pairwise_map.2 ((List.pairwise_map.1 hdistinct).imp_of_mem ?_)
  intro rule other hrule hother hne hkey
  rw [(Value.keyOf_eq_iff (hruleIds rule hrule) (hruleIds other hother)).1 hkey] at hne
  cases hne

end Lookups

/-- What a catalog tells about one requirement. -/
structure Catalog.TellsAbout (catalog : Catalog) (id : Value) : Prop where
  rules : catalog.rulesFor id = .ok (catalog.rules.filter fun rule => rule.enforces id)
  controls : catalog.controlsFor id =
    .ok (catalog.controls.filter fun control => control.protects id)
  enforced : (catalog.controls.filter fun control => control.protects id) ≠ [] →
    (catalog.rules.filter fun rule => rule.enforces id) ≠ []
  joined : ((catalog.rules.map Rule.id).Pairwise fun v w => v.sameIdentity w = false) →
    ∀ control ∈ catalog.controls,
      (control ∈ catalog.controls.filter fun control => control.protects id) ↔
        ∃ rule ∈ catalog.rules.filter fun rule => rule.enforces id, control.covers rule.id

/--
A catalog is built of readable parts, and then it finds by its indices what a search
finds: the rules and controls that are about a requirement, each once and in order, and
the requirements that any are about. Whatever has a control has a rule, and the controls
are those that cover one of the rules.
-/
theorem Catalog.build_joins (fields : List Registry.Field) (checks definitions : List Value)
    (version : Value) :
    ((∃ catalog, build fields checks definitions version = .ok catalog) ↔
        Readable fields checks definitions) ∧
      ∀ catalog, build fields checks definitions version = .ok catalog →
        (∀ id : Value, id.isIdentifier → catalog.TellsAbout id) ∧
        enforcedIds catalog.rules =
          .ok (catalog.rulesByRequirement.entries.map Entry.shown) ∧
        protectedIds catalog.controls =
          .ok (catalog.controlsByRequirement.entries.map Entry.shown) := by
  refine ⟨exists_build_iff, fun catalog h => ?_⟩
  have hmade := of_build_eq_ok h
  refine ⟨fun id hid => ?_, ?_, ?_⟩
  · refine {
      rules := rulesFor_eq_ok hmade hid
      controls := controlsFor_eq_ok hmade hid
      enforced := fun hcontrols => ?_
      joined := fun hdistinct control hcontrol => ?_ }
    · obtain ⟨control, hcontrol⟩ := List.exists_mem_of_ne_nil _ hcontrols
      obtain ⟨hmem, hprotects⟩ := List.mem_filter.1 hcontrol
      obtain ⟨rule, hrule, henforces⟩ := Control.exists_enforces hmade hmem hid hprotects
      exact List.ne_nil_of_mem (List.mem_filter.2 ⟨hrule, henforces⟩)
    · have hkeys := nodup_keys_of_distinct hmade hdistinct
      simp only [List.mem_filter, hcontrol, true_and, and_assoc]
      exact Control.protects_iff_covers hmade hkeys hcontrol hid
  · rw [hmade.rulesByRequirement, shown_citedIndex]
    refine distinctValues_eq_ok_iff.2 ⟨?_, rfl⟩
    intro term hterm
    obtain ⟨rule, hrule, hmem⟩ := List.mem_flatMap.1 hterm
    exact hmade.ruleNames rule hrule term hmem
  · rw [hmade.controlsByRequirement, shown_citedIndex]
    refine distinctValues_eq_ok_iff.2 ⟨?_, rfl⟩
    intro term hterm
    obtain ⟨control, hcontrol, hmem⟩ := List.mem_flatMap.1 hterm
    exact hmade.controlNames control hcontrol term hmem

/-- A rule that names a requirement twice, another one that names it once, a control that
covers both and a rule that is not in the pack, and a control of that unknown rule alone. -/
theorem Catalog.build_joins_shared :
    let field (id : String) : Registry.Field := { id := .text id, term := .text id }
    let check (id : String) (terms : List Value) : Value := .object [
      ("check_id", .text id), ("check_name", .text id),
      ("pint_reference_terms", .list terms)]
    let checks := [check "UAE-UC1-CHK-001" [.text "IBT-001", .text "IBT-001"],
      check "UAE-UC1-CHK-002" [.text "IBT-002", .text "IBT-001"]]
    let control (id : String) (rules : List Value) : Value := .object [
      ("control_id", .text id), ("control_name", .text id),
      ("control_type", .text "detective"), ("covered_rule_ids", .list rules)]
    let controls := [control "CTRL-001" [.text "UAE-UC1-CHK-099"],
      control "CTRL-002"
        [.text "UAE-UC1-CHK-002", .text "UAE-UC1-CHK-099", .text "UAE-UC1-CHK-001"]]
    let texts (ids : List Value) : List (Option String) := ids.map fun id => id.asText.toOption
    ∃ catalog rules controlsOf,
      build [field "IBT-001", field "IBT-002"] checks controls .null = .ok catalog ∧
      catalog.rulesFor (.text "IBT-001") = .ok rules ∧
      catalog.controlsFor (.text "IBT-001") = .ok controlsOf ∧
      catalog.TellsAbout (.text "IBT-001") ∧
      texts (rules.map Rule.id) = [some "UAE-UC1-CHK-001", some "UAE-UC1-CHK-002"] ∧
      texts (controlsOf.map Control.id) = [some "CTRL-002"] := by
  intro field check checks control controls texts
  have hrun : (do
      let catalog ← build [field "IBT-001", field "IBT-002"] checks controls .null
      let rules ← catalog.rulesFor (.text "IBT-001")
      let controlsOf ← catalog.controlsFor (.text "IBT-001")
      return (texts (rules.map Rule.id), texts (controlsOf.map Control.id))) =
      (.ok ([some "UAE-UC1-CHK-001", some "UAE-UC1-CHK-002"], [some "CTRL-002"]) :
        Result (List (Option String) × List (Option String))) := by
    decide +kernel
  obtain ⟨catalog, hcatalog, hrun⟩ := Result.bind_eq_ok.1 hrun
  obtain ⟨rules, hrules, hrun⟩ := Result.bind_eq_ok.1 hrun
  obtain ⟨controlsOf, hcontrols, hrun⟩ := Result.bind_eq_ok.1 hrun
  obtain ⟨hruleIds, hcontrolIds⟩ := Prod.mk.inj (Except.ok.inj hrun)
  have htells := ((build_joins _ _ _ _).2 catalog hcatalog).1 (.text "IBT-001") rfl
  exact ⟨catalog, rules, controlsOf, hcatalog, hrules, hcontrols, htells, hruleIds, hcontrolIds⟩

end InvoiceReadiness.Traceability
