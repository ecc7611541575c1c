import InvoiceReadiness.Proofs.Registry.Loading
import InvoiceReadiness.Proofs.Traceability.Issues
import InvoiceReadiness.Registry.Coverage

/-!
# Uses of a registry

A registry that was loaded is put to use. Its coverage by a mapping profile is computed, a
catalog is built of it with the check pack and the controls of the business, and of the
catalog the consistency is checked and a matrix is made.

Loading asks only whether two cells of an entry are filled, while the uses read six cells of
a field, most of them as texts. Here each use is traced back to the cells that it reads: it
ends well if and only if all fields have there what it needs. The pack and the controls are
data of the program, so nothing that they contribute can stand in the way.

## Main results

* `returns_coverage_iff`, `Catalog.returns_ofRegistry_iff`,
  `Catalog.returns_consistency_of_ofRegistry`, `Matrix.returns_ofCatalog_iff` — when each of
  the uses ends well.
* `isUsable_iff` — all of them do if and only if every field is usable.
* `usable_of_loaded` — the uses of a registry that was loaded from a file.
-/

namespace InvoiceReadiness

open Json Traceability

/-! ## Cells that are read -/

namespace Value

/-- Whether a value is a text. -/
def isText : Value → Bool
  | text _ => true
  | _ => false

/-- Whether a value can be asked if it holds a text. -/
def isSearchable : Value → Bool
  | text _ => true
  | list _ => true
  | object _ => true
  | _ => false

theorem isText_iff {v : Value} : v.isText ↔ ∃ s, v = text s := by
  cases v <;> simp [isText]

theorem isSearchable_of_isText {v : Value} (h : v.isText) : v.isSearchable := by
  obtain ⟨s, rfl⟩ := isText_iff.1 h
  rfl

theorem isIdentifier_of_isText {v : Value} (h : v.isText) : v.isIdentifier := by
  obtain ⟨s, rfl⟩ := isText_iff.1 h
  rfl

theorem returns_asText_iff {v : Value} : Returns v.asText ↔ v.isText := by
  cases v with
  | text s => exact iff_of_true ⟨s, rfl⟩ rfl
  | _ => exact iff_of_false nofun nofun

theorem returns_key_iff {v : Value} : Returns v.key ↔ v.isIdentifier :=
  ⟨fun ⟨_, hkey⟩ => isIdentifier_of_key_eq_ok hkey, fun h => ⟨_, key_eq_ok_keyOf h⟩⟩

end Value

namespace Registry.Field

variable {f : Field}

/-- A field that is mandatory or not: the cells are texts that are read to tell, where the
flag is read only if the requirement occurs at least once. -/
structure IsJudged (f : Field) : Prop where
  cardinality : f.cardinality.isText
  flag : ∀ s, f.cardinality = .text s → s.toList.head? = some '1' → f.mandatoryFlag.isText

theorem returns_isMandatory_iff : Returns f.isMandatory ↔ f.IsJudged := by
  have hread : Returns f.isMandatory ↔ Returns f.cardinality.asText ∧
      ∀ s, f.cardinality.asText = .ok s → s.toList.head? = some '1' →
        Returns f.mandatoryFlag.asText := by
    simp [isMandatory]
  rw [hread, Value.returns_asText_iff, Value.returns_asText_iff]
  constructor
  · rintro ⟨hcardinality, hflag⟩
    refine ⟨hcardinality, fun s hs => hflag s ?_⟩
    rw [hs]
    rfl
  · rintro ⟨hcardinality, hflag⟩
    obtain ⟨s, hs⟩ := Value.isText_iff.1 hcardinality
    refine ⟨hcardinality, fun t ht => ?_⟩
    rw [hs] at ht
    cases ht
    exact hflag s hs

/-- A field that describes a requirement: it can be found by its identifier, is mandatory or
not, and tells its code list and who is responsible. Who is responsible is not asked if the
identifier says it. -/
structure IsReadable (f : Field) : Prop where
  id : f.id.isIdentifier
  judged : f.IsJudged
  format : f.formatPattern.isFilled → f.formatPattern.isText
  responsibility : (∀ s, f.id = .text s → isDerived s = false) → f.responsibility.isSearchable

/-- A field that can be used in every way; its status in tax law is shown in a matrix. -/
structure IsUsable (f : Field) : Prop extends IsReadable f where
  status : f.vatLawStatus.isText

end Registry.Field

namespace Traceability

theorem returns_sourceOf_iff {id : Value} : Returns (sourceOf id) ↔ id.isIdentifier := by
  unfold sourceOf
  rw [Returns.bind_iff, Value.returns_key_iff]
  refine and_iff_left fun _ _ => ?_
  split <;> exact ⟨_, rfl⟩

theorem returns_codeListOf_iff {format : Value} :
    Returns (codeListOf format) ↔ (format.isFilled → format.isText) := by
  have hread : Returns (codeListOf format) ↔ Returns (format.orElse (.text "")).asText := by
    simp [codeListOf]
  rw [hread, Value.returns_asText_iff, Value.orElse]
  by_cases hfilled : format.isFilled
  · rw [if_pos hfilled, forall_prop_of_true hfilled]
  · rw [if_neg hfilled]
    exact iff_of_true rfl fun h => absurd h hfilled

theorem returns_mentionsProvider_iff {responsibility : Value} :
    Returns (mentionsProvider responsibility) ↔ responsibility.isSearchable := by
  cases responsibility with
  | text s => exact iff_of_true ⟨_, rfl⟩ rfl
  | list items => exact iff_of_true ⟨_, rfl⟩ rfl
  | object members => exact iff_of_true ⟨_, rfl⟩ rfl
  | _ => exact iff_of_false nofun nofun

/-- Whether a requirement is derived is said by its identifier or by who is responsible. -/
theorem Requirement.returns_derived_iff {f : Registry.Field} {make : Bool → Requirement} :
    Returns (match f.id with
      | .text s =>
        if isDerived s then (do return make (← pure true))
        else (do return make (← mentionsProvider f.responsibility))
      | _ => do return make (← mentionsProvider f.responsibility)) ↔
      ((∀ s, f.id = .text s → isDerived s = false) → f.responsibility.isSearchable) := by
  split
  · rename_i s hid
    by_cases hderived : isDerived s
    · rw [if_pos hderived]
      exact iff_of_true ⟨_, rfl⟩ fun hnone => by simp [hnone s hid] at hderived
    · have hnone : ∀ t, f.id = .text t → isDerived t = false := by
        intro t ht
        rw [hid] at ht
        cases ht
        exact Bool.eq_false_iff.2 hderived
      rw [if_neg hderived, forall_prop_of_true hnone]
      simp [returns_mentionsProvider_iff]
  · rename_i hother
    have hnone : ∀ t, f.id = .text t → isDerived t = false := fun t ht => absurd ht (hother t)
    rw [forall_prop_of_true hnone]
    simp [returns_mentionsProvider_iff]

/-- The fields that describe requirements. -/
theorem Requirement.returns_ofField_iff {f : Registry.Field} :
    Returns (Requirement.ofField f) ↔ f.IsReadable := by
  simp only [ofField, Returns.bind_iff]
  constructor
  · rintro ⟨⟨source, hsource⟩, h⟩
    obtain ⟨⟨mandatory, hmandatory⟩, h⟩ := h source hsource
    obtain ⟨⟨codeList, hcodeList⟩, h⟩ := h mandatory hmandatory
    exact {
      id := returns_sourceOf_iff.1 ⟨source, hsource⟩
      judged := Registry.Field.returns_isMandatory_iff.1 ⟨mandatory, hmandatory⟩
      format := returns_codeListOf_iff.1 ⟨codeList, hcodeList⟩
      responsibility := returns_derived_iff.1 (h codeList hcodeList) }
  · intro h
    exact ⟨returns_sourceOf_iff.2 h.id, fun _ _ =>
      ⟨Registry.Field.returns_isMandatory_iff.2 h.judged, fun _ _ =>
        ⟨returns_codeListOf_iff.2 h.format, fun _ _ =>
          returns_derived_iff.2 h.responsibility⟩⟩⟩

end Traceability

/-! ## Coverage -/

/-- The coverage of a registry reads of each field whether it is mandatory, and looks for its
identifier among those that are mapped. -/
theorem Registry.returns_coverage_iff {registry : Registry} {mapped : List Value} :
    Returns (registry.coverage mapped) ↔ AllIdentifiers mapped ∧
      ∀ field ∈ registry.fields, field.id.isIdentifier ∧ field.IsJudged := by
  have hreads : Returns (registry.coverage mapped) ↔ Returns (mapped.mapM Value.key) ∧
      Returns (registry.fields.mapM Field.isMandatory) ∧
      Returns (registry.fields.mapM fun field => field.id.key) := by
    simp only [coverage, Returns.bind_iff, Returns.pure_iff, implies_true, and_true]
    constructor
    · rintro ⟨⟨keys, hkeys⟩, h⟩
      obtain ⟨⟨mandatory, hmandatory⟩, h⟩ := h keys hkeys
      exact ⟨⟨keys, hkeys⟩, ⟨mandatory, hmandatory⟩, h mandatory hmandatory⟩
    · rintro ⟨hkeys, hmandatory, hknown⟩
      exact ⟨hkeys, fun _ _ => ⟨hmandatory, fun _ _ => hknown⟩⟩
  rw [hreads, Returns.mapM_iff, Returns.mapM_iff, Returns.mapM_iff, ← forall₂_and]
  simp only [Value.returns_key_iff, Field.returns_isMandatory_iff, AllIdentifiers, and_comm]

namespace Traceability

/-! ## Checks and controls of the business -/

/-- A check of the pack is a rule with an identifier and terms that are texts. -/
theorem Rule.exists_ofCheck_packCheck (check : Pint.PackCheck) :
    ∃ rule, Rule.ofCheck check.record.value = .ok rule ∧ rule.id = .text check.id ∧
      rule.requirements = check.terms.map Value.text := by
  obtain ⟨id, name, _, scope, _, severity, terms, _, _, _⟩ := check
  cases terms <;> exact ⟨_, rfl, rfl, rfl⟩

theorem Control.isDefined_value (definition : ControlDefinition) :
    Control.IsDefined definition.value where
  rules := by
    refine ⟨_, _, rfl, rfl, ?_⟩
    exact List.forall_mem_map.2 fun _ _ => rfl
  description := by
    simp only [List.forall_mem_cons]
    exact ⟨⟨_, rfl⟩, ⟨_, rfl⟩, ⟨_, rfl⟩, nofun⟩

theorem Control.of_ofDefinition_value {index : Index Rule} {definition : ControlDefinition}
    {c : Control} (h : Control.ofDefinition index definition.value = .ok c) :
    c.id = .text definition.id ∧ c.rules = definition.rules.map Value.text := by
  have hof : Control.ofDefinition index definition.value = (do
      let requirements ← Control.protectedBy index (definition.rules.map Value.text)
      return {
        id := .text definition.id
        name := .text definition.name
        type := .text definition.type.name
        description := .text definition.description
        rules := definition.rules.map Value.text
        requirements }) := rfl
  rw [hof] at h
  obtain ⟨requirements, -, ⟨⟩⟩ := Result.bind_eq_ok.1 h
  exact ⟨rfl, rfl⟩

/-! ## Catalogs -/

variable {registry : Registry} {catalog : Catalog}

/-- A catalog can be built of a registry if its fields describe requirements. -/
theorem Catalog.returns_ofRegistry_iff :
    Returns (Catalog.ofRegistry registry) ↔ ∀ field ∈ registry.fields, field.IsReadable := by
  have hfields : (∀ field ∈ registry.fields, ∃ r, Requirement.ofField field = .ok r) ↔
      ∀ field ∈ registry.fields, field.IsReadable :=
    forall₂_congr fun _ _ => Requirement.returns_ofField_iff
  rw [← hfields]
  constructor
  · intro h
    exact (exists_build_iff.1 h).fields
  · intro h
    refine exists_build_iff.2 {
      fields := h
      checks := List.forall_mem_map.2 fun check _ => ?_
      definitions := List.forall_mem_map.2 fun d _ => Control.isDefined_value d }
    obtain ⟨rule, hrule, hid, hterms⟩ := Rule.exists_ofCheck_packCheck check
    refine ⟨rule, hrule, ?_, ?_⟩
    · rw [hid]
      rfl
    · rw [hterms]
      exact List.forall_mem_map.2 fun _ _ => rfl

/-- Items that have texts for identifiers, and name what they name by texts. -/
def NamesByTexts {α : Type} (id : α → Value) (named : α → List Value) (item : α) : Prop :=
  (id item).isText ∧ ∀ name ∈ named item, name.isText

/-- Mentions by texts have a text. -/
theorem exists_arrow_of_namesByTexts {α : Type} {id : α → Value} {named : α → List Value}
    {items : List α} (h : ∀ item ∈ items, NamesByTexts id named item)
    {mention : Value × Value} (hmention : mention ∈ mentions id named items) :
    ∃ text, arrow mention.1 mention.2 = .ok text := by
  obtain ⟨item, hitem, name, hname, rfl⟩ := mem_mentions.1 hmention
  obtain ⟨hid, hnames⟩ := h item hitem
  obtain ⟨s, hs⟩ := Value.isText_iff.1 hid
  obtain ⟨t, rfl⟩ := Value.isText_iff.1 (hnames name hname)
  refine exists_arrow ?_ rfl
  rw [hs]
  rfl

section Built

variable (h : Catalog.ofRegistry registry = .ok catalog)

include h

theorem Catalog.madeOf_of_ofRegistry :
    catalog.MadeOf registry.fields (Pint.pack.map fun check => check.record.value)
      controlValues :=
  of_build_eq_ok h

/-- The rules of a catalog of a registry are those of the pack. -/
theorem Rule.namesByTexts_of_ofRegistry :
    ∀ rule ∈ catalog.rules, NamesByTexts Rule.id Rule.requirements rule := by
  refine Yields.mapM (fun v hv rule hrule => ?_) (Catalog.madeOf_of_ofRegistry h).rules
  obtain ⟨check, -, rfl⟩ := List.mem_map.1 hv
  obtain ⟨_, hof, hid, hterms⟩ := exists_ofCheck_packCheck check
  rw [hof] at hrule
  cases hrule
  refine ⟨Value.isText_iff.2 ⟨_, hid⟩, ?_⟩
  rw [hterms]
  exact List.forall_mem_map.2 fun _ _ => rfl

/-- The controls of a catalog of a registry are those of the business. -/
theorem Control.namesByTexts_of_ofRegistry :
    ∀ control ∈ catalog.controls, NamesByTexts Control.id Control.rules control := by
  refine Yields.mapM (fun v hv control hcontrol => ?_) (Catalog.madeOf_of_ofRegistry h).controls
  obtain ⟨definition, -, rfl⟩ := List.mem_map.1 hv
  obtain ⟨hid, hrules⟩ := of_ofDefinition_value hcontrol
  refine ⟨Value.isText_iff.2 ⟨_, hid⟩, ?_⟩
  rw [hrules]
  exact List.forall_mem_map.2 fun _ _ => rfl

/-- Whatever requirements a registry has, its catalog can be checked: what is listed is
named by the pack and the controls. -/
theorem Catalog.returns_consistency_of_ofRegistry : Returns catalog.consistency := by
  refine (exists_consistency_iff (madeOf_of_ofRegistry h)).2 fun mention hmention => ?_
  cases List.mem_append.1 hmention with
  | inl hterm =>
      exact exists_arrow_of_namesByTexts (Rule.namesByTexts_of_ofRegistry h)
        (List.mem_filter.1 hterm).1
  | inr hrule =>
      exact exists_arrow_of_namesByTexts (Control.namesByTexts_of_ofRegistry h)
        (List.mem_filter.1 hrule).1

end Built

/-! ## Matrices -/

/-- With the counts of a run, the catalog of a registry has a matrix if the status in tax law
of every field is a text. -/
theorem Matrix.returns_ofCatalog_iff (h : Catalog.ofRegistry registry = .ok catalog)
    {counts : Value} (hcounts : Row.TellsTallies counts) (populations : List FilePopulation) :
    Returns (Matrix.ofCatalog catalog populations counts) ↔
      ∀ field ∈ registry.fields, field.vatLawStatus.isText := by
  exact (exists_ofCatalog_tallies_iff (Catalog.madeOf_of_ofRegistry h) hcounts).trans
    (forall₂_congr fun _ _ => Value.isText_iff.symm)

end Traceability

/-! ## All uses -/

namespace Registry

/-- A registry with which everything can be done: its coverage by any identifiers is
computed, and it gives a catalog, of which the consistency is checked and a matrix is made
with the counts of any run. -/
structure IsUsable (registry : Registry) : Prop where
  covered : ∀ mapped, AllIdentifiers mapped → Returns (registry.coverage mapped)
  catalogued : ∃ catalog, Catalog.ofRegistry registry = .ok catalog ∧
    Returns catalog.consistency ∧
    ∀ populations counts, Row.TellsTallies counts →
      Returns (Matrix.ofCatalog catalog populations counts)

/-- Everything can be done with a registry if and only if its fields can be used. -/
theorem isUsable_iff {registry : Registry} :
    registry.IsUsable ↔ ∀ field ∈ registry.fields, field.IsUsable := by
  constructor
  · intro h field hfield
    obtain ⟨catalog, hcatalog, -, hmatrix⟩ := h.catalogued
    have hreadable := Catalog.returns_ofRegistry_iff.1 ⟨catalog, hcatalog⟩ field hfield
    have hstatus := (Matrix.returns_ofCatalog_iff hcatalog (.inl rfl) []).1
      (hmatrix [] .null (.inl rfl)) field hfield
    exact ⟨hreadable, hstatus⟩
  · intro h
    have hreadable : ∀ field ∈ registry.fields, field.IsReadable :=
      fun field hfield => (h field hfield).toIsReadable
    obtain ⟨catalog, hcatalog⟩ := Catalog.returns_ofRegistry_iff.2 hreadable
    refine ⟨fun mapped hmapped => returns_coverage_iff.2 ⟨hmapped, fun field hfield =>
      ⟨(h field hfield).id, (h field hfield).judged⟩⟩, catalog, hcatalog,
      Catalog.returns_consistency_of_ofRegistry hcatalog, fun populations counts hcounts => ?_⟩
    exact (Matrix.returns_ofCatalog_iff hcatalog hcounts populations).2
      fun field hfield => (h field hfield).status

/-! ## What is written in texts -/

/-- The cells of an entry that some use reads. -/
def readCells : List String :=
  ["dr_id", "mandatory_flag_by_use_case", "pint_ae_cardinality", "format_pattern",
   "vat_law_status", "data_responsibility"]

/-- Whether an entry is written in texts: what is read of it is a text, null, or absent. -/
def isOfTexts : Value → Bool
  | .object members => readCells.all fun name =>
      (Members.get members name).isNull || (Members.get members name).isText
  | _ => false

theorem Field.isText_cellOf {r : Record} {name : String}
    (h : (r.get name).isNull || (r.get name).isText) : (cellOf r name).isText := by
  unfold cellOf
  cases hcell : r.get name with
  | null => rfl
  | _ =>
      rw [hcell] at h
      exact h

theorem Field.isUsable_of_isOfTexts {entry : Value} {field : Field}
    (hmade : field.IsMadeOf entry) (h : isOfTexts entry) : field.IsUsable := by
  obtain ⟨r, rfl, hof, -, -⟩ := hmade.cells
  have htext : ∀ name ∈ readCells, (cellOf r name).isText :=
    fun name hname => isText_cellOf (List.all_eq_true.1 h name hname)
  simp only [readCells, List.forall_mem_cons] at htext
  obtain ⟨hid, hflag, hcardinality, hformat, hstatus, hresponsibility, -⟩ := htext
  unfold Field.ofRecord at hof
  split at hof
  · cases hof
  · cases hof
    exact {
      id := Value.isIdentifier_of_isText hid
      judged := ⟨hcardinality, fun _ _ _ => hflag⟩
      format := fun _ => hformat
      responsibility := fun _ => Value.isSearchable_of_isText hresponsibility
      status := hstatus }

theorem isUsable_of_all_isOfTexts {entries : List Value} {fields : List Field}
    (hmade : List.Forall₂ (fun entry field => Field.IsMadeOf entry field) entries fields)
    (h : entries.all isOfTexts) : ∀ field ∈ fields, field.IsUsable := by
  induction hmade with
  | nil => nofun
  | cons hfield _ ih =>
      rw [List.all_cons, Bool.and_eq_true] at h
      exact List.forall_mem_cons.2 ⟨Field.isUsable_of_isOfTexts hfield h.1, ih h.2⟩

/-- What the fields of a registry have to be like for each of its uses. -/
structure EndsByUse (registry : Registry) : Prop where
  coverage : ∀ mapped, AllIdentifiers mapped → (Returns (registry.coverage mapped) ↔
    ∀ field ∈ registry.fields, field.id.isIdentifier ∧ field.IsJudged)
  catalog : Returns (Catalog.ofRegistry registry) ↔
    ∀ field ∈ registry.fields, field.IsReadable
  consistency : ∀ catalog, Catalog.ofRegistry registry = .ok catalog →
    Returns catalog.consistency
  matrix : ∀ catalog populations counts, Catalog.ofRegistry registry = .ok catalog →
    Row.TellsTallies counts → (Returns (Matrix.ofCatalog catalog populations counts) ↔
      ∀ field ∈ registry.fields, field.vatLawStatus.isText)

theorem endsByUse (registry : Registry) : registry.EndsByUse where
  coverage := fun _ hmapped => returns_coverage_iff.trans (and_iff_right hmapped)
  catalog := Catalog.returns_ofRegistry_iff
  consistency := fun _ h => Catalog.returns_consistency_of_ofRegistry h
  matrix := fun _ populations _ h hcounts => Matrix.returns_ofCatalog_iff h hcounts populations

/--
**A registry that was loaded can be used if it is written in texts.** Its fields are made of
the entries of the file, one by one. If what is read of the entries are texts, null or
absent, then its coverage by any identifiers can be computed, and there is a catalog of which
the consistency can be checked and a matrix made with the counts of any run. Otherwise the
uses end well whose cells are what they need, and all of them do if every field is usable.
-/
theorem usable_of_loaded {bytes : ByteArray} {registry : Registry}
    (h : ofBytes bytes = .ok registry) :
    ∃ s v entries, String.fromUTF8? bytes = some s ∧ read fileLimits s = .ok v ∧
      HasEntries v entries ∧
      List.Forall₂ (fun entry field => Field.IsMadeOf entry field) entries registry.fields ∧
      (entries.all isOfTexts → registry.IsUsable) ∧
      (registry.IsUsable ↔ ∀ field ∈ registry.fields, field.IsUsable) ∧
      registry.EndsByUse := by
  unfold ofBytes at h
  cases hs : String.fromUTF8? bytes with
  | none =>
      rw [hs] at h
      cases h
  | some s =>
      rw [hs] at h
      have haccounts := accounts_ofText s
      dsimp only at h
      rw [h] at haccounts
      obtain ⟨v, hread, hloaded⟩ := haccounts
      obtain ⟨entries, hentries, hmade⟩ := hloaded.fields
      exact ⟨s, v, entries, rfl, hread, hentries, hmade,
        fun htexts => isUsable_iff.2 (isUsable_of_all_isOfTexts hmade htexts), isUsable_iff,
        registry.endsByUse⟩

/-- A file with an entry in texts: of the cells that are read some are null or absent, and one
that is not read is a number. -/
theorem usable_of_loaded_sparse :
    let text := "\x7b\"fields\": [\x7b\"dr_id\": \"IBT-001\", \"business_term\": \"Number\", " ++
      "\"format_pattern\": null, \"mls_relevance\": 3\x7d]\x7d"
    ∃ registry, ofBytes text.toUTF8 = .ok registry ∧ registry.IsUsable := by
  intro text
  have htext : String.fromUTF8? text.toUTF8 = some text := by decide +kernel
  have hof : ofBytes text.toUTF8 = ofText text := by
    unfold ofBytes
    rw [htext]
  have hloads : (ofText text).isOk := by decide +kernel
  have hrun : (do
      let v ← read fileLimits text
      let entries ← (← v.member "fields").elements
      return entries.all isOfTexts) = (.ok true : Result Bool) := by
    decide +kernel
  obtain ⟨registry, hregistry⟩ := Returns.of_isOk hloads
  obtain ⟨v, hv, hrun⟩ := Result.bind_eq_ok.1 hrun
  obtain ⟨fields, hfields, hrun⟩ := Result.bind_eq_ok.1 hrun
  obtain ⟨entries, hentries, hrun⟩ := Result.bind_eq_ok.1 hrun
  obtain ⟨s, w, given, hs, hw, ⟨release, rfl, hgiven⟩, -, husable, -⟩ :=
    usable_of_loaded (hof.trans hregistry)
  refine ⟨registry, hof.trans hregistry, husable ?_⟩
  -- The entries that are meant are those of the text.
  rw [htext] at hs
  cases hs
  rw [hv] at hw
  cases hw
  have hmember : release.value.member "fields" = .ok (.list given) := congrArg Except.ok hgiven
  rw [hmember] at hfields
  cases hfields
  cases hentries
  exact Except.ok.inj hrun

/-- An entry whose cardinality is a number: the registry is loaded, but neither its coverage
nor a catalog can be computed. -/
theorem loaded_unusable :
    let text := "\x7b\"fields\": [\x7b\"dr_id\": \"IBT-001\", \"business_term\": \"Number\", " ++
      "\"pint_ae_cardinality\": 1\x7d]\x7d"
    ∃ registry, ofBytes text.toUTF8 = .ok registry ∧
      registry.coverage [] = .error .notText ∧
      Catalog.ofRegistry registry = .error .notText := by
  intro text
  have hrun : (do
      let registry ← ofBytes text.toUTF8
      return ((registry.coverage []).map fun _ => (),
        (Catalog.ofRegistry registry).map fun _ => ())) =
      (.ok (.error .notText, .error .notText) : Result (Result Unit × Result Unit)) := by
    decide +kernel
  obtain ⟨registry, hregistry, hrun⟩ := Result.bind_eq_ok.1 hrun
  obtain ⟨hcoverage, hcatalog⟩ := Prod.mk.inj (Except.ok.inj hrun)
  exact ⟨registry, hregistry, Result.eq_error_of_map hcoverage,
    Result.eq_error_of_map hcatalog⟩

end Registry

end InvoiceReadiness
