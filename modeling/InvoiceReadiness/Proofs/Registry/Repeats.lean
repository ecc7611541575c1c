import InvoiceReadiness.Proofs.Registry.Uses

/-!
# Identifiers that come more than once

A field of a registry, and the requirement of a catalog that it describes, are looked up by
identifier in three ways. The registry and the list of requirements are searched from the
front, so of several the first one is found. The catalog keeps its requirements in an index,
where a later requirement takes the place of an earlier one, so the last one is found.

Nothing on the way from the file to the catalog asks whether the identifiers are distinct.
If they are, the three lookups tell of one field. If not, they do so if and only if the first
and the last field of an identifier describe the same requirement.

## Main results

* `firstAndLast_of_madeOf` — which field each of the lookups finds.
* `lookupsAgree_iff` — when the lookups agree on an identifier.
* `lookups_of_texts` — the lookups of a registry of texts.
-/

namespace InvoiceReadiness

open Traceability

/-- Lists that belong together item by item begin with items that belong together, and end
with such items, if there are any. -/
theorem ends_of_forall₂ {α β : Type} {R : α → β → Prop} {xs : List α} {ys : List β}
    (h : List.Forall₂ R xs ys) :
    (xs = [] ∧ ys = []) ∨ ∃ first last first' last',
      xs.head? = some first ∧ xs.getLast? = some last ∧ ys.head? = some first' ∧
        ys.getLast? = some last' ∧ R first first' ∧ R last last' := by
  induction h with
  | nil => exact .inl ⟨rfl, rfl⟩
  | @cons x y xs ys hxy hrest ih =>
      refine .inr ?_
      rcases ih with ⟨rfl, rfl⟩ | ⟨_, last, _, last', -, hlast, -, hlast', -, hends⟩
      · exact ⟨x, x, y, y, rfl, rfl, rfl, rfl, hxy, hxy⟩
      · refine ⟨x, last, y, last', rfl, ?_, rfl, ?_, hxy, hends⟩
        · rw [List.getLast?_cons, hlast]
          rfl
        · rw [List.getLast?_cons, hlast']
          rfl

/-- A text is the identity of what it equals. -/
theorem Value.sameIdentity_of_isText {v : Value} (h : v.isText) (w : Value) :
    v.sameIdentity w = v.same w := by
  obtain ⟨s, rfl⟩ := isText_iff.1 h
  exact Bool.or_false _

/-- A text equals nothing but itself. -/
theorem Value.eq_of_same_of_isText {v w : Value} (h : v.isText) (hsame : v.same w) : v = w := by
  obtain ⟨s, rfl⟩ := isText_iff.1 h
  cases w <;> simp_all [same]

namespace Registry

/-- Whether everything that a field says is a text. -/
def Field.isOfTexts (f : Field) : Bool :=
  [f.id, f.term, f.category, f.mandatoryFlag, f.cardinality, f.dataType, f.formatPattern,
    f.validation, f.derivation, f.errorText, f.path, f.relevance, f.vatLawStatus,
    f.responsibility].all Value.isText

namespace Field

variable {f : Field}

theorem isReadable_of_isOfTexts (h : f.isOfTexts) : f.IsReadable := by
  have hcells := List.all_eq_true.1 h
  simp only [List.forall_mem_cons] at hcells
  obtain ⟨hid, -, -, hflag, hcardinality, -, hformat, -, -, -, -, -, -, hresponsibility, -⟩ :=
    hcells
  exact {
    id := Value.isIdentifier_of_isText hid
    judged := ⟨hcardinality, fun _ _ _ => hflag⟩
    format := fun _ => hformat
    responsibility := fun _ => Value.isSearchable_of_isText hresponsibility }

theorem isText_id_of_isOfTexts (h : f.isOfTexts) : f.id.isText :=
  List.all_eq_true.1 h f.id List.mem_cons_self

end Field

/-- The fields with an identifier, in the order of the registry. -/
def fieldsWith (registry : Registry) (id : Value) : List Field :=
  registry.fields.filter fun f => f.id.same id

/-- The three lookups of an identifier find nothing, or they find one field and the
requirement that it describes. -/
inductive LookupsAgree (registry : Registry) (catalog : Catalog) (id : Value) : Prop where
  | nothing (field : registry.find? id = none)
      (searched : findRequirement? catalog.requirements id = none)
      (indexed : catalog.requirement? id = .ok none)
  | one (f : Field) (r : Requirement) (field : registry.find? id = some f)
      (describes : Requirement.ofField f = .ok r)
      (searched : findRequirement? catalog.requirements id = some r)
      (indexed : catalog.requirement? id = .ok (some r))

/-- What the lookups of an identifier find: nothing if no field has it, and otherwise the
first field that has it, the requirement that the first one describes, and the requirement
that the last one describes. -/
structure FirstAndLast (registry : Registry) (catalog : Catalog) (id : Value) : Prop where
  nothing : registry.fieldsWith id = [] →
    registry.find? id = none ∧ findRequirement? catalog.requirements id = none ∧
      catalog.requirement? id = .ok none
  found : ∀ first last, (registry.fieldsWith id).head? = some first →
    (registry.fieldsWith id).getLast? = some last →
    ∃ r s, Requirement.ofField first = .ok r ∧ Requirement.ofField last = .ok s ∧
      registry.find? id = some first ∧
      findRequirement? catalog.requirements id = some r ∧
      catalog.requirement? id = .ok (some s)

section Lookups

variable {registry : Registry} {checks definitions : List Value} {catalog : Catalog}
  (hmade : catalog.MadeOf registry.fields checks definitions)

include hmade

/-- The requirements with an identifier are those of the fields with it. -/
theorem forall₂_fieldsWith (id : Value) :
    List.Forall₂ (fun f r => Requirement.ofField f = .ok r) (registry.fieldsWith id)
      (catalog.requirements.filter fun r => r.id.same id) := by
  refine List.rel_filter (fun f r hr => ?_) (Result.forall₂_of_mapM_eq_ok hmade.requirements)
  show f.id.same id ↔ r.id.same id
  rw [(Requirement.of_ofField_eq_ok hr).2.1]

variable (htexts : ∀ f ∈ registry.fields, f.isOfTexts)

include htexts

theorem isText_requirementId {r : Requirement} (hr : r ∈ catalog.requirements) :
    r.id.isText := by
  have hmem : r.id ∈ registry.fields.map Field.id :=
    hmade.map_id ▸ List.mem_map_of_mem hr
  obtain ⟨f, hf, hid⟩ := List.mem_map.1 hmem
  exact hid ▸ Field.isText_id_of_isOfTexts (htexts f hf)

/-- The index finds the last requirement with an identifier. -/
theorem requirement?_eq_getLast? {id : Value} (hid : id.isIdentifier) :
    catalog.requirement? id =
      .ok (catalog.requirements.filter fun r => r.id.same id).getLast? := by
  have hsame : ∀ r ∈ catalog.requirements, (r.id.keyOf == id.keyOf) = r.id.same id := by
    intro r hr
    have htext := isText_requirementId hmade htexts hr
    rw [← Value.sameIdentity_of_isText htext, Bool.eq_iff_iff, beq_iff_eq]
    exact Value.keyOf_eq_iff (Value.isIdentifier_of_isText htext) hid
  rw [Catalog.requirement?, Value.key_eq_ok_keyOf hid, Result.ok_bind, hmade.requirementIndex,
    Index.get?_lastOf, List.filter_congr hsame]
  rfl

theorem firstAndLast_of_madeOf {id : Value} (hid : id.isIdentifier) :
    registry.FirstAndLast catalog id := by
  have hfield : registry.find? id = (registry.fieldsWith id).head? := List.head?_filter.symm
  have hsearched : findRequirement? catalog.requirements id =
      (catalog.requirements.filter fun r => r.id.same id).head? := List.head?_filter.symm
  have hindexed := requirement?_eq_getLast? hmade htexts hid
  have hends := ends_of_forall₂ (forall₂_fieldsWith hmade id)
  constructor
  · intro hempty
    rcases hends with ⟨-, hnone⟩ | ⟨first, -, -, -, hfirst, -⟩
    · rw [hfield, hsearched, hindexed, hempty, hnone]
      exact ⟨rfl, rfl, rfl⟩
    · rw [hempty] at hfirst
      cases hfirst
  · intro first last hfirst hlast
    rcases hends with ⟨hnone, -⟩ | ⟨first', last', r, s, hfirst', hlast', hr, hs, hof, hof'⟩
    · rw [hnone] at hfirst
      cases hfirst
    · cases hfirst.symm.trans hfirst'
      cases hlast.symm.trans hlast'
      rw [hfield, hsearched, hindexed, hr, hs]
      exact ⟨r, s, hof, hof', hfirst, rfl, rfl⟩

end Lookups

/-- The lookups agree on an identifier if and only if the first and the last field that have
it describe the same requirement. -/
theorem lookupsAgree_iff {registry : Registry} {catalog : Catalog} {id : Value}
    (h : registry.FirstAndLast catalog id) :
    registry.LookupsAgree catalog id ↔
      ∀ first last, (registry.fieldsWith id).head? = some first →
        (registry.fieldsWith id).getLast? = some last →
        Requirement.ofField first = Requirement.ofField last := by
  constructor
  · intro hagree first last hfirst hlast
    obtain ⟨r, s, hr, hs, hfield, -, hindexed⟩ := h.found first last hfirst hlast
    cases hagree with
    | nothing hnone => cases hfield.symm.trans hnone
    | one f r' hfield' hdescribes _ hindexed' =>
        cases hfield.symm.trans hfield'
        cases hindexed.symm.trans hindexed'
        rw [hdescribes, hs]
  · intro hsame
    rcases hfields : registry.fieldsWith id with _ | ⟨first, rest⟩
    · obtain ⟨hfield, hsearched, hindexed⟩ := h.nothing hfields
      exact .nothing hfield hsearched hindexed
    · have hfirst : (registry.fieldsWith id).head? = some first := by rw [hfields]; rfl
      obtain ⟨last, hlast⟩ : ∃ last, (registry.fieldsWith id).getLast? = some last :=
        ⟨_, hfields ▸ List.getLast?_cons⟩
      obtain ⟨r, s, hr, hs, hfield, hsearched, hindexed⟩ := h.found first last hfirst hlast
      have hone : r = s := Except.ok.inj (hr.symm.trans ((hsame first last hfirst hlast).trans hs))
      exact .one first r hfield hr hsearched (hone ▸ hindexed)

/-- Of distinct texts each is the identifier of one field at most. -/
theorem eq_of_mem_fieldsWith {registry : Registry} (htexts : ∀ f ∈ registry.fields, f.isOfTexts)
    (hdistinct : (registry.fields.map Field.id).Nodup) {id : Value} {f g : Field}
    (hf : f ∈ registry.fieldsWith id) (hg : g ∈ registry.fieldsWith id) : f = g := by
  obtain ⟨hf, hfid⟩ := List.mem_filter.1 hf
  obtain ⟨hg, hgid⟩ := List.mem_filter.1 hg
  refine List.inj_on_of_nodup_map hdistinct hf hg ?_
  rw [Value.eq_of_same_of_isText (Field.isText_id_of_isOfTexts (htexts f hf)) hfid,
    Value.eq_of_same_of_isText (Field.isText_id_of_isOfTexts (htexts g hg)) hgid]

/-- What cannot be an identifier is not the one of any field; the index refuses it. -/
theorem lookups_of_not_isIdentifier {registry : Registry} {checks definitions : List Value}
    {catalog : Catalog} (hmade : catalog.MadeOf registry.fields checks definitions)
    (htexts : ∀ f ∈ registry.fields, f.isOfTexts) {id : Value} (hid : id.isIdentifier = false) :
    registry.find? id = none ∧ findRequirement? catalog.requirements id = none ∧
      catalog.requirement? id = .error .notAKey := by
  have hother : ∀ v : Value, v.isText → ¬ v.same id := by
    intro v hv hsame
    rw [← Value.eq_of_same_of_isText hv hsame, Value.isIdentifier_of_isText hv] at hid
    cases hid
  refine ⟨List.find?_eq_none.2 fun f hf => ?_, List.find?_eq_none.2 fun r hr => ?_, ?_⟩
  · exact hother f.id (Field.isText_id_of_isOfTexts (htexts f hf))
  · exact hother r.id (isText_requirementId hmade htexts hr)
  · cases id with
    | list items => rfl
    | object members => rfl
    | _ => cases hid

/--
**The lookups of a registry of texts.** It gives a catalog. In every catalog of its fields, and
for every identifier, the registry finds the first field, the search through the requirements
the one that the first field describes, and the index the one that the last field describes, or
all find nothing. So they agree if the first and the last field describe the same requirement,
and only then; they always do if the identifiers of the fields are distinct.
-/
theorem lookups_of_texts {registry : Registry}
    (htexts : ∀ f ∈ registry.fields, f.isOfTexts) :
    Returns (Catalog.ofRegistry registry) ∧
      ∀ checks definitions version catalog,
        Catalog.build registry.fields checks definitions version = .ok catalog →
        (∀ id : Value, id.isIdentifier →
          registry.FirstAndLast catalog id ∧
          (registry.LookupsAgree catalog id ↔
            ∀ first last, (registry.fieldsWith id).head? = some first →
              (registry.fieldsWith id).getLast? = some last →
              Requirement.ofField first = Requirement.ofField last) ∧
          ((registry.fields.map Field.id).Nodup → registry.LookupsAgree catalog id)) ∧
        ∀ id : Value, id.isIdentifier = false →
          registry.find? id = none ∧ findRequirement? catalog.requirements id = none ∧
            catalog.requirement? id = .error .notAKey := by
  refine ⟨Catalog.returns_ofRegistry_iff.2 fun f hf =>
    Field.isReadable_of_isOfTexts (htexts f hf), ?_⟩
  intro checks definitions version catalog hcatalog
  have hmade := Catalog.of_build_eq_ok hcatalog
  refine ⟨fun id hid => ?_, fun id hid => lookups_of_not_isIdentifier hmade htexts hid⟩
  have hends := firstAndLast_of_madeOf hmade htexts hid
  refine ⟨hends, lookupsAgree_iff hends, fun hdistinct => (lookupsAgree_iff hends).2 ?_⟩
  intro first last hfirst hlast
  rw [eq_of_mem_fieldsWith htexts hdistinct (List.mem_of_head? hfirst)
    (List.mem_of_getLast? hlast)]

/-- A file of text is read as the text. -/
theorem ofBytes_toUTF8 (s : String) : ofBytes s.toUTF8 = ofText s := by
  have htext : String.fromUTF8? s.toUTF8 = some s := by
    rw [String.fromUTF8?, String.toUTF8_eq_toByteArray, dif_pos s.isValidUTF8]
    rfl
  rw [ofBytes, htext]

/-- A file with an identifier that comes twice and one that comes once. -/
def repeatingFile : String :=
  "\x7b\"fields\": [" ++
    "\x7b\"dr_id\": \"IBT-001\", \"business_term\": \"Invoice number\"\x7d, " ++
    "\x7b\"dr_id\": \"IBT-002\", \"business_term\": \"Issue date\"\x7d, " ++
    "\x7b\"dr_id\": \"IBT-001\", \"business_term\": \"Number of the invoice\"\x7d]\x7d"

/-- The fields that the file holds, by their identifiers. -/
theorem exists_ofText_repeatingFile :
    ∃ registry, ofText repeatingFile = .ok registry ∧
      (∀ f ∈ registry.fields, f.isOfTexts) ∧
      (registry.fieldsWith (.text "IBT-002")).length = 1 ∧
      ∃ first last, registry.fieldsWith (.text "IBT-001") = [first, last] ∧
        first.term.asText = .ok "Invoice number" ∧
        last.term.asText = .ok "Number of the invoice" := by
  have hrun : (do
      let registry ← ofText repeatingFile
      return (registry.fields.all Field.isOfTexts,
        (registry.fieldsWith (.text "IBT-002")).length,
        (registry.fieldsWith (.text "IBT-001")).map fun f => f.term.asText)) =
      (.ok (true, 1, [.ok "Invoice number", .ok "Number of the invoice"]) :
        Result (Bool × Nat × List (Result String))) := by
    decide +kernel
  obtain ⟨registry, hregistry, hrun⟩ := Result.bind_eq_ok.1 hrun
  obtain ⟨htexts, hrun⟩ := Prod.mk.inj (Except.ok.inj hrun)
  obtain ⟨honce, htwice⟩ := Prod.mk.inj hrun
  obtain ⟨first, rest, hfields, hfirst, hrest⟩ := List.map_eq_cons_iff.1 htwice
  obtain ⟨last, rfl, hlast⟩ := List.map_eq_singleton_iff.1 hrest
  exact ⟨registry, hregistry, List.all_eq_true.1 htexts, honce, first, last, hfields, hfirst,
    hlast⟩

/-- The lookups agree on the identifier that comes once; of the other one the registry has the
first field and the index the last. -/
theorem lookups_of_texts_repeated :
    ∃ registry catalog, ofText repeatingFile = .ok registry ∧
      (∀ f ∈ registry.fields, f.isOfTexts) ∧
      Catalog.ofRegistry registry = .ok catalog ∧
      registry.LookupsAgree catalog (.text "IBT-002") ∧
      registry.FirstAndLast catalog (.text "IBT-001") ∧
      (registry.fieldsWith (.text "IBT-001")).length = 2 := by
  obtain ⟨registry, hregistry, htexts, honce, _, _, htwice, -⟩ := exists_ofText_repeatingFile
  obtain ⟨hreturns, hbuilt⟩ := lookups_of_texts htexts
  obtain ⟨catalog, hcatalog⟩ := hreturns
  have hlookups := (hbuilt _ _ _ catalog hcatalog).1
  refine ⟨registry, catalog, hregistry, htexts, hcatalog,
    (hlookups (.text "IBT-002") rfl).2.1.2 ?_, (hlookups (.text "IBT-001") rfl).1,
    htwice ▸ rfl⟩
  intro first last hfirst hlast
  obtain ⟨f, hf⟩ := List.length_eq_one_iff.1 honce
  rw [hf] at hfirst hlast
  cases hfirst
  cases hlast
  rfl

/-- An identifier that comes twice: the registry and the search through the requirements find
the first field, the index finds the last one. -/
theorem lookups_disagree :
    ∃ registry catalog f r s, ofBytes repeatingFile.toUTF8 = .ok registry ∧
      (∀ f ∈ registry.fields, f.isOfTexts) ∧
      Catalog.ofRegistry registry = .ok catalog ∧
      registry.find? (.text "IBT-001") = some f ∧
      findRequirement? catalog.requirements (.text "IBT-001") = some r ∧
      catalog.requirement? (.text "IBT-001") = .ok (some s) ∧
      f.term.asText = .ok "Invoice number" ∧ r.term.asText = .ok "Invoice number" ∧
      s.term.asText = .ok "Number of the invoice" ∧
      ¬ registry.LookupsAgree catalog (.text "IBT-001") := by
  obtain ⟨registry, hregistry, htexts, -, first, last, htwice, hfirst, hlast⟩ :=
    exists_ofText_repeatingFile
  obtain ⟨catalog, hcatalog⟩ := Catalog.returns_ofRegistry_iff.2 fun f hf =>
    Field.isReadable_of_isOfTexts (htexts f hf)
  have hends : registry.FirstAndLast catalog (.text "IBT-001") :=
    firstAndLast_of_madeOf (Catalog.madeOf_of_ofRegistry hcatalog) htexts rfl
  obtain ⟨r, s, hr, hs, hfield, hsearched, hindexed⟩ :=
    hends.found first last (htwice ▸ rfl) (htwice ▸ rfl)
  obtain ⟨_, hrof⟩ := Requirement.exists_isOf hr
  obtain ⟨_, hsof⟩ := Requirement.exists_isOf hs
  have hrterm : r.term.asText = .ok "Invoice number" := by rw [hrof.term, hfirst]
  have hsterm : s.term.asText = .ok "Number of the invoice" := by rw [hsof.term, hlast]
  refine ⟨registry, catalog, first, r, s, (ofBytes_toUTF8 _).trans hregistry, htexts, hcatalog,
    hfield, hsearched, hindexed, hfirst, hrterm, hsterm, fun hagree => ?_⟩
  cases hagree with
  | nothing hnone => cases hfield.symm.trans hnone
  | one _ r' _ _ hsearched' hindexed' =>
      cases hsearched.symm.trans hsearched'
      cases hindexed.symm.trans hindexed'
      rw [hrterm] at hsterm
      exact absurd (Except.ok.inj hsterm) (by decide)

end Registry

end InvoiceReadiness
