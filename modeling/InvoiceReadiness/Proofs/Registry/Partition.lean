import InvoiceReadiness.Proofs.Numeric.Shares
import InvoiceReadiness.Proofs.Registry.Repeats

/-!
# Coverage as a partition

The coverage of a registry asks two questions about each of its fields, whether it is
mandatory and whether it is mapped. The four lists of a coverage are the fields by the two
answers. So nothing is lost and nothing comes twice, and a profile is ready if all mandatory
fields are mapped. That is so if and only if the exact mandatory percentage is a hundred.

Which fields are mandatory does not depend on what is mapped. So a profile that maps more
moves fields from the unmapped lists to the mapped ones and none back, and neither percentage
falls, whether it is exact, rounded to binary64, or rounded once more where it is reported.

## Main results

* `coverage_eq_ok_iff` — the coverage of fields of texts.
* `Coverage.split_perm` — the four lists have each field once.
* `Coverage.isCoverageOf_split` — readiness and percentages.
* `Coverage.growsTo_split` — what more identifiers change.
* `coverage_partition` — all of it of the coverage that is computed.
-/

namespace InvoiceReadiness

open Traceability

namespace Registry

/-! ## The two questions -/

namespace Field

variable {f : Field}

/-- A field of texts that is mandatory: its cardinality begins with a one, and the word is in
its flag in letters of either case. -/
def IsMandatory (f : Field) : Prop :=
  ∃ cardinality flag, f.cardinality = .text cardinality ∧ f.mandatoryFlag = .text flag ∧
    ['1'] <+: cardinality.toList ∧ "mandatory".toList <:+: (lower flag).toList

/-- Whether a field of texts is mandatory. -/
def saysMandatory (f : Field) : Bool :=
  match f.cardinality, f.mandatoryFlag with
  | .text cardinality, .text flag =>
      cardinality.toList.head? == some '1' && textOccursIn "mandatory" (lower flag)
  | _, _ => false

theorem saysMandatory_iff : f.saysMandatory ↔ f.IsMandatory := by
  unfold saysMandatory IsMandatory
  split
  · rename_i cardinality flag hcardinality hflag
    have hone : cardinality.toList.head? = some '1' ↔ ['1'] <+: cardinality.toList := by
      cases cardinality.toList <;> simp [eq_comm]
    rw [Bool.and_eq_true, beq_iff_eq, hone, textOccursIn, occursIn_iff_isInfix]
    simp [hcardinality, hflag]
  · rename_i hother
    refine iff_of_false Bool.false_ne_true ?_
    rintro ⟨cardinality, flag, hcardinality, hflag, -⟩
    exact hother cardinality flag hcardinality hflag

/-- The flag is read only if the requirement occurs at least once. -/
theorem isMandatory_eq_ok (h : f.isOfTexts) : f.isMandatory = .ok f.saysMandatory := by
  have hcells := List.all_eq_true.1 h
  simp only [List.forall_mem_cons] at hcells
  obtain ⟨-, -, -, hflag, hcardinality, -⟩ := hcells
  obtain ⟨cardinality, hcardinality⟩ := Value.isText_iff.1 hcardinality
  obtain ⟨flag, hflag⟩ := Value.isText_iff.1 hflag
  have hread : f.isMandatory =
      if cardinality.toList.head? != some '1' then .ok false
      else .ok (textOccursIn "mandatory" (lower flag)) := by
    rw [isMandatory, hcardinality, hflag]
    rfl
  have hsays : f.saysMandatory =
      (cardinality.toList.head? == some '1' && textOccursIn "mandatory" (lower flag)) := by
    rw [saysMandatory, hcardinality, hflag]
  rw [hread, hsays, bne]
  cases cardinality.toList.head? == some '1' <;> rfl

/-- Whether the identifier of a field is among those that are mapped. -/
def isMappedBy (mapped : List Value) (f : Field) : Bool := isAmong mapped f.id

theorem isMappedBy_iff (h : f.isOfTexts) {mapped : List Value} :
    f.isMappedBy mapped ↔ f.id ∈ mapped := by
  obtain ⟨s, hid⟩ := Value.isText_iff.1 (isText_id_of_isOfTexts h)
  have hsame (v : Value) : v.sameIdentity (.text s) ↔ v = .text s := by
    rw [Value.sameIdentity, ← Value.same_text_iff]
    simp [Value.isNan]
  rw [isMappedBy, isAmong, hid, List.any_eq_true]
  simp only [hsame, exists_eq_right]

theorem isMappedBy_mono {mapped mapped' : List Value} (h : mapped ⊆ mapped')
    (hasked : f.isMappedBy mapped) : f.isMappedBy mapped' := by
  obtain ⟨v, hv, hsame⟩ := List.any_eq_true.1 hasked
  exact List.any_eq_true.2 ⟨v, h hv, hsame⟩

end Field

/-! ## The four lists -/

/-- The fields by the answers to the two questions, each list in the order of the registry. -/
def Coverage.split (fields : List Field) (mandatory mapped : Field → Bool) : Coverage where
  mappedMandatory := fields.filter fun f => mandatory f && mapped f
  unmappedMandatory := fields.filter fun f => mandatory f && !mapped f
  mappedConditional := fields.filter fun f => !mandatory f && mapped f
  unmappedConditional := fields.filter fun f => !mandatory f && !mapped f

/-- The places of fields that are asked by key are those of fields that are asked. -/
theorem Coverage.places_eq_map {fields : List Field} {mapped : Field → Bool}
    {key : Field → Key} {keys : List Key} (h : ∀ f ∈ fields, keys.contains (key f) = mapped f)
    (mandatory : Field → Bool) :
    ((fields.zip ((fields.map mandatory).zip (fields.map key))).map
      fun (field, isMandatory, key) =>
        (⟨field, isMandatory, keys.contains key⟩ : Coverage.Place)) =
      fields.map fun f => ⟨f, mandatory f, mapped f⟩ := by
  have hpairs : fields.zip ((fields.map mandatory).zip (fields.map key)) =
      fields.map fun f => (f, mandatory f, key f) := by
    rw [List.zip_map']
    have hself := List.zip_map' (f := id) (g := fun f => (mandatory f, key f)) (l := fields)
    rwa [List.map_id] at hself
  rw [hpairs, List.map_map]
  exact List.map_congr_left fun f hf => congrArg (Coverage.Place.mk f (mandatory f)) (h f hf)

/-- The places with two answers are those of the fields with these answers. -/
theorem Coverage.select_places (fields : List Field) (mandatory mapped : Field → Bool)
    (a b : Bool) :
    ((fields.map fun f => (⟨f, mandatory f, mapped f⟩ : Coverage.Place)).filter
      fun p => p.mandatory == a && p.mapped == b).map Coverage.Place.field =
      fields.filter fun f => mandatory f == a && mapped f == b := by
  rw [List.filter_map, List.map_map]
  exact List.map_id _

variable {registry : Registry} {mapped : List Value} {c : Coverage}

/-- Each field is asked for itself, and its place in the registry is kept. -/
theorem coverage_eq_ok_iff (h : ∀ f ∈ registry.fields, f.isOfTexts) :
    registry.coverage mapped = .ok c ↔ AllIdentifiers mapped ∧
      c = .split registry.fields Field.saysMandatory (Field.isMappedBy mapped) := by
  have hid : ∀ f ∈ registry.fields, f.id.isIdentifier := fun f hf =>
    Value.isIdentifier_of_isText (Field.isText_id_of_isOfTexts (h f hf))
  have hmandatory : registry.fields.mapM Field.isMandatory =
      .ok (registry.fields.map Field.saysMandatory) :=
    Result.mapM_eq_ok_map fun f hf => Field.isMandatory_eq_ok (h f hf)
  have hknown : registry.fields.mapM (fun f => f.id.key) =
      .ok (registry.fields.map fun f => f.id.keyOf) :=
    Result.mapM_eq_ok_map fun f hf => Value.key_eq_ok_keyOf (hid f hf)
  have hrun (hmapped : AllIdentifiers mapped) : registry.coverage mapped =
      .ok (.split registry.fields Field.saysMandatory (Field.isMappedBy mapped)) := by
    have hkeys : mapped.mapM Value.key = .ok (mapped.map Value.keyOf) :=
      Result.mapM_eq_ok_map fun v hv => Value.key_eq_ok_keyOf (hmapped v hv)
    have hasked : ∀ f ∈ registry.fields,
        (mapped.map Value.keyOf).contains f.id.keyOf = f.isMappedBy mapped := by
      intro f hf
      rw [Field.isMappedBy, ← any_keyOf_eq_isAmong hmapped (hid f hf), Bool.eq_iff_iff,
        List.contains_iff_mem, List.mem_map, List.any_eq_true]
      simp only [beq_iff_eq]
    have hplaces := Coverage.places_eq_map hasked Field.saysMandatory
    rw [coverage, hkeys, Result.ok_bind, hmandatory, Result.ok_bind, hknown, Result.ok_bind]
    simp only [hplaces, Coverage.select_places]
    simp only [beq_true, beq_false]
    rfl
  constructor
  · intro hc
    have hmapped := (returns_coverage_iff.1 ⟨c, hc⟩).1
    exact ⟨hmapped, Except.ok.inj (hc.symm.trans (hrun hmapped))⟩
  · rintro ⟨hmapped, rfl⟩
    exact hrun hmapped

namespace Coverage

/-! ## Nothing is lost and nothing comes twice -/

section Split

variable (fields : List Field) (mandatory : Field → Bool) {mapped : Field → Bool}

/-- The fields with one answer are divided by the other one. -/
theorem filter_and_perm (p mapped : Field → Bool) :
    (fields.filter (fun f => p f && mapped f) ++
      fields.filter fun f => p f && !mapped f).Perm (fields.filter p) := by
  have hmapped := List.filter_append_perm mapped (fields.filter p)
  rw [List.filter_filter, List.filter_filter] at hmapped
  simpa only [Bool.and_comm] using hmapped

theorem split_perm (mapped : Field → Bool) :
    let c := split fields mandatory mapped
    ((c.mappedMandatory ++ c.unmappedMandatory) ++
      (c.mappedConditional ++ c.unmappedConditional)).Perm fields :=
  ((filter_and_perm fields mandatory mapped).append
    (filter_and_perm fields (fun f => !mandatory f) mapped)).trans
      (List.filter_append_perm mandatory fields)

theorem mandatoryCount_split (mapped : Field → Bool) :
    (split fields mandatory mapped).mandatoryCount = (fields.filter mandatory).length := by
  have hlength := (filter_and_perm fields mandatory mapped).length_eq
  rwa [List.length_append] at hlength

theorem total_split (mapped : Field → Bool) :
    (split fields mandatory mapped).total = fields.length := by
  have hlength := (split_perm fields mandatory mapped).length_eq
  rwa [List.length_append, List.length_append, List.length_append] at hlength

theorem isReady_split_iff :
    (split fields mandatory mapped).isReady ↔ ∀ f ∈ fields, mandatory f → mapped f := by
  rw [isReady, List.isEmpty_iff]
  simp [split]

end Split

/-! ## Percentages -/

section Percent

variable (c : Coverage)

/-- The fields that are not mapped. -/
def unmappedCount : Nat := c.unmappedMandatory.length + c.unmappedConditional.length

theorem total_eq : c.total = c.mappedCount + c.unmappedCount := by
  unfold total mandatoryCount mappedCount unmappedCount
  omega

/-- The mapped mandatory fields in percent of all mandatory ones, by exact division. -/
def exactMandatoryPercent : ℚ := exactRate c.mappedMandatory.length c.unmappedMandatory.length

/-- The mapped fields in percent of all, by exact division. -/
def exactOverallPercent : ℚ := exactRate c.mappedCount c.unmappedCount

theorem mandatoryRate : IsRateOf c.mappedMandatory.length c.unmappedMandatory.length
    (.float c.mandatoryPercent) := isRateOf_percent _ _

theorem overallRate : IsRateOf c.mappedCount c.unmappedCount (.float c.overallPercent) := by
  rw [overallPercent, total_eq]
  exact isRateOf_percent _ _

theorem isReady_iff_exactMandatoryPercent : c.isReady ↔ c.exactMandatoryPercent = 100 := by
  rw [exactMandatoryPercent, exactRate_eq_hundred_iff, List.length_eq_zero_iff, isReady,
    List.isEmpty_iff]

end Percent

/-! ## More identifiers -/

/-- What a coverage keeps of another one, and how it is no worse. -/
structure GrowsTo (c d : Coverage) : Prop where
  mandatory : c.mappedMandatory.Sublist d.mappedMandatory
  conditional : c.mappedConditional.Sublist d.mappedConditional
  ready : c.isReady → d.isReady
  exactMandatoryPercent : c.exactMandatoryPercent ≤ d.exactMandatoryPercent
  exactOverallPercent : c.exactOverallPercent ≤ d.exactOverallPercent
  mandatoryPercent : (Number.float c.mandatoryPercent).le (.float d.mandatoryPercent)
  overallPercent : (Number.float c.overallPercent).le (.float d.overallPercent)
  reportedMandatory : (Number.float (c.mandatoryPercent.roundPlaces 2)).le
    (.float (d.mandatoryPercent.roundPlaces 2))
  reportedOverall : (Number.float (c.overallPercent.roundPlaces 2)).le
    (.float (d.overallPercent.roundPlaces 2))

/-- Coverages of as many fields, one with more of them mapped. -/
theorem GrowsTo.of_sublists {c d : Coverage}
    (hmandatory : c.mappedMandatory.Sublist d.mappedMandatory)
    (hconditional : c.mappedConditional.Sublist d.mappedConditional)
    (hcount : c.mandatoryCount = d.mandatoryCount) (htotal : c.total = d.total) :
    c.GrowsTo d := by
  have hmapped : c.mappedMandatory.length ≤ d.mappedMandatory.length := hmandatory.length_le
  have hall : c.mappedCount ≤ d.mappedCount :=
    Nat.add_le_add hmapped hconditional.length_le
  have hsum : c.mappedCount + c.unmappedCount = d.mappedCount + d.unmappedCount := by
    rw [← total_eq, ← total_eq, htotal]
  have hwhole : d.mappedMandatory.length ≤ d.mandatoryCount := Nat.le_add_right _ _
  have htotalWhole : d.mappedCount ≤ d.total := by
    rw [total_eq]
    exact Nat.le_add_right _ _
  have hmandatoryPercent : c.mandatoryPercent.IsAtMost d.mandatoryPercent := by
    rw [Coverage.mandatoryPercent, hcount]
    exact Binary64.percent_isAtMost hmapped hwhole
  have hoverallPercent : c.overallPercent.IsAtMost d.overallPercent := by
    rw [Coverage.overallPercent, htotal]
    exact Binary64.percent_isAtMost hall htotalWhole
  have hreported {part whole : Nat} (h : part ≤ whole) :
      ((Binary64.percent part whole).roundPlaces 2).isFinite :=
    ((Binary64.isUpTo_percent h).roundPlaces Binary64.representable_hundred 2).isFinite
  refine {
    mandatory := hmandatory
    conditional := hconditional
    ready := fun hready => ?_
    exactMandatoryPercent := exactRate_le_exactRate hmapped hcount
    exactOverallPercent := exactRate_le_exactRate hall hsum
    mandatoryPercent := hmandatoryPercent.le
    overallPercent := hoverallPercent.le
    reportedMandatory := (hmandatoryPercent.roundPlaces 2 (hreported hwhole)).le
    reportedOverall := (hoverallPercent.roundPlaces 2 (hreported htotalWhole)).le }
  rw [isReady, List.isEmpty_iff_length_eq_zero] at hready ⊢
  unfold mandatoryCount at hcount
  omega

/-- If what is mapped is still mapped, a coverage grows. -/
theorem growsTo_split (fields : List Field) (mandatory : Field → Bool)
    {mapped mapped' : Field → Bool} (h : ∀ f, mapped f → mapped' f) :
    (split fields mandatory mapped).GrowsTo (split fields mandatory mapped') := by
  have hkept (p : Field → Bool) : (fields.filter fun f => p f && mapped f).Sublist
      (fields.filter fun f => p f && mapped' f) := by
    refine List.monotone_filter_right fields fun f hf => ?_
    rw [Bool.and_eq_true] at hf ⊢
    exact ⟨hf.1, h f hf.2⟩
  refine .of_sublists (hkept mandatory) (hkept fun f => !mandatory f) ?_ ?_
  · rw [mandatoryCount_split, mandatoryCount_split]
  · rw [total_split, total_split]

/-! ## The coverage that is computed -/

/-- What the coverage of a registry by identifiers is, its parts and its percentages: the
latter exact as well as rounded. -/
structure IsCoverageOf (c : Coverage) (fields : List Field) (mapped : List Value) : Prop where
  lists : c = split fields Field.saysMandatory (Field.isMappedBy mapped)
  answers : ∀ f ∈ fields, (f.saysMandatory ↔ f.IsMandatory) ∧
    (f.isMappedBy mapped ↔ f.id ∈ mapped)
  each : ((c.mappedMandatory ++ c.unmappedMandatory) ++
    (c.mappedConditional ++ c.unmappedConditional)).Perm fields
  ready : c.isReady ↔ ∀ f ∈ fields, f.IsMandatory → f.id ∈ mapped
  ready_iff_hundred : c.isReady ↔ c.exactMandatoryPercent = 100
  mandatoryRate : IsRateOf c.mappedMandatory.length c.unmappedMandatory.length
    (.float c.mandatoryPercent)
  overallRate : IsRateOf c.mappedCount c.unmappedCount (.float c.overallPercent)

end Coverage

/--
**Coverage divides the fields of a registry.** It can be computed if what is mapped can be
identifiers, some of them repeated or unknown. The four lists are the fields by whether they
are mandatory and whether they are mapped, each in the order of the registry. The profile is
ready if all mandatory fields are mapped, and so if the exact mandatory percentage is a
hundred. Both percentages are between zero and a hundred. If more identifiers are mapped, no
percentage falls and a ready profile stays ready.
-/
theorem coverage_partition {registry : Registry} (h : ∀ f ∈ registry.fields, f.isOfTexts)
    (mapped : List Value) :
    (Returns (registry.coverage mapped) ↔ AllIdentifiers mapped) ∧
      ∀ c, registry.coverage mapped = .ok c →
        c.IsCoverageOf registry.fields mapped ∧
          ∀ mapped' c', mapped ⊆ mapped' → registry.coverage mapped' = .ok c' →
            c.GrowsTo c' := by
  have hmapped : ∀ f ∈ registry.fields, (f.isMappedBy mapped ↔ f.id ∈ mapped) :=
    fun f hf => Field.isMappedBy_iff (h f hf)
  refine ⟨?_, fun c hc => ?_⟩
  · constructor
    · rintro ⟨c, hc⟩
      exact ((coverage_eq_ok_iff h).1 hc).1
    · intro hids
      exact ⟨_, (coverage_eq_ok_iff h).2 ⟨hids, rfl⟩⟩
  obtain ⟨-, hsplit⟩ := (coverage_eq_ok_iff h).1 hc
  refine ⟨?_, fun mapped' c' hsubset hc' => ?_⟩
  · exact {
      lists := hsplit
      answers := fun f hf => ⟨Field.saysMandatory_iff, hmapped f hf⟩
      each := hsplit ▸ Coverage.split_perm registry.fields Field.saysMandatory _
      ready := by
        rw [hsplit, Coverage.isReady_split_iff]
        refine forall₂_congr fun f hf => ?_
        rw [Field.saysMandatory_iff, hmapped f hf]
      ready_iff_hundred := c.isReady_iff_exactMandatoryPercent
      mandatoryRate := c.mandatoryRate
      overallRate := c.overallRate }
  · obtain ⟨-, rfl⟩ := (coverage_eq_ok_iff h).1 hc'
    rw [hsplit]
    exact Coverage.growsTo_split registry.fields Field.saysMandatory fun _ =>
      Field.isMappedBy_mono hsubset

/-- A profile that maps one of two mandatory fields, one identifier twice and one that is
unknown, and becomes ready with the other one. -/
theorem coverage_partition_half :
    let field (id cardinality flag : String) : Field :=
      { id := .text id, term := .text id, cardinality := .text cardinality,
        mandatoryFlag := .text flag }
    let registry : Registry := ⟨"R", "1", "", "", [field "A" "1..1" "Mandatory (UC1)",
      field "B" "0..1" "Mandatory", field "C" "1..n" "mandatory", field "D" "1..1" "Conditional"]⟩
    let mapped : List Value := [.text "A", .text "Z", .text "B", .text "A"]
    (∀ f ∈ registry.fields, f.isOfTexts) ∧ ∃ c c', registry.coverage mapped = .ok c ∧
      registry.coverage (mapped ++ [.text "C"]) = .ok c' ∧
      c.IsCoverageOf registry.fields mapped ∧ c.exactMandatoryPercent = 50 ∧
      c.isReady = false ∧ c'.isReady ∧ c.GrowsTo c' := by
  intro field registry mapped
  have htexts : ∀ f ∈ registry.fields, f.isOfTexts := by decide +kernel
  have hrun : (do
      let c ← registry.coverage mapped
      let c' ← registry.coverage (mapped ++ [.text "C"])
      return (c.mappedMandatory.length, c.unmappedMandatory.length, c.isReady, c'.isReady)) =
      (.ok (1, 1, false, true) : Result (Nat × Nat × Bool × Bool)) := by
    decide +kernel
  obtain ⟨c, hc, hrun⟩ := Result.bind_eq_ok.1 hrun
  obtain ⟨c', hc', hrun⟩ := Result.bind_eq_ok.1 hrun
  simp only [Except.ok.injEq, Prod.mk.injEq, pure, Except.pure] at hrun
  obtain ⟨hone, hother, hready, hready'⟩ := hrun
  obtain ⟨hcoverage, hgrows⟩ := (coverage_partition htexts mapped).2 c hc
  refine ⟨htexts, c, c', hc, hc', hcoverage, ?_, hready, hready',
    hgrows _ c' (List.subset_append_left _ _) hc'⟩
  rw [Coverage.exactMandatoryPercent, hone, hother]
  decide +kernel

end Registry

end InvoiceReadiness
