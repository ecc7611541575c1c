import InvoiceReadiness.Proofs.Custom.Findings
import InvoiceReadiness.Proofs.Value.Showing

/-!
# Groups of duplicates

A duplicate rule files the records that it looks at under their composite keys and reports
the groups of two or more. What it reports is told here by positions: one finding for each
record whose key comes more than once, first by where the key comes first and then by where
the record stands (`ListsRepeated`). Each finding counts the records of the key, and so does
its message wherever the template asks for the count. Records that are the same, or have the
same key, are told apart by their positions, so none is lost and none is reported twice.

## Main results

* `listsRepeated_positions` — which positions are listed, and in which order.
* `Check.countsOn_of_reportDuplicate` — a finding and its message count the group.
* `Check.run_reports_repeated` — what a duplicate rule reports.
-/

namespace InvoiceReadiness

/-! ## Positions of repeated keys -/

/-- Positions are ordered by where their key comes first, then by themselves. -/
def ComesBefore (keys : List String) (i j : Nat) : Prop :=
  ∃ key key', keys[i]? = some key ∧ keys[j]? = some key' ∧
    (keys.idxOf key < keys.idxOf key' ∨ key = key' ∧ i < j)

/-- All positions whose key comes more than once, each once, in their order. -/
structure ListsRepeated (keys : List String) (positions : List Nat) : Prop where
  mem_iff : ∀ i, i ∈ positions ↔ ∃ key, keys[i]? = some key ∧ 2 ≤ keys.count key
  nodup : positions.Nodup
  sorted : positions.Pairwise (ComesBefore keys)

/-- The positions of a key. -/
def positionsOf (keys : List String) (key : String) : List Nat := ofKey keys.zipIdx key

/-- The positions of the keys that come more than once, key by key. -/
def repeatedPositions (keys : List String) : List Nat :=
  keys.eraseDups.flatMap fun key =>
    if keys.count key < 2 then [] else positionsOf keys key

section Positions

variable {keys : List String} {key : String} {i : Nat}

theorem mem_positionsOf : i ∈ positionsOf keys key ↔ keys[i]? = some key := by
  rw [positionsOf, ofKey, List.mem_map, ← List.mk_mem_zipIdx_iff_getElem?]
  constructor
  · rintro ⟨⟨other, j⟩, hitem, rfl⟩
    obtain ⟨hmem, hkey⟩ := List.mem_filter.1 hitem
    rwa [← beq_iff_eq.1 hkey]
  · intro hmem
    exact ⟨(key, i), List.mem_filter.2 ⟨hmem, beq_self_eq_true key⟩, rfl⟩

theorem length_positionsOf (keys : List String) (key : String) :
    (positionsOf keys key).length = keys.count key := by
  rw [positionsOf, ofKey, List.length_map, ← List.countP_eq_length_filter, List.count_eq_countP]
  conv_rhs => rw [← List.zipIdx_map_fst 0 keys, List.countP_map]
  rfl

theorem pairwise_positionsOf (keys : List String) (key : String) :
    (positionsOf keys key).Pairwise (· < ·) := by
  have hall : (keys.zipIdx.map Prod.snd).Pairwise (· < ·) := by
    rw [List.zipIdx_map_snd]
    exact List.pairwise_lt_range'
  exact hall.sublist (List.filter_sublist.map Prod.snd)

theorem mem_repeatedPositions :
    i ∈ repeatedPositions keys ↔ ∃ key, keys[i]? = some key ∧ 2 ≤ keys.count key := by
  rw [repeatedPositions, List.mem_flatMap]
  constructor
  · rintro ⟨key, -, hi⟩
    by_cases hsingle : keys.count key < 2
    · rw [if_pos hsingle] at hi
      cases hi
    · rw [if_neg hsingle] at hi
      exact ⟨key, mem_positionsOf.1 hi, Nat.le_of_not_lt hsingle⟩
  · rintro ⟨key, hi, htwo⟩
    refine ⟨key, List.mem_eraseDups.2 (List.mem_of_getElem? hi), ?_⟩
    rw [if_neg (Nat.not_lt.2 htwo)]
    exact mem_positionsOf.2 hi

theorem pairwise_repeatedPositions (keys : List String) :
    (repeatedPositions keys).Pairwise (ComesBefore keys) := by
  have hgroup (key : String) {i : Nat}
      (hi : i ∈ if keys.count key < 2 then [] else positionsOf keys key) :
      keys[i]? = some key := by
    split at hi
    · cases hi
    · exact mem_positionsOf.1 hi
  refine List.pairwise_flatMap.2 ⟨fun key _ => ?_, ?_⟩
  · have hsorted : (if keys.count key < 2 then [] else positionsOf keys key).Pairwise
        (· < ·) := by
      split
      · exact .nil
      · exact pairwise_positionsOf keys key
    exact hsorted.imp_of_mem fun hi hj hlt => ⟨key, key, hgroup key hi, hgroup key hj,
      .inr ⟨rfl, hlt⟩⟩
  · refine (pairwise_eraseDups keys).imp fun {key key'} hlt i hi j hj => ?_
    exact ⟨key, key', hgroup key hi, hgroup key' hj, .inl hlt⟩

theorem ComesBefore.ne {j : Nat} (h : ComesBefore keys i j) : i ≠ j := by
  rintro rfl
  obtain ⟨key, key', hkey, hkey', hbefore⟩ := h
  obtain rfl : key = key' := Option.some.inj (hkey.symm.trans hkey')
  rcases hbefore with hlt | ⟨-, hlt⟩
  · exact Nat.lt_irrefl _ hlt
  · exact Nat.lt_irrefl _ hlt

theorem listsRepeated_positions (keys : List String) :
    ListsRepeated keys (repeatedPositions keys) where
  mem_iff _ := mem_repeatedPositions
  nodup := (pairwise_repeatedPositions keys).imp ComesBefore.ne
  sorted := pairwise_repeatedPositions keys

/-- Items that stand at positions are reported by their positions. -/
theorem repeated_zipIdx {α : Type} (at' : Nat → α) (keys : List String) :
    repeated (keys.zipIdx.map fun item => (item.1, at' item.2)) =
      (repeatedPositions keys).map fun i => (keys.count (keys.getD i ""), at' i) := by
  have hkeys : (keys.zipIdx.map fun item => (item.1, at' item.2)).map Prod.fst = keys := by
    rw [List.map_map]
    exact List.zipIdx_map_fst 0 keys
  have hgroup (key : String) :
      ofKey (keys.zipIdx.map fun item => (item.1, at' item.2)) key =
        (positionsOf keys key).map at' := by
    rw [positionsOf, ofKey, ofKey, List.filter_map, List.map_map, List.map_map]
    rfl
  rw [repeated, hkeys, repeatedPositions, List.map_flatMap]
  refine List.flatMap_congr fun key _ => ?_
  rw [hgroup, members, List.length_map, length_positionsOf]
  by_cases hsingle : keys.count key < 2
  · rw [if_pos hsingle, if_pos hsingle]
    rfl
  · rw [if_neg hsingle, if_neg hsingle, List.map_map]
    refine List.map_congr_left fun i hi => ?_
    rw [List.getD_eq_getElem?_getD, mem_positionsOf.1 hi]
    rfl

end Positions

/-! ## The rule -/

namespace Custom.Check

/-- A finding about a record whose key comes `n` times: it is counted in what was found, and
wherever the template asks for the count. -/
structure CountsOn (check : Check) (data : Dataset) (fields : List Value) (r : Record) (n : Nat)
    (f : Finding) : Prop where
  reported : check.reportDuplicate data fields n r = .ok f
  place : data.coordinates r = .ok f.place
  actual : f.actual = .text s!"{n} duplicates"
  message : Template.fillValue check.template r.value [("count", .ofNat n)] = .ok f.message
  counts : ∀ template, check.template = .text template →
    ∃ parts, f.message = String.ofList parts.flatten ∧
      List.Forall₂ (fun piece part => piece.path? = some "count" → part = (toString n).toList)
        (Template.pieces template) parts

/-- A placeholder of the count is filled with the count. -/
theorem fillPiece_count {record : Value} {n : Nat} {piece : Piece} {part : List Char}
    (h : Template.fillPiece record [("count", .ofNat n)] piece = .ok part)
    (hpath : piece.path? = some "count") : part = (toString n).toList := by
  cases piece with
  | char c => cases hpath
  | placeholder body =>
      have hbody : String.ofList (trimBlanks body) = "count" := Option.some.inj hpath
      have hvalue : Template.valueOf record [("count", .ofNat n)] "count" = .ok (.ofNat n) := rfl
      have hnull : ¬(Value.ofNat n).isNull = true := Bool.false_ne_true
      rw [Template.fillPiece, hbody, hvalue, Result.ok_bind, if_neg hnull] at h
      obtain ⟨text, htext, ⟨⟩⟩ := Result.bind_eq_ok.1 h
      have hwhole : wholeText? n = .ok text := htext
      unfold wholeText? at hwhole
      split at hwhole
      · cases hwhole
      · cases hwhole
        have hsign : ¬((n : Int) < 0) := by omega
        rw [wholeText, if_neg hsign]
        rfl

theorem countsOn_of_reportDuplicate {check : Check} {data : Dataset} {fields : List Value}
    {n : Nat} {r : Record} {f : Finding} (h : check.reportDuplicate data fields n r = .ok f) :
    check.CountsOn data fields r n f := by
  obtain ⟨names, -, hreport⟩ := Result.bind_eq_ok.1 h
  obtain ⟨message, hmessage, hrest⟩ := Result.bind_eq_ok.1 hreport
  obtain ⟨place, hplace, ⟨⟩⟩ := Result.bind_eq_ok.1 hrest
  refine ⟨h, hplace, rfl, hmessage, fun template htemplate => ?_⟩
  rw [htemplate, Template.fillValue] at hmessage
  by_cases hfilled : (Value.text template).isFilled
  · rw [hfilled] at hmessage
    obtain ⟨parts, hparts, ⟨⟩⟩ := Result.bind_eq_ok.1 hmessage
    exact ⟨parts, rfl, (Result.forall₂_of_mapM_eq_ok hparts).imp fun _ _ => fillPiece_count⟩
  · rw [Bool.eq_false_iff.2 hfilled] at hmessage
    obtain rfl : template = "" := by simpa [Value.isFilled] using hfilled
    cases hmessage
    exact ⟨[], rfl, .nil⟩

/-- Items with their keys are filed by position. -/
theorem mapM_keyed {α : Type} {key : α → Result String} {items : List α} {keys : List String}
    (h : items.mapM key = .ok keys) (default : α) :
    items.mapM (fun x => do return (← key x, x)) =
      .ok (keys.zipIdx.map fun item => (item.1, items.getD item.2 default)) := by
  have hzip : (keys.zipIdx.map fun item => (item.1, items.getD item.2 default)) =
      keys.zip items := by
    have hlength := Result.length_of_mapM_eq_ok h
    refine List.ext_getElem (by simp [hlength]) fun i hi hi' => ?_
    have hitem : i < items.length := by
      rw [List.length_zip] at hi'
      omega
    simp [List.getElem?_eq_getElem hitem]
  rw [hzip]
  clear hzip
  induction items generalizing keys with
  | nil =>
      cases h
      rfl
  | cons x rest ih =>
      rw [List.mapM_cons] at h
      obtain ⟨first, hfirst, h⟩ := Result.bind_eq_ok.1 h
      obtain ⟨more, hmore, ⟨⟩⟩ := Result.bind_eq_ok.1 h
      rw [List.mapM_cons, hfirst, ih hmore]
      rfl

/-- What a duplicate rule reports, position by position. -/
theorem runDuplicate_eq {check : Check} {data : Dataset} {fields : List Value}
    {records : List Record} {keys : List String}
    (hkeys : records.mapM (compositeKey fields) = .ok keys) :
    check.runDuplicate data fields records = (repeatedPositions keys).mapM fun i =>
      check.reportDuplicate data fields (keys.count (keys.getD i "")) (records.getD i default) := by
  have hkeyed : records.mapM (fun r => do return (← joinedKey (keyParts fields) r, r)) =
      .ok (keys.zipIdx.map fun item => (item.1, records.getD item.2 default)) :=
    mapM_keyed hkeys default
  rw [runDuplicate_eq_reportGroups, reportGroups_eq, hkeyed, Result.ok_bind,
    repeated_zipIdx (fun i => records.getD i default), List.mapM_map]
  rfl

/-- The keys of records are their parts, joined one by one. -/
theorem compositeKeys_of_parts {fields : List Value} {records : List Record}
    {parts : List (List String)} (h : records.mapM (keyParts fields) = .ok parts) :
    records.mapM (compositeKey fields) = .ok (parts.map "|".intercalate) :=
  (Result.mapM_bind_of_mapM_eq_ok h).trans (Result.mapM_eq_ok_map fun _ _ => rfl)

/-- A duplicate rule that ends well has found the parts of every key. -/
theorem exists_parts_of_runDuplicate {check : Check} {data : Dataset} {fields : List Value}
    {records : List Record} {found : List Finding}
    (h : check.runDuplicate data fields records = .ok found) :
    ∃ parts, records.mapM (keyParts fields) = .ok parts := by
  rw [runDuplicate_eq_reportGroups, reportGroups_eq] at h
  obtain ⟨keyed, hkeyed, -⟩ := Result.bind_eq_ok.1 h
  refine Result.exists_mapM_eq_ok fun r hr => ?_
  obtain ⟨_, -, hitem⟩ := Result.exists_result_of_mem hkeyed hr
  obtain ⟨_, hkey, -⟩ := Result.bind_eq_ok.1 hitem
  obtain ⟨ps, hps, -⟩ := Result.bind_eq_ok.1 hkey
  exact ⟨ps, hps⟩

/-- The findings of a duplicate rule, record by record: one for every record whose key comes
more than once, in the order of the keys and then of the records. -/
def ReportsRepeated (check : Check) (data : Dataset) (fields : List Value)
    (records : List Record) (keys : List String) (found : List Finding) : Prop :=
  ∃ positions, ListsRepeated keys positions ∧
    List.Forall₂ (fun i f => ∃ r key, records[i]? = some r ∧ keys[i]? = some key ∧
      check.CountsOn data fields r (keys.count key) f) positions found

/-- A position that is listed has a record and its key. -/
theorem getElem?_of_mem_repeatedPositions {records : List Record} {keys : List String} {i : Nat}
    (hlength : keys.length = records.length) (hi : i ∈ repeatedPositions keys) :
    ∃ r key, records[i]? = some r ∧ keys[i]? = some key ∧ 2 ≤ keys.count key ∧
      records.getD i default = r ∧ keys.getD i "" = key := by
  obtain ⟨key, hkey, htwo⟩ := mem_repeatedPositions.1 hi
  obtain ⟨hlt, -⟩ := List.getElem?_eq_some_iff.1 hkey
  have hrecord : records[i]? = some records[i] := List.getElem?_eq_getElem (hlength ▸ hlt)
  refine ⟨_, key, hrecord, hkey, htwo, ?_, ?_⟩
  · rw [List.getD_eq_getElem?_getD, hrecord, Option.getD_some]
  · rw [List.getD_eq_getElem?_getD, hkey, Option.getD_some]

theorem reportsRepeated_of_runDuplicate {check : Check} {data : Dataset} {fields : List Value}
    {records : List Record} {keys : List String} {found : List Finding}
    (hkeys : records.mapM (compositeKey fields) = .ok keys)
    (h : check.runDuplicate data fields records = .ok found) :
    check.ReportsRepeated data fields records keys found := by
  rw [runDuplicate_eq hkeys] at h
  refine ⟨_, listsRepeated_positions keys, ?_⟩
  have hboth := (List.forall₂_and_left _ _).2 ⟨fun i hi => hi, Result.forall₂_of_mapM_eq_ok h⟩
  refine hboth.imp fun i f hreport => ?_
  obtain ⟨hi, hreport⟩ := hreport
  obtain ⟨r, key, hr, hkey, -, hr', hkey'⟩ :=
    getElem?_of_mem_repeatedPositions (Result.length_of_mapM_eq_ok hkeys) hi
  rw [hr', hkey'] at hreport
  exact ⟨r, key, hr, hkey, countsOn_of_reportDuplicate hreport⟩

theorem exists_runDuplicate_iff {check : Check} {data : Dataset} {fields : List Value}
    {records : List Record} {keys : List String}
    (hkeys : records.mapM (compositeKey fields) = .ok keys) :
    (∃ found, check.runDuplicate data fields records = .ok found) ↔
      ∀ (i : Nat) r key, records[i]? = some r → keys[i]? = some key → 2 ≤ keys.count key →
        ∃ f, check.reportDuplicate data fields (keys.count key) r = .ok f := by
  have hlength := Result.length_of_mapM_eq_ok hkeys
  rw [runDuplicate_eq hkeys, Result.exists_mapM_eq_ok_iff]
  constructor
  · intro h i r key hr hkey htwo
    have hi : i ∈ repeatedPositions keys := mem_repeatedPositions.2 ⟨key, hkey, htwo⟩
    obtain ⟨f, hf⟩ := h i hi
    rw [List.getD_eq_getElem?_getD, List.getD_eq_getElem?_getD, hr, hkey] at hf
    exact ⟨f, hf⟩
  · intro h i hi
    obtain ⟨r, key, hr, hkey, htwo, hr', hkey'⟩ := getElem?_of_mem_repeatedPositions hlength hi
    rw [hr', hkey']
    exact h i r key hr hkey htwo

/--
A duplicate rule with at least one field is run on the records that pass the condition of its
check. Of any records it reports exactly those whose key comes at least twice, each of them
once: first by where the key comes first, then by where the record stands. Every finding and
its message count the records of the key. The rule ends well if the parts of every key can be
found and shown, and whatever it has to report can be.
-/
theorem run_reports_repeated (check : Check) (data : Dataset) (fields : List Value)
    (hrule : check.rule = .duplicate fields) (hfields : fields ≠ []) :
    check.run data =
      (do check.runDuplicate data fields (← check.selected data) : Result (List Finding)) ∧
    ∀ records : List Record,
      ((∃ found, check.runDuplicate data fields records = .ok found) ↔
        ∃ parts, records.mapM (keyParts fields) = .ok parts ∧
          let keys := parts.map "|".intercalate
          ∀ (i : Nat) r key, records[i]? = some r → keys[i]? = some key → 2 ≤ keys.count key →
            ∃ f, check.reportDuplicate data fields (keys.count key) r = .ok f) ∧
      ∀ found, check.runDuplicate data fields records = .ok found →
        ∃ parts, records.mapM (keyParts fields) = .ok parts ∧
          check.ReportsRepeated data fields records (parts.map "|".intercalate) found := by
  refine ⟨?_, fun records => ⟨⟨?_, ?_⟩, fun found hrun => ?_⟩⟩
  · have hfilled : (Value.list fields).isFilled = true := by
      rw [Value.isFilled, List.isEmpty_eq_false_iff.2 hfields]
      rfl
    have habsent : (Rule.duplicate fields).absent = [] := by
      simp [Rule.absent, Rule.parameters, hfilled]
    unfold run
    rw [hrule, habsent]
    rfl
  · rintro ⟨found, hrun⟩
    obtain ⟨parts, hparts⟩ := exists_parts_of_runDuplicate hrun
    exact ⟨parts, hparts,
      (exists_runDuplicate_iff (compositeKeys_of_parts hparts)).1 ⟨found, hrun⟩⟩
  · rintro ⟨parts, hparts, hreports⟩
    exact (exists_runDuplicate_iff (compositeKeys_of_parts hparts)).2 hreports
  · obtain ⟨parts, hparts⟩ := exists_parts_of_runDuplicate hrun
    exact ⟨parts, hparts, reportsRepeated_of_runDuplicate (compositeKeys_of_parts hparts) hrun⟩

/-- A duplicate rule with a message that counts. -/
def countingRule : Check :=
  { sellerRule with template := .text "{count} of {invoice_number}" }

/-- Of five headers the first and the third are one invoice, and so are the second and the
last, which have neither a seller nor a number. -/
theorem run_reports_repeated_interleaved :
    let headers := [headerOfSeller "1" "S" "N", ⟨[("invoice_id", .text "2")]⟩,
      headerOfSeller "3" "S" "N", headerOfSeller "4" "T" "N",
      ⟨[("invoice_id", .text "5"), ("seller_trn", .null)]⟩]
    let fields := [Value.text "seller_trn", .text "invoice_number"]
    ∃ data found, Dataset.ofRecords [] headers [] = .ok data ∧
      countingRule.rule = .duplicate fields ∧ fields ≠ [] ∧
      countingRule.selected data = .ok headers ∧ countingRule.run data = .ok found ∧
      found.map (fun f => (f.place.invoiceId.asText, f.message)) =
        [(.ok "1", "2 of N"), (.ok "3", "2 of N"), (.ok "2", "2 of (undefined)"),
          (.ok "5", "2 of (undefined)")] ∧
      countingRule.ReportsRepeated data fields headers ["S|N", "|", "S|N", "T|N", "|"] found := by
  intro headers fields
  have hruns : (do
      let data ← Dataset.ofRecords [] headers []
      let found ← countingRule.run data
      return found.map fun f => (f.place.invoiceId.asText, f.message)) =
      (.ok [(.ok "1", "2 of N"), (.ok "3", "2 of N"), (.ok "2", "2 of (undefined)"),
        (.ok "5", "2 of (undefined)")] : Result (List (Result String × String))) := by
    decide +kernel
  obtain ⟨data, hdata, hruns⟩ := Result.bind_eq_ok.1 hruns
  obtain ⟨found, hfound, htold⟩ := Result.bind_eq_ok.1 hruns
  have hselected : countingRule.selected data = .ok headers := by
    rw [← (Dataset.headers_of_ofRecords hdata).1]
    exact Result.filterM_eq_ok_self fun _ _ => rfl
  obtain ⟨hrun, hreports⟩ := run_reports_repeated countingRule data fields rfl (by decide)
  have hduplicates : countingRule.runDuplicate data fields headers = .ok found := by
    rw [← hfound, hrun, hselected, Result.ok_bind]
  obtain ⟨parts, hparts, hfindings⟩ := (hreports headers).2 found hduplicates
  have hkeys : parts.map "|".intercalate = ["S|N", "|", "S|N", "T|N", "|"] := by
    have hcomputed : (headers.mapM (keyParts fields)).map (List.map "|".intercalate) =
        .ok ["S|N", "|", "S|N", "T|N", "|"] := by decide +kernel
    rw [hparts] at hcomputed
    exact Except.ok.inj hcomputed
  rw [hkeys] at hfindings
  exact ⟨data, found, hdata, rfl, by decide, hselected, hfound, Except.ok.inj htold, hfindings⟩

end Custom.Check

end InvoiceReadiness
