import InvoiceReadiness.Proofs.Value.Filing
import InvoiceReadiness.Scoring

/-!
# The checks that fail most often

A summary counts incidents by the identifier of their check, sorts the checks by their
counts and lists the first few. What is listed is told here by the identifiers of the
incidents alone: the counts are exact, no check is listed twice, and a check that is left
out did not fail more often than one that is listed.

## Main results

* `Scoring.countByCheck_eq_ok_iff` — the loop that counts is a filing.
* `Scoring.count_of_mem` — each count is the number of incidents of its check.
* `Scoring.topFailing_isTop` — what a summary lists is a top of the identifiers.
-/

namespace InvoiceReadiness.Scoring

/-- How often an identifier comes. -/
def occurrences (ids : List Value) (id : Value) : Nat :=
  ids.countP fun other => other.sameIdentity id

/-- The identifiers that come most often, with their counts, and no more than a limit. -/
structure IsTop (limit : Nat) (ids : List Value) (top : List (Value × Nat)) : Prop where
  length_le : top.length ≤ limit
  counted : ∀ t ∈ top, t.1 ∈ ids ∧ t.2 = occurrences ids t.1
  distinct : top.Pairwise fun t u => t.1.sameIdentity u.1 = false
  sorted : top.Pairwise fun t u => u.2 ≤ t.2
  /-- An identifier is left out only if there is no room, and never for a rarer one. -/
  covers : ∀ id ∈ ids, (∃ t ∈ top, t.1.sameIdentity id) ∨
    (top.length = limit ∧ ∀ t ∈ top, occurrences ids id ≤ t.2)

/-- Identifiers may be counted by their keys. -/
theorem occurrences_eq_countP_keyOf {ids : List Value} (hids : ∀ other ∈ ids, other.isIdentifier)
    {id : Value} (hid : id.isIdentifier) :
    occurrences ids id = ids.countP fun other => other.keyOf == id.keyOf := by
  refine List.countP_congr fun other hother => ?_
  rw [beq_iff_eq]
  exact (Value.keyOf_eq_iff (hids other hother) hid).symm

variable {incidents : List Incident} {counts : Index CheckCount} {entry : Entry CheckCount}

/-! ## Counting -/

/-- What is known of a check after one more incident. -/
def recount (incident : Incident) (known : Option CheckCount) : CheckCount :=
  let known := known.getD ⟨incident.checkName, 0⟩
  { known with count := known.count + 1 }

theorem countByCheck_eq_ok_iff : countByCheck incidents = .ok counts ↔
    (∀ incident ∈ incidents, incident.checkId.isIdentifier) ∧
      counts = Index.file Incident.checkId recount Index.empty incidents :=
  Index.foldlM_alter_eq_ok_iff Incident.checkId recount Index.empty incidents counts

/-- Every incident of a check adds one to its count. -/
theorem count_recount (incident : Incident) (known : Option CheckCount) :
    (recount incident known).count = (known.map CheckCount.count).getD 0 + 1 := by
  cases known with
  | none => rfl
  | some count => rfl

section Counted

variable (h : countByCheck incidents = .ok counts)

include h

theorem isIdentifier_of_counted : ∀ id ∈ incidents.map Incident.checkId, id.isIdentifier :=
  List.forall_mem_map.2 (countByCheck_eq_ok_iff.1 h).1

/-- An entry stands under the key of its identifier, and an incident has that one. -/
theorem shown_of_mem (hentry : entry ∈ counts.entries) :
    entry.key = entry.shown.keyOf ∧ entry.shown ∈ incidents.map Incident.checkId := by
  obtain ⟨-, rfl⟩ := countByCheck_eq_ok_iff.1 h
  obtain ⟨hkey, hshown⟩ := Index.of_mem_file _ _ hentry
  exact ⟨hkey, List.mem_map.2 hshown⟩

/-- Each count is the number of incidents of its check. -/
theorem count_of_mem (hentry : entry ∈ counts.entries) :
    entry.value.count = occurrences (incidents.map Incident.checkId) entry.shown := by
  obtain ⟨hkey, hshown⟩ := shown_of_mem h hentry
  have hids := isIdentifier_of_counted h
  obtain ⟨-, rfl⟩ := countByCheck_eq_ok_iff.1 h
  have hfound := Index.get?_of_mem _ (Index.nodup_keys_file _ _ _) hentry
  have hcount := Index.measure_get?_file Incident.checkId recount CheckCount.count
    count_recount incidents entry.key
  rw [hfound, Option.map_some, Option.getD_some, hkey] at hcount
  rw [hcount, occurrences_eq_countP_keyOf hids (hids _ hshown), List.countP_map]
  rfl

/-- Every identifier of an incident has an entry. -/
theorem exists_entry {id : Value} (hid : id ∈ incidents.map Incident.checkId) :
    ∃ entry ∈ counts.entries, entry.shown.sameIdentity id := by
  have hids := isIdentifier_of_counted h
  have hhas : counts.has id.keyOf := by
    obtain ⟨-, rfl⟩ := countByCheck_eq_ok_iff.1 h
    obtain ⟨incident, hincident, rfl⟩ := List.mem_map.1 hid
    rw [Index.has_file, Bool.or_eq_true, List.any_eq_true]
    exact .inr ⟨incident, hincident, beq_self_eq_true _⟩
  obtain ⟨entry, hentry, hkey⟩ := List.any_eq_true.1 hhas
  obtain ⟨hshown, hmem⟩ := shown_of_mem h hentry
  rw [beq_iff_eq, hshown] at hkey
  exact ⟨entry, hentry, (Value.keyOf_eq_iff (hids _ hmem) (hids id hid)).1 hkey⟩

theorem nodup_keys_of_counted : counts.keys.Nodup := by
  obtain ⟨-, rfl⟩ := countByCheck_eq_ok_iff.1 h
  exact Index.nodup_keys_file _ _ _

end Counted

/-! ## Sorting -/

/-- The checks with the ones first that failed more often. -/
def ranked (counts : Index CheckCount) : List (Entry CheckCount) :=
  counts.entries.mergeSort fun x y => y.value.count ≤ x.value.count

theorem ranked_perm (counts : Index CheckCount) : (ranked counts).Perm counts.entries :=
  List.mergeSort_perm _ _

theorem ranked_sorted (counts : Index CheckCount) :
    (ranked counts).Pairwise fun x y => y.value.count ≤ x.value.count := by
  have hsorted : (ranked counts).Pairwise fun x y =>
      decide (y.value.count ≤ x.value.count) = true := by
    refine List.pairwise_mergeSort (fun x y z hxy hyz => ?_) (fun x y => ?_) counts.entries
    · rw [decide_eq_true_eq] at hxy hyz ⊢
      exact Nat.le_trans hyz hxy
    · rw [Bool.or_eq_true, decide_eq_true_eq, decide_eq_true_eq]
      exact Nat.le_total _ _
  exact hsorted.imp of_decide_eq_true

/-- What is ranked is listed, or there is no room and it does not rank before
anything that is listed. -/
theorem mem_topFailing_or (hentry : entry ∈ ranked counts) : entry ∈ topFailing counts ∨
    ((topFailing counts).length = topLimit ∧
      ∀ listed ∈ topFailing counts, entry.value.count ≤ listed.value.count) := by
  have hsplit := List.take_append_drop topLimit (ranked counts)
  rw [← hsplit, List.mem_append] at hentry
  refine hentry.imp_right fun hdropped => ⟨?_, fun listed hlisted => ?_⟩
  · have hlong : topLimit < (ranked counts).length := by
      have hpos := List.length_pos_of_mem hdropped
      rw [List.length_drop] at hpos
      omega
    exact List.length_take_of_le (Nat.le_of_lt hlong)
  · have hsorted := ranked_sorted counts
    rw [← hsplit, List.pairwise_append] at hsorted
    exact hsorted.2.2 listed hlisted entry hdropped

theorem topFailing_sublist (counts : Index CheckCount) :
    (topFailing counts).Sublist (ranked counts) :=
  List.take_sublist _ _

theorem mem_of_mem_topFailing (hentry : entry ∈ topFailing counts) : entry ∈ counts.entries :=
  (ranked_perm counts).subset ((topFailing_sublist counts).subset hentry)

/-- No identifier is listed twice. -/
theorem pairwise_topFailing (h : countByCheck incidents = .ok counts) :
    (topFailing counts).Pairwise fun x y => x.shown.sameIdentity y.shown = false := by
  have hids := isIdentifier_of_counted h
  have hranked : ((ranked counts).map Entry.key).Nodup :=
    ((ranked_perm counts).map Entry.key).nodup_iff.2 (nodup_keys_of_counted h)
  have hnodup := hranked.sublist ((topFailing_sublist counts).map Entry.key)
  rw [List.Nodup, List.pairwise_map] at hnodup
  refine hnodup.imp_of_mem fun {x y} hx hy hne => ?_
  obtain ⟨hxkey, hxshown⟩ := shown_of_mem h (mem_of_mem_topFailing hx)
  obtain ⟨hykey, hyshown⟩ := shown_of_mem h (mem_of_mem_topFailing hy)
  rw [hxkey, hykey, Ne, Value.keyOf_eq_iff (hids _ hxshown) (hids _ hyshown)] at hne
  exact Bool.eq_false_iff.2 hne

/-- What a summary lists is a top of the identifiers of the incidents. -/
theorem topFailing_isTop (h : countByCheck incidents = .ok counts) :
    IsTop topLimit (incidents.map Incident.checkId)
      ((topFailing counts).map fun entry => (entry.shown, entry.value.count)) := by
  constructor
  · rw [List.length_map]
    exact List.length_take_le _ _
  · refine List.forall_mem_map.2 fun entry hentry => ?_
    have hmem := mem_of_mem_topFailing hentry
    exact ⟨(shown_of_mem h hmem).2, count_of_mem h hmem⟩
  · rw [List.pairwise_map]
    exact pairwise_topFailing h
  · rw [List.pairwise_map]
    exact (ranked_sorted counts).sublist (topFailing_sublist counts)
  · intro id hid
    obtain ⟨entry, hentry, hsame⟩ := exists_entry h hid
    rw [List.length_map]
    refine (mem_topFailing_or ((ranked_perm counts).symm.subset hentry)).imp
      (fun hlisted => ⟨_, List.mem_map_of_mem hlisted, hsame⟩) fun ⟨hfull, hle⟩ => ?_
    have hids := isIdentifier_of_counted h
    have hshown := hids _ (shown_of_mem h hentry).2
    have hcount : occurrences (incidents.map Incident.checkId) id = entry.value.count := by
      rw [count_of_mem h hentry, occurrences_eq_countP_keyOf hids (hids id hid),
        occurrences_eq_countP_keyOf hids hshown,
        (Value.keyOf_eq_iff hshown (hids id hid)).2 hsame]
    exact ⟨hfull, List.forall_mem_map.2 fun listed hlisted => hcount ▸ hle listed hlisted⟩

end InvoiceReadiness.Scoring
