import InvoiceReadiness.Matching.Rank
import InvoiceReadiness.Proofs.Numeric.Bounded
import InvoiceReadiness.Proofs.Outcome

/-!
# Ranking by score

A ranking leaves out the candidates below the least score of a profile and puts the others
in the order of falling scores, equal scores as they were given. Such an order is unique:
it is known by the items of each score, in their order (`FallsStably.unique`). So leaving
items out before sorting and after it comes to the same, and the ranking of a stricter
profile is the beginning of that of a less strict one.

All scores are finite. With a not-a-number among them, which has no order with any other
score, there would be no falling order.

## Main results

* `FallsStably.unique`, `fallsStably_mergeSort` — there is one such order, and sorting finds it.
* `isUpTo_similarity`, `isFinite_of_score` — similarities are between zero and one, so scores are
  finite.
* `rank_eq_ok_iff` — when there is a ranking, and that it is in the falling order.
* `rank_ranks` — the rankings of one query under the three profiles.
-/

namespace InvoiceReadiness

/-! ## Falling orders -/

section Falling

variable {α : Type} {key : α → Int} {items sorted other : List α}

/-- The items in the order of falling keys, those of one key in the order given. -/
structure FallsStably (key : α → Int) (items sorted : List α) : Prop where
  perm : sorted.Perm items
  falling : sorted.Pairwise fun x y => key y ≤ key x
  ties : ∀ k, (sorted.filter fun x => key x == k) = items.filter fun x => key x == k

theorem fallsStably_mergeSort (key : α → Int) (items : List α) :
    FallsStably key items (items.mergeSort fun x y => key y ≤ key x) := by
  have htrans (x y z : α) : decide (key y ≤ key x) = true → decide (key z ≤ key y) = true →
      decide (key z ≤ key x) = true := by
    simp only [decide_eq_true_eq]
    omega
  have htotal (x y : α) : (decide (key y ≤ key x) || decide (key x ≤ key y)) = true := by
    simp only [Bool.or_eq_true, decide_eq_true_eq]
    omega
  have hperm := List.mergeSort_perm items fun x y => decide (key y ≤ key x)
  refine ⟨hperm, (List.pairwise_mergeSort htrans htotal items).imp of_decide_eq_true, ?_⟩
  intro k
  -- The items of one key are sorted as they are, so sorting keeps them in their order.
  have hclass : (items.filter fun x => key x == k).Pairwise fun x y =>
      decide (key y ≤ key x) = true := by
    refine List.pairwise_of_forall_mem_list fun x hx y hy => ?_
    have hkx := beq_iff_eq.1 (List.mem_filter.1 hx).2
    have hky := beq_iff_eq.1 (List.mem_filter.1 hy).2
    rw [hkx, hky]
    exact decide_eq_true (Int.le_refl k)
  have hsub := (List.sublist_mergeSort htrans htotal hclass List.filter_sublist).filter
    fun x => key x == k
  rw [List.filter_filter] at hsub
  simp only [Bool.and_self] at hsub
  exact (hsub.eq_of_length (hperm.filter _).length_eq.symm).symm

namespace FallsStably

/-- Items may be left out of an order. -/
theorem filter (h : FallsStably key items sorted) (p : α → Bool) :
    FallsStably key (items.filter p) (sorted.filter p) where
  perm := h.perm.filter p
  falling := h.falling.filter p
  ties k := by
    rw [List.filter_comm, h.ties k, List.filter_comm]

/-- An order is known by the items of each key. -/
theorem unique (h : FallsStably key items sorted) (h' : FallsStably key items other) :
    sorted = other := by
  have hties (k : Int) : (sorted.filter fun x => key x == k) =
      other.filter fun x => key x == k := (h.ties k).trans (h'.ties k).symm
  have hsorted := h.falling
  have hother := h'.falling
  clear h h'
  induction sorted generalizing other with
  | nil =>
      cases other with
      | nil => rfl
      | cons y more => simpa using hties (key y)
  | cons x rest ih =>
      have hx := hties (key x)
      rw [List.filter_cons, if_pos (beq_self_eq_true _)] at hx
      cases other with
      | nil => cases hx
      | cons y more =>
          obtain ⟨hfirst, hrest⟩ := List.pairwise_cons.1 hsorted
          obtain ⟨hfirst', hmore⟩ := List.pairwise_cons.1 hother
          -- Each of the first items is also in the other list, so neither key is greater.
          have hxmem : x ∈ y :: more :=
            (List.mem_filter.1 (hx ▸ List.mem_cons_self)).1
          have hy : y ∈ (y :: more).filter fun z => key z == key y :=
            List.mem_filter.2 ⟨List.mem_cons_self, beq_self_eq_true _⟩
          rw [← hties (key y)] at hy
          have hymem : y ∈ x :: rest := (List.mem_filter.1 hy).1
          have hkey : key x = key y := by
            rcases List.mem_cons.1 hxmem with rfl | hxmem
            · rfl
            · rcases List.mem_cons.1 hymem with rfl | hymem
              · rfl
              · exact Int.le_antisymm (hfirst' x hxmem) (hfirst y hymem)
          rw [List.filter_cons, if_pos (beq_iff_eq.2 hkey.symm)] at hx
          obtain ⟨rfl, -⟩ := List.cons.inj hx
          refine congrArg _ (ih (fun k => ?_) hrest hmore)
          have hk := hties k
          by_cases hkx : key x == k
          · rw [List.filter_cons, List.filter_cons, if_pos hkx, if_pos hkx] at hk
            exact (List.cons.inj hk).2
          · rwa [List.filter_cons, List.filter_cons, if_neg hkx, if_neg hkx] at hk

/-- In a falling order what is so for all keys from some on comes first. -/
theorem filter_eq_takeWhile (h : FallsStably key items sorted) {p : α → Bool}
    (hp : ∀ x ∈ sorted, ∀ y ∈ sorted, key y ≤ key x → p y → p x) :
    sorted.filter p = sorted.takeWhile p := by
  have hsorted := h.falling
  clear h
  induction sorted with
  | nil => rfl
  | cons x rest ih =>
      obtain ⟨hfirst, hrest⟩ := List.pairwise_cons.1 hsorted
      rw [List.filter_cons, List.takeWhile_cons]
      by_cases hx : p x
      · rw [if_pos hx, if_pos hx, ih (fun y hy z hz => hp y (List.mem_cons_of_mem x hy) z
          (List.mem_cons_of_mem x hz)) hrest]
      · rw [if_neg hx, if_neg hx, List.filter_eq_nil_iff]
        exact fun y hy hpy => hx
          (hp x List.mem_cons_self y (List.mem_cons_of_mem x hy) (hfirst y hy) hpy)

end FallsStably

end Falling

/-! ## Finite scores -/

namespace Binary64

theorem compare?_of_isFinite {x y : Binary64} (hx : x.isFinite) (hy : y.isFinite) :
    x.compare? y = some (Ord.compare x.signedUnits y.signedUnits) := by
  cases x with
  | finite a m hm =>
      cases y with
      | finite b n hn => rfl
      | _ => cases hy
  | _ => cases hx

/-- Whether a number is at least another one. -/
def atLeast (x y : Binary64) : Bool := (x.compare? y).any (· != .lt)

/-- Whether two numbers have one value. -/
def ties (x y : Binary64) : Bool := x.compare? y == some .eq

theorem atLeast_of_isFinite {x y : Binary64} (hx : x.isFinite) (hy : y.isFinite) :
    x.atLeast y = decide (y.signedUnits ≤ x.signedUnits) := by
  rw [atLeast, compare?_of_isFinite hx hy, Option.any_some, Bool.eq_iff_iff, bne_iff_ne,
    decide_eq_true_eq, ← Int.not_lt, ← Int.compare_eq_lt]

theorem ties_of_isFinite {x y : Binary64} (hx : x.isFinite) (hy : y.isFinite) :
    x.ties y = (x.signedUnits == y.signedUnits) := by
  rw [ties, compare?_of_isFinite hx hy, Bool.eq_iff_iff, beq_iff_eq, beq_iff_eq,
    Option.some_inj, Int.compare_eq_eq]

end Binary64

namespace Matching

open Binary64 in
theorem isUpTo_fullScore : fullScore.IsUpTo 1 := by
  have hratio : fullScore = ofRatio false 1 1 := by decide +kernel
  rw [hratio]
  exact isUpTo_ofRatio (by decide) (by decide) representable_wholeUnits_one

open Binary64 in
theorem isUpTo_containmentScore : containmentScore.IsUpTo 1 := by
  have hratio : containmentScore = ofRatio false 9 10 := by decide +kernel
  rw [hratio]
  exact isUpTo_ofRatio (by decide) (by decide) representable_wholeUnits_one

/-- A similarity is between zero and one. -/
theorem isUpTo_similarity (a b : List Char) : (similarity a b).IsUpTo 1 := by
  unfold similarity
  split
  · exact isUpTo_fullScore
  split
  · exact Binary64.isUpTo_zero 1
  split
  · exact isUpTo_fullScore
  split
  · exact isUpTo_containmentScore
  · rename_i _ hfilled _ _
    have hpos : 0 < max a.length b.length := by
      cases a with
      | nil => exact absurd rfl hfilled
      | cons c rest => exact Nat.lt_of_lt_of_le (Nat.succ_pos _) (Nat.le_max_left _ _)
    apply Binary64.isUpTo_ofRatio hpos ?_ Binary64.representable_wholeUnits_one
    rw [Nat.one_mul]
    exact Nat.sub_le _ _

theorem isFinite_similarity (a b : List Char) : (similarity a b).isFinite :=
  (isUpTo_similarity a b).isFinite

theorem isFinite_better {x y : Binary64} (hx : x.isFinite) (hy : y.isFinite) :
    (better x y).isFinite := by
  unfold better
  split
  · exact hy
  · exact hx

theorem isFinite_of_cellScore {form : List Char → List Char} {query : List Char}
    {cell : Value} : Yields (fun x => x.isFinite) (cellScore form query cell) := by
  simp only [cellScore, Yields.bind_iff, Yields.ite_iff, Yields.pure_iff]
  exact ⟨fun _ => rfl, fun _ text _ => ⟨fun _ => rfl, fun _ => isFinite_similarity query text⟩⟩

theorem isFinite_of_score {query : List Char} {c : Candidate} :
    Yields (fun x => x.isFinite) (score query c) := by
  simp only [score, Yields.bind_iff, Yields.pure_iff]
  intro byName hname byNumber hnumber byTrn htrn byReference hreference
  refine isFinite_better (isFinite_better (isFinite_better (isFinite_better rfl ?_) ?_) ?_) ?_
  · exact isFinite_of_cellScore hname
  · exact isFinite_of_cellScore hnumber
  · exact isFinite_of_cellScore htrn
  · exact isFinite_of_cellScore hreference

theorem Strictness.isFinite_leastScore (profile : Strictness) : profile.leastScore.isFinite := by
  cases profile <;> decide +kernel

/-! ## Rankings -/

/-- An item with the score of the candidate that it describes. -/
def scored (text : String) (item : Value) : Result Ranked := do
  return Ranked.mk item (← score text.toList (← Candidate.ofValue item))

/-- The candidates that reach the least score of a profile, each as often as it comes, by
falling scores and in their order where scores are equal. -/
structure IsRanking (profile : Strictness) (all ranking : List Ranked) : Prop where
  complete : ranking.Perm (all.filter fun r => r.score.atLeast profile.leastScore)
  falling : ranking.Pairwise fun r s => r.score.atLeast s.score
  ties : ∀ r ∈ all, (ranking.filter fun s => s.score.ties r.score) =
    all.filter fun s => s.score.atLeast profile.leastScore && s.score.ties r.score

/-- A ranking is the beginning of another one, and is all in it that reaches some score. -/
structure IsBeginning (least : Binary64) (narrow wide : List Ranked) : Prop where
  takes : narrow = wide.takeWhile fun r => r.score.atLeast least
  leaves : narrow = wide.filter fun r => r.score.atLeast least

/-- A score in units. -/
def Ranked.units (r : Ranked) : Int := r.score.signedUnits

/-- A candidate that is given as an object is the one that the object describes. -/
theorem Candidate.ofValue_value (c : Candidate) : Candidate.ofValue c.value = .ok c := rfl

theorem Strictness.ofValue_name (profile : Strictness) :
    Strictness.ofValue (.text profile.name) = .ok profile := by
  cases profile <;> rfl

section Rank

variable {text : String} {candidates : List Value} {all ranking : List Ranked}
  {profile narrow wide : Strictness}

theorem isFinite_of_scored (h : candidates.mapM (scored text) = .ok all) :
    ∀ r ∈ all, r.score.isFinite := by
  refine Yields.mapM (fun item _ r hr => ?_) h
  obtain ⟨c, -, hr⟩ := Result.bind_eq_ok.1 hr
  obtain ⟨x, hx, ⟨⟩⟩ := Result.bind_eq_ok.1 hr
  exact isFinite_of_score hx

/-- What is at least some score, in units. -/
theorem filter_atLeast {least : Binary64} (hleast : least.isFinite)
    (hall : ∀ r ∈ all, r.score.isFinite) :
    (all.filter fun r => r.score.atLeast least) =
      all.filter fun r => least.signedUnits ≤ r.units :=
  List.filter_congr fun r hr => Binary64.atLeast_of_isFinite (hall r hr) hleast

/-- The ranking of finite scores. -/
theorem fallsStably_of_finite (hall : ∀ r ∈ all, r.score.isFinite) :
    FallsStably Ranked.units all
      (all.mergeSort fun r s => r.score.compare? s.score != some .lt) := by
  have hle : ∀ r ∈ all, ∀ s ∈ all, (r.score.compare? s.score != some .lt) =
      decide (s.units ≤ r.units) := by
    intro r hr s hs
    rw [Binary64.compare?_of_isFinite (hall r hr) (hall s hs), Bool.eq_iff_iff, bne_iff_ne,
      decide_eq_true_eq, Ne, Option.some_inj, Int.compare_eq_lt, Int.not_lt]
    rfl
  have hsort := List.map_mergeSort (f := fun r : Ranked => r) hle
  rw [List.map_id', List.map_id'] at hsort
  rw [hsort]
  exact fallsStably_mergeSort Ranked.units all

/-- A query that is not blank has a ranking if all candidates have scores, and it is the
falling order of those that reach the least score. -/
theorem rank_eq_ok_iff (htext : (trimBlanks text.toList).isEmpty = false) :
    rank (.text text) (.text profile.name) candidates = .ok ranking ↔
      ∃ all, candidates.mapM (scored text) = .ok all ∧ FallsStably Ranked.units
        (all.filter fun r => r.score.atLeast profile.leastScore) ranking := by
  have hfilled : (Value.text text).isFilled = true := by
    rw [Value.isFilled, bne_iff_ne]
    rintro rfl
    cases htext
  have hrank : rank (.text text) (.text profile.name) candidates = (do
      let all ← candidates.mapM (scored text)
      return (all.filter fun r => r.score.compare? profile.leastScore != some .lt).mergeSort
        fun r s => r.score.compare? s.score != some .lt : Result (List Ranked)) := by
    rw [rank, Strictness.ofValue_name, Result.ok_bind, hfilled]
    simp only [Value.asText, Result.ok_bind, htext]
    rfl
  rw [hrank, Result.bind_eq_ok]
  refine exists_congr fun all => and_congr_right fun hall => ?_
  have hfinite := isFinite_of_scored hall
  have hleast := profile.isFinite_leastScore
  have hreaches : (all.filter fun r => r.score.compare? profile.leastScore != some .lt) =
      all.filter fun r => r.score.atLeast profile.leastScore := by
    refine List.filter_congr fun r hr => ?_
    rw [Binary64.atLeast, Binary64.compare?_of_isFinite (hfinite r hr) hleast]
    rfl
  have hkept : ∀ r ∈ all.filter fun r => r.score.atLeast profile.leastScore,
      r.score.isFinite := fun r hr => hfinite r (List.mem_filter.1 hr).1
  have hsorted := fallsStably_of_finite hkept
  rw [hreaches]
  constructor
  · rintro ⟨⟩
    exact hsorted
  · exact fun hranking => congrArg Except.ok (hsorted.unique hranking)

/-- A falling order of finite scores is a ranking. -/
theorem isRanking_of_fallsStably (hall : ∀ r ∈ all, r.score.isFinite)
    (h : FallsStably Ranked.units
      (all.filter fun r => r.score.atLeast profile.leastScore) ranking) :
    IsRanking profile all ranking := by
  have hfinite : ∀ r ∈ ranking, r.score.isFinite :=
    fun r hr => hall r (List.mem_filter.1 (h.perm.subset hr)).1
  refine ⟨h.perm, h.falling.imp_of_mem fun {r s} hr hs hle => ?_, fun r hr => ?_⟩
  · rw [Binary64.atLeast_of_isFinite (hfinite r hr) (hfinite s hs)]
    exact decide_eq_true hle
  · have hties {items : List Ranked} (hitems : ∀ s ∈ items, s.score.isFinite) :
        (items.filter fun s => s.score.ties r.score) =
          items.filter fun s => s.units == r.units :=
      List.filter_congr fun s hs => Binary64.ties_of_isFinite (hitems s hs) (hall r hr)
    rw [hties hfinite, h.ties r.units, ← hties fun s hs => hall s (List.mem_filter.1 hs).1,
      List.filter_filter]
    simp only [Bool.and_comm]

/-- The ranking of a stricter profile is the beginning of that of a less strict one. -/
theorem isBeginning_of_fallsStably (hall : ∀ r ∈ all, r.score.isFinite)
    (hprofiles : narrow.leastScore.atLeast wide.leastScore) {ranking' : List Ranked}
    (h : FallsStably Ranked.units
      (all.filter fun r => r.score.atLeast narrow.leastScore) ranking)
    (h' : FallsStably Ranked.units
      (all.filter fun r => r.score.atLeast wide.leastScore) ranking') :
    IsBeginning narrow.leastScore ranking ranking' := by
  have hnarrow := narrow.isFinite_leastScore
  have hwide := wide.isFinite_leastScore
  have hfinite : ∀ r ∈ ranking', r.score.isFinite :=
    fun r hr => hall r (List.mem_filter.1 (h'.perm.subset hr)).1
  rw [Binary64.atLeast_of_isFinite hnarrow hwide, decide_eq_true_eq] at hprofiles
  have hleft := h'.filter fun r => narrow.leastScore.signedUnits ≤ r.units
  have hitems : ((all.filter fun r => r.score.atLeast wide.leastScore).filter
        fun r => decide (narrow.leastScore.signedUnits ≤ r.units)) =
      all.filter fun r => r.score.atLeast narrow.leastScore := by
    rw [filter_atLeast hwide hall, filter_atLeast hnarrow hall, List.filter_filter]
    refine List.filter_congr fun r _ => ?_
    rw [← Bool.decide_and, decide_eq_decide]
    omega
  rw [hitems] at hleft
  have hleaves : ranking = ranking'.filter fun r => r.score.atLeast narrow.leastScore := by
    rw [filter_atLeast hnarrow hfinite]
    exact h.unique hleft
  refine ⟨hleaves.trans (h'.filter_eq_takeWhile fun r hr s hs hle hs' => ?_), hleaves⟩
  rw [Binary64.atLeast_of_isFinite (hfinite s hs) hnarrow, decide_eq_true_eq] at hs'
  rw [Binary64.atLeast_of_isFinite (hfinite r hr) hnarrow, decide_eq_true_eq]
  exact Int.le_trans hs' hle

end Rank

/--
A query that is not blank has a ranking under each profile if and only if every candidate
has a score, and a candidate that is given as an object has the score of the one that the
object describes. The ranking holds the candidates that reach the least score of the
profile, each as often as it comes, by falling scores and in their order where scores are
equal. So the strict ranking is the beginning of the balanced one, down to a score of 0.86,
and the balanced ranking that of the loose one, down to 0.72.
-/
theorem rank_ranks {text : String} (htext : (trimBlanks text.toList).isEmpty = false)
    (candidates : List Value) :
    (∀ profile : Strictness,
      (∃ ranking, rank (.text text) (.text profile.name) candidates = .ok ranking) ↔
        ∀ item ∈ candidates, ∃ r, scored text item = .ok r) ∧
      (∀ c : Candidate, scored text c.value =
        do return ⟨c.value, ← score text.toList c⟩) ∧
      ∀ all, candidates.mapM (scored text) = .ok all →
        all.map Ranked.item = candidates ∧
        ∃ ranking : Strictness → List Ranked,
          (∀ profile, rank (.text text) (.text profile.name) candidates =
              .ok (ranking profile) ∧ IsRanking profile all (ranking profile)) ∧
          IsBeginning (.decimal 86 2) (ranking .strict) (ranking .balanced) ∧
          IsBeginning (.decimal 72 2) (ranking .balanced) (ranking .loose) := by
  refine ⟨fun profile => ?_, fun c => ?_, fun all hall => ?_⟩
  · rw [← Result.exists_mapM_eq_ok_iff]
    constructor
    · rintro ⟨ranking, h⟩
      obtain ⟨all, hall, -⟩ := (rank_eq_ok_iff htext).1 h
      exact ⟨all, hall⟩
    · rintro ⟨all, hall⟩
      have hsub : ∀ r ∈ all.filter fun r => r.score.atLeast profile.leastScore,
          r.score.isFinite :=
        fun r hr => isFinite_of_scored hall r (List.mem_filter.1 hr).1
      exact ⟨_, (rank_eq_ok_iff htext).2 ⟨all, hall, fallsStably_of_finite hsub⟩⟩
  · rw [scored, Candidate.ofValue_value]
    rfl
  · have hfinite := isFinite_of_scored hall
    refine ⟨?_, ?_⟩
    · have hitems := Result.map_eq_map_of_mapM_eq_ok (g := Ranked.item) (k := fun item => item)
        hall ?_
      · rwa [List.map_id'] at hitems
      · intro item _ r hr
        obtain ⟨c, -, hr⟩ := Result.bind_eq_ok.1 hr
        obtain ⟨x, -, ⟨⟩⟩ := Result.bind_eq_ok.1 hr
        rfl
    · let ranking (profile : Strictness) : List Ranked :=
        (all.filter fun r => r.score.atLeast profile.leastScore).mergeSort
          fun r s => r.score.compare? s.score != some .lt
      have hfalls (profile : Strictness) : FallsStably Ranked.units
          (all.filter fun r => r.score.atLeast profile.leastScore) (ranking profile) :=
        fallsStably_of_finite fun r hr => hfinite r (List.mem_filter.1 hr).1
      refine ⟨ranking, fun profile => ⟨?_, ?_⟩, ?_, ?_⟩
      · exact (rank_eq_ok_iff htext).2 ⟨all, hall, hfalls profile⟩
      · exact isRanking_of_fallsStably hfinite (hfalls profile)
      · have hstrict : Strictness.strict.leastScore.atLeast Strictness.balanced.leastScore := by
          decide +kernel
        exact isBeginning_of_fallsStably hfinite hstrict (hfalls _) (hfalls _)
      · have hbalanced : Strictness.balanced.leastScore.atLeast Strictness.loose.leastScore := by
          decide +kernel
        exact isBeginning_of_fallsStably hfinite hbalanced (hfalls _) (hfalls _)

/-- Two candidates of one score, one that is given as itself, one that no profile lets in,
and one that only the loose profile does. -/
theorem rank_ranks_tied :
    let named (id name : String) : Value :=
      .object [("id", .text id), ("vendorName", .text name)]
    let reference : Candidate :=
      { id := "3", vendorName := .null, invoiceNumber := .null, trn := .null,
        reference := .text "Acmes Trading" }
    let candidates := [named "1" "Acnes", named "2" "ACMES", reference.value,
      named "4" "Acmes ", named "5" "Zenith", named "6" "Acxxs"]
    (trimBlanks " acmes".toList).isEmpty = false ∧
      ∃ all strict balanced loose,
        candidates.mapM (scored " acmes") = .ok all ∧
        rank (.text " acmes") (.text "strict") candidates = .ok strict ∧
        rank (.text " acmes") (.text "balanced") candidates = .ok balanced ∧
        rank (.text " acmes") (.text "loose") candidates = .ok loose ∧
        IsRanking .loose all loose ∧
        IsBeginning (.decimal 86 2) strict balanced ∧
        IsBeginning (.decimal 72 2) balanced loose ∧
        all.map (fun r => [Strictness.strict, .balanced, .loose].countP fun profile =>
          r.score.atLeast profile.leastScore) = [2, 3, 3, 3, 0, 1] := by
  intro named reference candidates
  have htext : (trimBlanks " acmes".toList).isEmpty = false := by decide +kernel
  have hscores : (do
      let all ← candidates.mapM (scored " acmes")
      return all.map fun r => [Strictness.strict, .balanced, .loose].countP fun profile =>
        r.score.atLeast profile.leastScore) = (.ok [2, 3, 3, 3, 0, 1] : Result (List Nat)) := by
    decide +kernel
  obtain ⟨all, hall, hscores⟩ := Result.bind_eq_ok.1 hscores
  obtain ⟨-, ranking, hranking, hbalanced, hloose⟩ := (rank_ranks htext candidates).2.2 all hall
  exact ⟨htext, all, ranking .strict, ranking .balanced, ranking .loose, hall,
    (hranking .strict).1, (hranking .balanced).1, (hranking .loose).1, (hranking .loose).2,
    hbalanced, hloose, Except.ok.inj hscores⟩

end Matching

end InvoiceReadiness
