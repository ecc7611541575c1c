import Mathlib.Data.List.Induction
import Mathlib.Data.List.Nodup

/-!
# Texts in the order in which they first come

Where texts come more than once, each is kept where it first comes. What is kept grows at the
end: a text that comes last is kept if it is new. So the texts that are kept stand in the order
of their first places, and that order stays the same if other texts are left out before.

## Main results

* `eraseDups_concat` — another text.
* `pairwise_eraseDups` — the order of what is kept.
* `idxOf_lt_of_filter` — first places among some of the texts and among all of them.
-/

namespace InvoiceReadiness

/-- Another text comes last, if it is new. -/
theorem eraseDups_concat (texts : List String) (last : String) :
    (texts ++ [last]).eraseDups = texts.eraseDups ++ if last ∈ texts then [] else [last] := by
  rw [List.eraseDups_append]
  by_cases hmem : last ∈ texts
  · simp [List.removeAll, hmem]
  · simp [List.removeAll, hmem, List.eraseDups_cons]

/-- Texts are kept in the order in which they come first. -/
theorem pairwise_eraseDups (texts : List String) :
    texts.eraseDups.Pairwise fun s t => texts.idxOf s < texts.idxOf t := by
  induction texts using List.reverseRecOn with
  | nil => exact .nil
  | append_singleton texts last ih =>
      have hkeep : texts.eraseDups.Pairwise fun s t =>
          (texts ++ [last]).idxOf s < (texts ++ [last]).idxOf t := by
        refine ih.imp_of_mem fun hs ht hlt => ?_
        rwa [List.idxOf_append_of_mem (List.mem_eraseDups.1 hs),
          List.idxOf_append_of_mem (List.mem_eraseDups.1 ht)]
      rw [eraseDups_concat]
      by_cases hmem : last ∈ texts
      · rwa [if_pos hmem, List.append_nil]
      · rw [if_neg hmem, List.pairwise_append]
        refine ⟨hkeep, List.pairwise_singleton _ _, fun s hs other hother => ?_⟩
        obtain rfl := List.mem_singleton.1 hother
        have hs := List.mem_eraseDups.1 hs
        rw [List.idxOf_append_of_mem hs, List.idxOf_append_of_notMem hmem]
        exact Nat.lt_of_lt_of_le (List.idxOf_lt_length_of_mem hs) (Nat.le_add_right _ _)

theorem nodup_eraseDups (texts : List String) : texts.eraseDups.Nodup := by
  refine (pairwise_eraseDups texts).imp fun hlt => ?_
  rintro rfl
  exact Nat.lt_irrefl _ hlt

/-- Of two texts that are not left out, the one that comes first of those that are not left out
comes first of all. -/
theorem idxOf_lt_of_filter {p : String → Bool} {s t : String} (hs : p s) (ht : p t)
    {texts : List String} (h : (texts.filter p).idxOf s < (texts.filter p).idxOf t) :
    texts.idxOf s < texts.idxOf t := by
  induction texts with
  | nil => cases h
  | cons first rest ih =>
      by_cases hfirst : first = t
      · subst hfirst
        rw [List.filter_cons_of_pos ht, List.idxOf_cons_self] at h
        cases h
      · by_cases hfound : first = s
        · subst hfound
          rw [List.idxOf_cons_self, List.idxOf_cons_ne _ hfirst]
          exact Nat.succ_pos _
        · rw [List.idxOf_cons_ne _ hfound, List.idxOf_cons_ne _ hfirst]
          refine Nat.succ_lt_succ (ih ?_)
          by_cases hkept : p first
          · rw [List.filter_cons_of_pos hkept, List.idxOf_cons_ne _ hfound,
              List.idxOf_cons_ne _ hfirst] at h
            exact Nat.lt_of_succ_lt_succ h
          · rwa [List.filter_cons_of_neg hkept] at h

end InvoiceReadiness
