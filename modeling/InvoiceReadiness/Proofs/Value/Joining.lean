import InvoiceReadiness.Proofs.Value.Paths
import Mathlib.Data.List.DropRight

/-!
# Paths that go on

Two paths with a point between them are one path: its segments are those of the first and then
those of the second, an empty one included wherever a point begins or ends a part. So a walk
along the whole is a walk along the first part, and from where it leads a walk along the second.
If the first walk misses its way the whole path leads to null, as every path leads from null to
null. If it stumbles, nothing is looked up after it.

Blanks are dropped around a whole path only. At the seam they would belong to a segment of the
whole path, and to none of its parts; the law is about paths without blanks there.

## Main results

* `segments_append` — the segments of two paths with a point between them.
* `Value.leads_append_iff`, `Value.loses_append_iff`, `Value.stumbles_append_iff` — a walk in two
  parts.
* `Value.follow_append` — following two lists of segments, one after the other.
* `Value.resolve_append` — where two paths with a point between them lead.
-/

namespace InvoiceReadiness

/-! ## The seam -/

section Seam

variable {drop : Char → Bool} {before after : List Char} {c : Char}

/-- What is dropped at the front ends before a character that stays. -/
theorem dropWhile_append_cons (hc : drop c = false) :
    (before ++ c :: after).dropWhile drop = before.dropWhile drop ++ c :: after := by
  have hstop : (c :: after).dropWhile drop = c :: after :=
    List.dropWhile_cons_of_neg (by simp [hc])
  rw [List.dropWhile_append, hstop]
  split
  · rename_i hnil
    rw [List.isEmpty_iff.1 hnil, List.nil_append]
  · rfl

/-- Nothing is dropped at the end of a text whose last character stays. -/
theorem trimChars_of_getLast? (h : ∀ c ∈ before.getLast?, drop c = false) :
    trimChars drop before = before.dropWhile drop := by
  refine List.rdropWhile_eq_self_iff.2 fun hne => ?_
  have hlast := (List.dropWhile_suffix drop).getLast hne
  rw [hlast, h _ (List.getLast_mem_getLast? _)]
  exact Bool.false_ne_true

/-- Nothing is dropped at the front of a text whose first character stays. -/
theorem trimChars_of_head? (h : ∀ c ∈ after.head?, drop c = false) :
    trimChars drop after = (after.reverse.dropWhile drop).reverse := by
  have hfront : after.dropWhile drop = after := by
    cases after with
    | nil => rfl
    | cons c rest => exact List.dropWhile_cons_of_neg (by simp [h c rfl])
  rw [trimChars, hfront]

/-- Two texts around a character that stays lose their outer ends only. -/
theorem trimChars_append_cons (hc : drop c = false)
    (hbefore : ∀ c ∈ before.getLast?, drop c = false)
    (hafter : ∀ c ∈ after.head?, drop c = false) :
    trimChars drop (before ++ c :: after) = trimChars drop before ++ c :: trimChars drop after := by
  -- The front ends at the character that stays, and turned around so does the end.
  have hback : (before.dropWhile drop ++ c :: after).reverse =
      after.reverse ++ c :: (before.dropWhile drop).reverse := by
    simp
  rw [trimChars_of_getLast? hbefore, trimChars_of_head? hafter, trimChars,
    dropWhile_append_cons hc, hback, dropWhile_append_cons hc]
  simp

end Seam

namespace Value

/-- The segments of two paths with a point between them, and no blanks around the point. -/
theorem segments_append {p q : String} (hp : ∀ c ∈ p.toList.getLast?, isBlankChar c = false)
    (hq : ∀ c ∈ q.toList.head?, isBlankChar c = false) :
    segments (p ++ "." ++ q) = segments p ++ segments q := by
  have hchars : (p ++ "." ++ q).toList = p.toList ++ '.' :: q.toList := by simp
  have hpoint : isBlankChar '.' = false := rfl
  rw [segments, hchars, trimBlanks, trimChars_append_cons hpoint hp hq, splitAtChar_append_cons]
  rfl

/-! ## Walks in two parts -/

variable {u v w : Value} {before after : List (List Char)} {fault : Fault}

theorem leads_append_iff :
    Leads u (before ++ after) w ↔ ∃ v, Leads u before v ∧ Leads v after w := by
  constructor
  · intro h
    induction before generalizing u with
    | nil => exact ⟨u, .here u, h⟩
    | cons segment rest ih =>
        cases h with
        | step hstep hrest =>
            obtain ⟨v, hfirst, hsecond⟩ := ih hrest
            exact ⟨v, .step hstep hfirst, hsecond⟩
  · rintro ⟨v, hfirst, hsecond⟩
    induction hfirst with
    | here v => exact hsecond
    | step hstep hrest ih => exact .step hstep (ih hsecond)

/-- A walk comes to a segment in its first part or in its second. -/
theorem exists_stop_append_iff {P : Value → List Char → Prop} :
    (∃ way segment rest v, before ++ after = way ++ segment :: rest ∧ Leads u way v ∧
        P v segment) ↔
      (∃ way segment rest v, before = way ++ segment :: rest ∧ Leads u way v ∧ P v segment) ∨
      ∃ v, Leads u before v ∧
        ∃ way segment rest w, after = way ++ segment :: rest ∧ Leads v way w ∧ P w segment := by
  constructor
  · rintro ⟨way, segment, rest, v, hway, hleads, hstop⟩
    -- The walk stops in the second part, or before its first segment, or in the first part.
    rcases List.append_eq_append_iff.1 hway with ⟨more, rfl, hafter⟩ | ⟨more, hbefore, hrest⟩
    · obtain ⟨w, hfirst, hsecond⟩ := leads_append_iff.1 hleads
      exact .inr ⟨w, hfirst, more, segment, rest, v, hafter, hsecond, hstop⟩
    · cases more with
      | nil =>
          rw [List.append_nil] at hbefore
          subst hbefore
          exact .inr ⟨v, hleads, [], segment, rest, v, hrest.symm, .here v, hstop⟩
      | cons next more =>
          obtain ⟨rfl, -⟩ := List.cons.inj hrest
          exact .inl ⟨way, segment, more, v, hbefore, hleads, hstop⟩
  · rintro (⟨way, segment, rest, v, rfl, hleads, hstop⟩ |
      ⟨v, hfirst, way, segment, rest, w, rfl, hsecond, hstop⟩)
    · exact ⟨way, segment, rest ++ after, v, by simp, hleads, hstop⟩
    · exact ⟨before ++ way, segment, rest, w, by simp, leads_append_iff.2 ⟨v, hfirst, hsecond⟩,
        hstop⟩

theorem loses_append_iff :
    Loses u (before ++ after) ↔ Loses u before ∨ ∃ v, Leads u before v ∧ Loses v after :=
  exists_stop_append_iff

theorem stumbles_iff {way : List (List Char)} :
    Stumbles u way fault ↔ ∃ before segment after v, way = before ++ segment :: after ∧
      Leads u before v ∧ (∃ items, v = .list items) ∧ Slips segment fault := by
  constructor
  · rintro ⟨before, segment, after, items, hway, hleads, hslips⟩
    exact ⟨before, segment, after, _, hway, hleads, ⟨items, rfl⟩, hslips⟩
  · rintro ⟨before, segment, after, _, hway, hleads, ⟨items, rfl⟩, hslips⟩
    exact ⟨before, segment, after, items, hway, hleads, hslips⟩

theorem stumbles_append_iff :
    Stumbles u (before ++ after) fault ↔
      Stumbles u before fault ∨ ∃ v, Leads u before v ∧ Stumbles v after fault := by
  simp only [stumbles_iff]
  exact exists_stop_append_iff

/-- Following two lists of segments is following the first, and the second from where that
leads. -/
theorem follow_append (u : Value) (before after : List (List Char)) :
    u.follow (before ++ after) = (u.follow before >>= fun v => v.follow after) := by
  rcases walk_cases u before with ⟨v, hleads⟩ | hloses | ⟨fault, hstumbles⟩
  · rw [follow_of_leads hleads, follow_eq_of_leads hleads, Result.ok_bind]
  · rw [follow_of_loses (loses_append_iff.2 (.inl hloses)), follow_of_loses hloses,
      Result.ok_bind, follow_null]
  · rw [follow_of_stumbles (stumbles_append_iff.2 (.inl hstumbles)),
      follow_of_stumbles hstumbles, Result.error_bind]

/-! ## Paths in two parts -/

/--
**Paths compose.** Two paths with a point between them, and no blanks around the point, are one
path, which has the segments of both. Following it has the outcome of following the first, and
the second from where that leads. It leads on where both walks do, to null where one of them
misses its way, and fails where one of them stumbles.
-/
theorem resolve_append (record : Value) {p q : String}
    (hp : ∀ c ∈ p.toList.getLast?, isBlankChar c = false)
    (hq : ∀ c ∈ q.toList.head?, isBlankChar c = false) :
    segments (p ++ "." ++ q) = segments p ++ segments q ∧
    resolve record (p ++ "." ++ q) = (do resolve (← resolve record p) q) ∧
    (∀ w, resolve record (p ++ "." ++ q) = .ok w ↔
      (∃ v, Leads record (segments p) v ∧ Leads v (segments q) w) ∨
      (Loses record (segments p) ∨ ∃ v, Leads record (segments p) v ∧ Loses v (segments q)) ∧
        w = .null) ∧
    ∀ fault, resolve record (p ++ "." ++ q) = .error fault ↔
      Stumbles record (segments p) fault ∨
      ∃ v, Leads record (segments p) v ∧ Stumbles v (segments q) fault := by
  have hsegments := segments_append hp hq
  refine ⟨hsegments, ?_, fun w => ?_, fun fault => ?_⟩
  · rw [resolve, hsegments, follow_append]
    rfl
  · rw [resolve, hsegments, follow_eq_ok_iff, leads_append_iff, loses_append_iff]
  · rw [resolve, hsegments, follow_eq_error_iff, stumbles_append_iff]

/-- An object below an object is reached through a list and a member without a name, with blanks
around the whole path. -/
theorem resolve_append_unnamed :
    let record : Value := .object [("rows", .list [.object [("", .object [("id", .text "A")])]])]
    (∀ c ∈ " rows.0".toList.getLast?, isBlankChar c = false) ∧
    (∀ c ∈ ".id ".toList.head?, isBlankChar c = false) ∧
    resolve record (" rows.0" ++ "." ++ ".id ") = (do resolve (← resolve record " rows.0") ".id ") ∧
    resolve record (" rows.0" ++ "." ++ ".id ") = .ok (.text "A") := by
  intro record
  have hp : ∀ c ∈ " rows.0".toList.getLast?, isBlankChar c = false := by
    intro c hc
    obtain rfl : '0' = c := Option.some.inj hc
    rfl
  have hq : ∀ c ∈ ".id ".toList.head?, isBlankChar c = false := by
    intro c hc
    obtain rfl : '.' = c := Option.some.inj hc
    rfl
  exact ⟨hp, hq, (resolve_append record hp hq).2.1, rfl⟩

/-- With a blank at the seam the whole path asks for another member than its first part. -/
example :
    let record : Value := .object [("a", .object [("b", .text "A")])]
    resolve record ("a " ++ "." ++ "b") = .ok .null ∧
      (do resolve (← resolve record "a ") "b" : Result Value) = .ok (.text "A") :=
  ⟨rfl, rfl⟩

end Value

end InvoiceReadiness
