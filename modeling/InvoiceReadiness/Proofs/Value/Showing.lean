import InvoiceReadiness.Numeric.Tolerance
import InvoiceReadiness.Proofs.Numeric.Rounding
import InvoiceReadiness.Proofs.Outcome
import InvoiceReadiness.Text.Template

/-!
# Values that can be shown

Messages are made of the texts of values, and only one thing can keep a value from
having a text: a whole number of more digits than texts may have, at any depth. The
values that have none are closed under everything that messages do with values.

## Main results

* `Value.exists_quotedText`, `Value.exists_shown`, `Value.exists_plain` — the three
  texts of a value.
* `Value.quotedText_fails` — that limit is all that keeps a value from having a text.
* `Value.withinDigits_follow` — what a path leads to can be shown too.
* `Template.fill_fails`, `Template.exists_fill` — a template can be filled if its paths can
  be followed.
-/

namespace InvoiceReadiness

namespace Value

mutual

/-- Whether the whole numbers of a value keep to the digit limit, at any depth. -/
def withinDigits : Value → Bool
  | number (.whole n) => n.natAbs < tenPow maxWholeDigits
  | list items => itemsWithinDigits items
  | object members => membersWithinDigits members
  | _ => true

/-- Whether all items keep to the digit limit. -/
def itemsWithinDigits : List Value → Bool
  | [] => true
  | item :: rest => withinDigits item && itemsWithinDigits rest

/-- Whether the values of all members keep to the digit limit. -/
def membersWithinDigits : List (String × Value) → Bool
  | [] => true
  | (_, value) :: rest => withinDigits value && membersWithinDigits rest

end

end Value

/-! ## The text of a number -/

theorem wholeText?_fails (n : Int) :
    FailsOnly (· = .digitLimit) (wholeText? n) := by
  unfold wholeText?
  split
  · exact .error rfl
  · exact .ok _ _

theorem wholeText?_eq_ok {n : Int} (h : n.natAbs < tenPow maxWholeDigits) :
    wholeText? n = .ok (wholeText n) := by
  rw [wholeText?, if_neg (Nat.not_le.2 h)]

theorem Number.exists_text {n : Number} (h : (Value.number n).withinDigits) :
    ∃ s, n.text = .ok s := by
  cases n with
  | whole n =>
      rw [Value.withinDigits, decide_eq_true_eq] at h
      exact ⟨_, wholeText?_eq_ok h⟩
  | float x => exact ⟨_, rfl⟩

theorem unitsBound_le_tenPow : unitsBound ≤ tenPow maxWholeDigits := by decide +kernel

/-- A number that is finite as binary64 keeps to the digit limit. -/
theorem Number.withinDigits_of_isFinite {n : Number} {finite : Bool}
    (h : n.isFinite = .ok finite) : (Value.number n).withinDigits := by
  cases n with
  | float x => rfl
  | whole n =>
      have hbound : 2 * unitsBound ≤ tenPow maxWholeDigits := by decide +kernel
      have hfinite : (Binary64.ofInt n).isFinite := by
        rw [isFinite, Binary64.ofInt?] at h
        by_contra hnot
        rw [if_neg hnot] at h
        cases h
      rw [Value.withinDigits, decide_eq_true_eq]
      exact Nat.lt_of_lt_of_le (Binary64.natAbs_lt_of_isFinite hfinite) hbound

/-- The whole part of a binary64 number keeps to the digit limit. -/
theorem Binary64.natAbs_truncate?_lt (x : Binary64) :
    (x.truncate?.getD 0).natAbs < tenPow maxWholeDigits := by
  have hpos := tenPow_pos maxWholeDigits
  cases x with
  | nan => exact hpos
  | infinite negative => exact hpos
  | finite negative units h =>
      have hquot : units / unitsPerOne ≤ units := Nat.div_le_self _ _
      have hlt : units / unitsPerOne < tenPow maxWholeDigits :=
        Nat.lt_of_lt_of_le (Nat.lt_of_le_of_lt hquot h.1) unitsBound_le_tenPow
      cases negative <;> simpa only [Binary64.truncate?, Option.getD_some, if_true,
        Bool.false_eq_true, if_false, Int.natAbs_neg, Int.natAbs_natCast] using hlt

namespace Value

/-! ## The three texts of a value -/

mutual

theorem exists_quotedText (v : Value) (h : v.withinDigits) :
    ∃ s, v.quotedText = .ok s := by
  match v with
  | null => exact ⟨_, rfl⟩
  | bool b => exact ⟨_, rfl⟩
  | number n => exact Number.exists_text h
  | text s => exact ⟨_, rfl⟩
  | list items =>
      obtain ⟨parts, hparts⟩ := exists_quotedItems items h
      rw [quotedText, hparts]
      exact ⟨_, rfl⟩
  | object members =>
      obtain ⟨parts, hparts⟩ := exists_quotedMembers members h
      rw [quotedText, hparts]
      exact ⟨_, rfl⟩

theorem exists_quotedItems (items : List Value) (h : itemsWithinDigits items) :
    ∃ parts, quotedItems items = .ok parts := by
  match items with
  | [] => exact ⟨_, rfl⟩
  | item :: rest =>
      rw [itemsWithinDigits, Bool.and_eq_true] at h
      obtain ⟨first, hfirst⟩ := exists_quotedText item h.1
      obtain ⟨more, hmore⟩ := exists_quotedItems rest h.2
      rw [quotedItems, hfirst, Result.ok_bind, hmore]
      exact ⟨_, rfl⟩

theorem exists_quotedMembers (members : List (String × Value))
    (h : membersWithinDigits members) : ∃ parts, quotedMembers members = .ok parts := by
  match members with
  | [] => exact ⟨_, rfl⟩
  | (name, value) :: rest =>
      rw [membersWithinDigits, Bool.and_eq_true] at h
      obtain ⟨first, hfirst⟩ := exists_quotedText value h.1
      obtain ⟨more, hmore⟩ := exists_quotedMembers rest h.2
      rw [quotedMembers, hfirst, Result.ok_bind, hmore]
      exact ⟨_, rfl⟩

end

theorem exists_shown {v : Value} (h : v.withinDigits) : ∃ s, v.shown = .ok s := by
  cases v with
  | text s => exact ⟨s, rfl⟩
  | _ => exact exists_quotedText _ h

theorem exists_plain {v : Value} (h : v.withinDigits) : ∃ s, v.plain = .ok s := by
  cases v with
  | null => exact ⟨_, rfl⟩
  | bool b => exact ⟨_, rfl⟩
  | number n =>
      cases n with
      | whole n =>
          have hplain : (number (.whole n)).plain = (number (.whole n)).shown := rfl
          rw [hplain]
          exact exists_shown h
      | float x =>
          have hwhole := wholeText?_eq_ok x.natAbs_truncate?_lt
          rw [plain]
          split
          · exact ⟨_, hwhole⟩
          · exact ⟨x.text, rfl⟩
  | _ => exact exists_shown h

theorem returns_shown {v : Value} (hv : v.withinDigits) : Returns v.shown := exists_shown hv

theorem returns_isBlank {v : Value} (hv : v.withinDigits) : Returns v.isBlank := by
  simp [isBlank, returns_shown hv]

/-! ## What keeps a value from being shown -/

mutual

theorem quotedText_fails (v : Value) : FailsOnly (· = .digitLimit) v.quotedText := by
  match v with
  | null => exact .ok _ _
  | bool b => exact .ok _ _
  | number (.whole n) => exact wholeText?_fails n
  | number (.float x) => exact .ok _ _
  | text s => exact .ok _ _
  | list items =>
      rw [quotedText]
      exact (quotedItems_fails items).bind fun parts _ => .ok _ _
  | object members =>
      rw [quotedText]
      exact (quotedMembers_fails members).bind fun parts _ => .ok _ _

theorem quotedItems_fails (items : List Value) :
    FailsOnly (· = .digitLimit) (quotedItems items) := by
  match items with
  | [] => exact .ok _ _
  | item :: rest =>
      rw [quotedItems]
      exact (quotedText_fails item).bind fun first _ =>
        (quotedItems_fails rest).bind fun more _ => .ok _ _

theorem quotedMembers_fails (members : List (String × Value)) :
    FailsOnly (· = .digitLimit) (quotedMembers members) := by
  match members with
  | [] => exact .ok _ _
  | (name, value) :: rest =>
      rw [quotedMembers]
      exact (quotedText_fails value).bind fun first _ =>
        (quotedMembers_fails rest).bind fun more _ => .ok _ _

end

theorem shown_fails (v : Value) : FailsOnly (· = .digitLimit) v.shown := by
  cases v with
  | text s => exact .ok _ _
  | _ => exact quotedText_fails _

/-- Only a value beyond the digit limit cannot be shown. -/
theorem beyond_of_quotedText {v : Value} {fault : Fault} (h : v.quotedText = .error fault) :
    fault = .digitLimit ∧ ¬v.withinDigits := by
  refine ⟨quotedText_fails v h, fun hdigits => ?_⟩
  obtain ⟨s, hs⟩ := exists_quotedText v hdigits
  rw [hs] at h
  cases h

theorem beyond_of_shown {v : Value} {fault : Fault} (h : v.shown = .error fault) :
    fault = .digitLimit ∧ ¬v.withinDigits := by
  refine ⟨shown_fails v h, fun hdigits => ?_⟩
  obtain ⟨s, hs⟩ := exists_shown hdigits
  rw [hs] at h
  cases h

theorem plain_fails (v : Value) : FailsOnly (· = .digitLimit) v.plain := by
  cases v with
  | null => exact .ok _ _
  | bool b => exact .ok _ _
  | number n =>
      cases n with
      | whole n => exact shown_fails (number (.whole n))
      | float x =>
          rw [plain]
          split
          · exact wholeText?_fails _
          · exact .ok _ _
  | text s => exact .ok _ _
  | list items => exact shown_fails (list items)
  | object members => exact shown_fails (object members)

/-! ## Parts of a value -/

theorem itemsWithinDigits_iff {items : List Value} :
    itemsWithinDigits items ↔ ∀ item ∈ items, item.withinDigits := by
  induction items with
  | nil => simp [itemsWithinDigits]
  | cons item rest ih => simp [itemsWithinDigits, ih]

theorem membersWithinDigits_iff {members : Members} :
    membersWithinDigits members ↔ ∀ member ∈ members, member.2.withinDigits := by
  induction members with
  | nil => simp [membersWithinDigits]
  | cons member rest ih => simp [membersWithinDigits, ih]

/-- Giving a member a value that keeps to the digit limit. -/
theorem membersWithinDigits_set {members : Members} (h : membersWithinDigits members)
    {value : Value} (hvalue : value.withinDigits) (name : String) :
    membersWithinDigits (members.set name value) := by
  induction members with
  | nil => simpa [Members.set, membersWithinDigits] using hvalue
  | cons member rest ih =>
      rw [membersWithinDigits, Bool.and_eq_true] at h
      by_cases hname : member.1 == name
      · simp [Members.set, hname, membersWithinDigits, hvalue, h.2]
      · simpa [Members.set, hname, membersWithinDigits, h.1] using ih h.2

theorem withinDigits_orElse {v w : Value} (hv : v.withinDigits) (hw : w.withinDigits) :
    (v.orElse w).withinDigits := by
  unfold orElse
  split
  · exact hv
  · exact hw

/-! ## What a path leads to -/

theorem withinDigits_getElem? {items : List Value} (h : itemsWithinDigits items)
    (i : Nat) : (items[i]?.getD null).withinDigits := by
  induction items generalizing i with
  | nil => rfl
  | cons item rest ih =>
      rw [itemsWithinDigits, Bool.and_eq_true] at h
      cases i with
      | zero => exact h.1
      | succ i => exact ih h.2 i

theorem withinDigits_get {members : Members} (h : membersWithinDigits members)
    (name : String) : (members.get name).withinDigits := by
  induction members with
  | nil => rfl
  | cons member rest ih =>
      rw [membersWithinDigits, Bool.and_eq_true] at h
      by_cases hname : member.1 == name
      · simpa [Members.get, hname] using h.1
      · simpa [Members.get, hname] using ih h.2

/-- The cells of a record keep to the digit limit if the record does. -/
theorem withinDigits_cell {r : Record} (h : r.value.withinDigits) (name : String) :
    (r.get name).withinDigits := withinDigits_get h name

/-- What a path leads to keeps to the digit limit if the whole does. -/
theorem withinDigits_follow {v w : Value} {segments : List (List Char)}
    (h : v.withinDigits) (hw : v.follow segments = .ok w) : w.withinDigits := by
  have hnull : (null.withinDigits : Bool) := rfl
  induction segments generalizing v with
  | nil =>
      rw [follow] at hw
      cases hw
      exact h
  | cons segment rest ih =>
      cases v with
      | object members => exact ih (withinDigits_get h _) hw
      | list items =>
          rw [follow] at hw
          split at hw
          · obtain ⟨i, -, hmore⟩ := Result.bind_eq_ok.1 hw
            exact ih (withinDigits_getElem? h i) hmore
          · cases hw
            exact hnull
      | _ =>
          cases hw
          exact hnull

end Value

/-! ## Templates -/

namespace Template

/-- The value of a placeholder keeps to the digit limit if record and extra values do. -/
theorem withinDigits_valueOf {record v : Value} {extra : Members} {path : String}
    (hrecord : record.withinDigits) (hextra : Value.membersWithinDigits extra)
    (hv : valueOf record extra path = .ok v) : v.withinDigits := by
  have hget := Value.withinDigits_get hextra path
  rw [valueOf] at hv
  split at hv
  · exact Value.withinDigits_follow hrecord hv
  · cases hv
    exact hget

/-- Filling a template fails as its paths and the texts of its values do. -/
theorem fill_fails {P : Fault → Prop} {template : String} {record : Value} {extra : Members}
    (hpaths : ∀ path ∈ references template, FailsOnly P (record.resolve path))
    (hplain : ∀ path v, valueOf record extra path = .ok v → FailsOnly P v.plain) :
    FailsOnly P (fill template record extra) := by
  refine (FailsOnly.mapM fun piece hpiece => ?_).bind fun parts _ => .ok _ _
  cases piece with
  | char c => exact .ok _ _
  | placeholder body =>
      have hvalue : FailsOnly P (valueOf record extra (String.ofList (trimBlanks body))) := by
        unfold valueOf
        split
        · exact hpaths _ (List.mem_filterMap.2 ⟨_, hpiece, rfl⟩)
        · exact .ok _ _
      refine hvalue.bind fun v hv => ?_
      split
      · exact .ok _ _
      · exact (hplain _ v hv).bind fun s _ => .ok _ _

/-- A template can be filled if the record has all of its paths. -/
theorem exists_fill {template : String} {record : Value} {extra : Members}
    (hpaths : ∀ path ∈ references template, ∃ v, record.resolve path = .ok v)
    (hrecord : record.withinDigits) (hextra : Value.membersWithinDigits extra) :
    ∃ s, fill template record extra = .ok s := by
  refine FailsOnly.returns (fill_fails (fun path hpath => ?_) fun path v hv => ?_)
  · exact .of_returns (hpaths path hpath)
  · exact .of_returns (Value.exists_plain (withinDigits_valueOf hrecord hextra hv))

end Template

end InvoiceReadiness
