import InvoiceReadiness.Proofs.Expression.Tokens
import InvoiceReadiness.Proofs.Text.Parts

/-!
# Where paths lead

A path is a list of segments, and following it is a walk from part to part. `Leads` says where a
walk arrives, step by step, without a word on how it is computed: a member of an object by its
name, an item of a list by its position. A walk `Misses` its way at the first value that has no
such part, and then the path leads to null.

That is meant to be all, so that a path leads somewhere on every record. It is not. A list is
asked for an item if the segment shows nothing but digits, and not every such segment is a
numeral: a superscript two shows a digit, and a numeral may have too many of them. There the walk
`Stumbles`, and following the path fails.

## Main results

* `Value.step_cases` — one step leads on, misses, or stumbles.
* `Value.walk_cases` — so does a walk.
* `Value.resolve_slip` — where a path leads, and which paths can fail.
-/

namespace InvoiceReadiness

namespace Value

/-! ## Steps and walks -/

/-- A segment that is the numeral of a position: decimal digits of any script, and not more of
them than a numeral may have. -/
def Indexes (segment : List Char) (i : Nat) : Prop :=
  segment ≠ [] ∧ Lexer.Digits segment ∧ segment.length ≤ maxWholeDigits ∧
    numberOfDigits (Lexer.digitValues segment) = i

/-- From a value to the part of it that a segment names. -/
inductive Steps : Value → List Char → Value → Prop where
  | member {before after : Members} {segment : List Char} {v : Value}
      (hbefore : ∀ member ∈ before, member.1 ≠ String.ofList segment) :
      Steps (.object (before ++ (String.ofList segment, v) :: after)) segment v
  | item {items : List Value} {segment : List Char} {i : Nat} {v : Value}
      (hindex : Indexes segment i) (hitem : items[i]? = some v) :
      Steps (.list items) segment v

/-- From a value to what the segments name, one after the other. -/
inductive Leads : Value → List (List Char) → Value → Prop where
  | here (v : Value) : Leads v [] v
  | step {u v w : Value} {segment : List Char} {rest : List (List Char)}
      (hstep : Steps u segment v) (hrest : Leads v rest w) : Leads u (segment :: rest) w

/-- A value has no part of the name: the object no such member, the list no such item, or not
even a position is asked for, or the value has no parts at all. -/
inductive Misses : Value → List Char → Prop where
  | member {members : Members} {segment : List Char}
      (hnone : ∀ member ∈ members, member.1 ≠ String.ofList segment) :
      Misses (.object members) segment
  | item {items : List Value} {segment : List Char} {i : Nat} (hindex : Indexes segment i)
      (hbeyond : items.length ≤ i) : Misses (.list items) segment
  | noPosition {items : List Value} {segment : List Char}
      (hsegment : segment = [] ∨ ∃ c ∈ segment, isDigitLike c = false) :
      Misses (.list items) segment
  | noParts {v : Value} {segment : List Char} (hobject : ∀ members, v ≠ .object members)
      (hlist : ∀ items, v ≠ .list items) : Misses v segment

/-- A segment that shows nothing but digits and is no numeral all the same, and the fault of
reading it as one. -/
inductive Slips : List Char → Fault → Prop where
  | shown {segment : List Char} {c : Char} (hdigits : ∀ d ∈ segment, isDigitLike d)
      (hmem : c ∈ segment) (hc : isDecimalDigit c = false) : Slips segment .notANumeral
  | long {segment : List Char} (hdigits : Lexer.Digits segment)
      (hlimit : maxWholeDigits < segment.length) : Slips segment .digitLimit

variable {u v w : Value} {segment : List Char} {way : List (List Char)}
  {items : List Value} {fault : Fault}

/-! ### One step -/

/-- A segment is the numeral of a position, or the list is not asked for one, or the segment
slips. -/
theorem segment_cases (segment : List Char) :
    (∃ i, Indexes segment i) ∨ (segment = [] ∨ ∃ c ∈ segment, isDigitLike c = false) ∨
      ∃ fault, Slips segment fault := by
  by_cases hsegment : segment = [] ∨ ∃ c ∈ segment, isDigitLike c = false
  · exact .inr (.inl hsegment)
  · simp only [not_or, not_exists, not_and, Bool.not_eq_false] at hsegment
    obtain ⟨hne, hlike⟩ := hsegment
    by_cases hdigits : Lexer.Digits segment
    · by_cases hlimit : maxWholeDigits < segment.length
      · exact .inr (.inr ⟨_, .long hdigits hlimit⟩)
      · exact .inl ⟨_, hne, hdigits, Nat.not_lt.1 hlimit, rfl⟩
    · simp only [Lexer.Digits, not_forall, Bool.not_eq_true] at hdigits
      obtain ⟨c, hmem, hc⟩ := hdigits
      exact .inr (.inr ⟨_, .shown hlike hmem hc⟩)

/-- From a value a segment leads on, or misses, or the value is a list and the segment slips. -/
theorem step_cases (u : Value) (segment : List Char) :
    (∃ v, Steps u segment v) ∨ Misses u segment ∨
      ∃ items fault, u = .list items ∧ Slips segment fault := by
  cases u with
  | object members =>
      cases hfound : members.find? fun member => member.1 == String.ofList segment with
      | none =>
          refine .inr (.inl (.member fun member hmem => ?_))
          simpa using List.find?_eq_none.1 hfound member hmem
      | some member =>
          obtain ⟨hname, before, after, rfl, hbefore⟩ :=
            List.find?_eq_some_iff_append.1 hfound
          obtain ⟨name, v⟩ := member
          obtain rfl : name = String.ofList segment := eq_of_beq hname
          exact .inl ⟨v, .member fun member hmem => by simpa using hbefore member hmem⟩
  | list items =>
      rcases segment_cases segment with ⟨i, hindex⟩ | hnone | ⟨fault, hslips⟩
      · cases hitem : items[i]? with
        | none => exact .inr (.inl (.item hindex (List.getElem?_eq_none_iff.1 hitem)))
        | some v => exact .inl ⟨v, .item hindex hitem⟩
      · exact .inr (.inl (.noPosition hnone))
      · exact .inr (.inr ⟨items, fault, rfl, hslips⟩)
  | _ => exact .inr (.inl (.noParts nofun nofun))

/-! ### The segments of lists -/

theorem isPosition_iff :
    isPosition segment ↔ segment ≠ [] ∧ ∀ c ∈ segment, isDigitLike c := by
  simp [isPosition]

/-- A decimal digit shows a digit. -/
theorem isDigitLike_of_digits (h : Lexer.Digits segment) : ∀ c ∈ segment, isDigitLike c := by
  intro c hc
  rw [isDigitLike, h c hc, Bool.true_or]

/-- A segment of decimal digits is read as a numeral, up to the limit. -/
theorem naturalOfText?_of_digits (h : Lexer.Digits segment) :
    naturalOfText? segment =
      if maxWholeDigits < segment.length then .error .digitLimit
      else .ok (numberOfDigits (Lexer.digitValues segment)) := by
  simp only [naturalOfText?, Lexer.mapM_decimalDigit? h, wholeOfDigits?,
    Lexer.length_digitValues h]

/-- A segment with a character that is no decimal digit cannot be read as a numeral. -/
theorem naturalOfText?_of_mem {c : Char} (hmem : c ∈ segment) (hc : isDecimalDigit c = false) :
    naturalOfText? segment = .error .notANumeral := by
  have hnone : segment.mapM decimalDigit? = none := by
    induction segment with
    | nil => cases hmem
    | cons d rest ih =>
        rw [List.mapM_cons]
        rcases List.mem_cons.1 hmem with rfl | hlater
        · have hdigit : decimalDigit? c = none := by simpa [isDecimalDigit] using hc
          rw [hdigit]
          rfl
        · rw [ih hlater]
          cases decimalDigit? d <;> rfl
  simp only [naturalOfText?, hnone]

/-! ### Following a step -/

theorem follow_null (way : List (List Char)) : null.follow way = .ok null := by
  cases way <;> rfl

/-- No member is found by a name that none has. -/
theorem find?_member_eq_none {members : Members} {name : String}
    (h : ∀ member ∈ members, member.1 ≠ name) :
    members.find? (fun member => member.1 == name) = none :=
  List.find?_eq_none.2 fun member hmem => by simpa using h member hmem

/-- A list is asked for the item at the position that a segment is the numeral of. -/
theorem follow_of_indexes {i : Nat} (h : Indexes segment i) (items : List Value)
    (rest : List (List Char)) :
    (list items).follow (segment :: rest) = (items[i]?.getD null).follow rest := by
  obtain ⟨hne, hdigits, hlimit, rfl⟩ := h
  have hposition : isPosition segment := isPosition_iff.2 ⟨hne, isDigitLike_of_digits hdigits⟩
  rw [follow, if_pos hposition, naturalOfText?_of_digits hdigits, if_neg (Nat.not_lt.2 hlimit),
    Result.ok_bind]

/-- A step leads to the value that the rest of the path is followed from. -/
theorem follow_of_steps (h : Steps u segment v) (rest : List (List Char)) :
    u.follow (segment :: rest) = v.follow rest := by
  cases h with
  | @member before after segment v hbefore =>
      have hfound : Members.get (before ++ (String.ofList segment, v) :: after)
          (String.ofList segment) = v := by
        simp [Members.get, List.find?_append, find?_member_eq_none hbefore]
      rw [follow, hfound]
  | @item items segment i v hindex hitem =>
      rw [follow_of_indexes hindex, hitem, Option.getD_some]

/-- Where a part is missing, the path leads to null. -/
theorem follow_of_misses (h : Misses u segment) (rest : List (List Char)) :
    u.follow (segment :: rest) = .ok null := by
  cases h with
  | @member members segment hnone =>
      have hfound : Members.get members (String.ofList segment) = null := by
        rw [Members.get, find?_member_eq_none hnone]
        rfl
      rw [follow, hfound, follow_null]
  | @item items segment i hindex hbeyond =>
      rw [follow_of_indexes hindex, List.getElem?_eq_none hbeyond, Option.getD_none, follow_null]
  | @noPosition items segment hsegment =>
      have hposition : ¬isPosition segment = true := by
        rw [isPosition_iff]
        rintro ⟨hne, hlike⟩
        rcases hsegment with rfl | ⟨c, hmem, hc⟩
        · exact hne rfl
        · rw [hlike c hmem] at hc
          cases hc
      rw [follow, if_neg hposition]
  | noParts hobject hlist =>
      cases u with
      | object members => exact absurd rfl (hobject members)
      | list items => exact absurd rfl (hlist items)
      | _ => rfl

/-- A segment that slips is asked for and cannot be read. -/
theorem follow_of_slips (h : Slips segment fault) (items : List Value)
    (rest : List (List Char)) : (list items).follow (segment :: rest) = .error fault := by
  cases h with
  | shown hlike hmem hc =>
      have hposition : isPosition segment := isPosition_iff.2 ⟨List.ne_nil_of_mem hmem, hlike⟩
      rw [follow, if_pos hposition, naturalOfText?_of_mem hmem hc]
      rfl
  | long hdigits hlimit =>
      have hne : segment ≠ [] := List.ne_nil_of_length_pos (by omega)
      have hposition : isPosition segment := isPosition_iff.2 ⟨hne, isDigitLike_of_digits hdigits⟩
      rw [follow, if_pos hposition, naturalOfText?_of_digits hdigits, if_pos hlimit]
      rfl

/-! ### Following a walk -/

/-- A walk leads to the value that the rest of the path is followed from. -/
theorem follow_of_leads (h : Leads u way v) (rest : List (List Char)) :
    u.follow (way ++ rest) = v.follow rest := by
  induction h with
  | here v => rfl
  | step hstep hrest ih => rw [List.cons_append, follow_of_steps hstep, ih]

/-- A walk on the way of which a part is missing. -/
def Loses (u : Value) (way : List (List Char)) : Prop :=
  ∃ before segment after v, way = before ++ segment :: after ∧ Leads u before v ∧
    Misses v segment

/-- A walk that comes to a list with a segment that slips. -/
def Stumbles (u : Value) (way : List (List Char)) (fault : Fault) : Prop :=
  ∃ before segment after items, way = before ++ segment :: after ∧
    Leads u before (.list items) ∧ Slips segment fault

/-- Every walk leads to its end, or a part is missing on the way, or it stumbles there. -/
theorem walk_cases (u : Value) (way : List (List Char)) :
    (∃ v, Leads u way v) ∨ Loses u way ∨ ∃ fault, Stumbles u way fault := by
  induction way generalizing u with
  | nil => exact .inl ⟨u, .here u⟩
  | cons segment rest ih =>
      rcases step_cases u segment with ⟨v, hstep⟩ | hmisses | ⟨items, fault, rfl, hslips⟩
      · rcases ih v with ⟨w, hrest⟩ | ⟨before, other, after, w, rfl, hleads, hmisses⟩ |
          ⟨fault, before, other, after, items, rfl, hleads, hslips⟩
        · exact .inl ⟨w, .step hstep hrest⟩
        · exact .inr (.inl ⟨segment :: before, other, after, w, rfl, .step hstep hleads, hmisses⟩)
        · exact .inr (.inr
            ⟨fault, segment :: before, other, after, items, rfl, .step hstep hleads, hslips⟩)
      · exact .inr (.inl ⟨[], segment, rest, u, rfl, .here u, hmisses⟩)
      · exact .inr (.inr ⟨fault, [], segment, rest, items, rfl, .here _, hslips⟩)

theorem follow_eq_of_leads (h : Leads u way v) : u.follow way = .ok v := by
  have hend := follow_of_leads h []
  rwa [List.append_nil, follow] at hend

theorem follow_of_loses (h : Loses u way) : u.follow way = .ok null := by
  obtain ⟨before, segment, after, v, rfl, hleads, hmisses⟩ := h
  rw [follow_of_leads hleads, follow_of_misses hmisses]

theorem follow_of_stumbles (h : Stumbles u way fault) : u.follow way = .error fault := by
  obtain ⟨before, segment, after, items, rfl, hleads, hslips⟩ := h
  rw [follow_of_leads hleads, follow_of_slips hslips]

theorem follow_eq_ok_iff :
    u.follow way = .ok v ↔ Leads u way v ∨ Loses u way ∧ v = null := by
  constructor
  · intro h
    rcases walk_cases u way with ⟨w, hleads⟩ | hloses | ⟨fault, hstumbles⟩
    · rw [follow_eq_of_leads hleads] at h
      exact .inl (Except.ok.inj h ▸ hleads)
    · rw [follow_of_loses hloses] at h
      exact .inr ⟨hloses, (Except.ok.inj h).symm⟩
    · rw [follow_of_stumbles hstumbles] at h
      cases h
  · rintro (hleads | ⟨hloses, rfl⟩)
    · exact follow_eq_of_leads hleads
    · exact follow_of_loses hloses

theorem follow_eq_error_iff : u.follow way = .error fault ↔ Stumbles u way fault := by
  constructor
  · intro h
    rcases walk_cases u way with ⟨w, hleads⟩ | hloses | ⟨other, hstumbles⟩
    · rw [follow_eq_of_leads hleads] at h
      cases h
    · rw [follow_of_loses hloses] at h
      cases h
    · rw [follow_of_stumbles hstumbles] at h
      exact Except.error.inj h ▸ hstumbles
  · exact follow_of_stumbles

/-! ## Paths -/

/-- The value below objects of one member each, named by the segments. -/
def nested : List (List Char) → Value → Value
  | [], v => v
  | segment :: rest, v => .object [(String.ofList segment, nested rest v)]

theorem leads_nested (way : List (List Char)) (v : Value) :
    Leads (nested way v) way v := by
  induction way with
  | nil => exact .here v
  | cons segment rest ih =>
      have hstep : Steps (.object ([] ++ [(String.ofList segment, nested rest v)])) segment
          (nested rest v) := .member nofun
      exact .step hstep ih

/--
**Where a path leads, and where it fails.** The segments of a path are the text with the points
taken out. Where they name a part after a part, the path leads there; where a part is missing, it
leads to null. It fails exactly where a list comes before a segment that shows nothing but digits
and is no numeral, by a digit that is not decimal or by too many of them. So a path with such a
segment fails on some value, and the others fail on none.
-/
theorem resolve_slip (path : String) :
    (['.'].intercalate (segments path) = trimBlanks path.toList ∧
      ∀ segment ∈ segments path, '.' ∉ segment) ∧
    (∀ record v, resolve record path = .ok v ↔
      Leads record (segments path) v ∨ Loses record (segments path) ∧ v = .null) ∧
    (∀ record fault, resolve record path = .error fault ↔
      Stumbles record (segments path) fault) ∧
    ((∃ record fault, resolve record path = .error fault) ↔
      ∃ segment ∈ segments path, ∃ fault, Slips segment fault) := by
  refine ⟨⟨intercalate_splitAtChar '.' _, fun segment => not_mem_of_mem_splitAtChar⟩,
    fun record v => follow_eq_ok_iff, fun record fault => follow_eq_error_iff, ?_⟩
  constructor
  · rintro ⟨record, fault, hfails⟩
    obtain ⟨before, segment, after, items, hsegments, -, hslips⟩ := follow_eq_error_iff.1 hfails
    rw [hsegments]
    exact ⟨segment, List.mem_append_right _ List.mem_cons_self, fault, hslips⟩
  · rintro ⟨segment, hmem, fault, hslips⟩
    obtain ⟨before, after, hsegments⟩ := List.append_of_mem hmem
    exact ⟨nested before (.list []), fault, follow_eq_error_iff.2
      ⟨before, segment, after, [], hsegments, leads_nested before _, hslips⟩⟩

/-- An item is asked for by a superscript two, which is no position of any list. -/
theorem resolve_superscript :
    resolve (.object [("tags", .list [.text "a"])]) "tags.²" = .error .notANumeral := rfl

end Value

end InvoiceReadiness
