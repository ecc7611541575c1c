import InvoiceReadiness.Baseline.Run
import InvoiceReadiness.Custom.Run
import InvoiceReadiness.Proofs.Dataset.Joins
import InvoiceReadiness.Proofs.Text.Distinct
import Mathlib.Control.Monad.Basic

/-!
# Duplicates

A duplicate rule and the baseline check of invoice numbers make one text of several
cells, with bars between them, and report the records whose text comes more than once.
Both are one loop over keyed records (`reportGroups`), and what it reports is said by
the keys alone: key by key, in the order of the first of each, the records of a key that
comes at least twice (`reportGroups_eq`).

A cell may hold a bar itself, so the text of a key does not always say which parts it is
made of. It does if corresponding parts hold equally many bars (`parts_eq_iff`).

## Main results

* `reportGroups_eq` — what is reported, by the keys of the records.
* `duplicates_share_keys` — a record is reported with the others of its key.
-/

namespace InvoiceReadiness

/-! ## Joined parts -/

/-- The number of bars in a part of a key. -/
def bars (part : String) : Nat := part.toList.count '|'

/-- Where a text is cut at a bar, the bars before the cut say which bar it is. -/
theorem cut_at_bar {first first' rest rest' : List Char}
    (h : first ++ '|' :: rest = first' ++ '|' :: rest')
    (hbars : first.count '|' = first'.count '|') : first = first' ∧ rest = rest' := by
  induction first generalizing first' with
  | nil =>
      cases first' with
      | nil => exact ⟨rfl, (List.cons.inj h).2⟩
      | cons c more =>
          obtain ⟨rfl, -⟩ := List.cons.inj h
          simp at hbars
  | cons c more ih =>
      cases first' with
      | nil =>
          obtain ⟨rfl, -⟩ := List.cons.inj h
          simp at hbars
      | cons d more' =>
          obtain ⟨rfl, htail⟩ := List.cons.inj h
          have hmore : more.count '|' = more'.count '|' := by
            simp only [List.count_cons] at hbars
            omega
          obtain ⟨rfl, hrest⟩ := ih htail hmore
          exact ⟨rfl, hrest⟩

/-- A joined text comes from one list of parts, once the bars in all but the last part
are known. -/
theorem parts_eq_iff {parts parts' : List String} (hlength : parts.length = parts'.length)
    (hjoined : "|".intercalate parts = "|".intercalate parts') :
    parts = parts' ↔ parts.dropLast.map bars = parts'.dropLast.map bars := by
  refine ⟨fun h => by rw [h], fun hbars => ?_⟩
  induction parts generalizing parts' with
  | nil => exact (List.eq_nil_of_length_eq_zero hlength.symm).symm
  | cons part rest ih =>
      cases parts' with
      | nil => cases hlength
      | cons part' rest' =>
          have hlength := Nat.succ.inj hlength
          cases rest with
          | nil =>
              rw [List.eq_nil_of_length_eq_zero hlength.symm] at hjoined ⊢
              rw [String.intercalate_singleton, String.intercalate_singleton] at hjoined
              rw [hjoined]
          | cons next more =>
              cases rest' with
              | nil => cases hlength
              | cons next' more' =>
                  simp only [List.dropLast_cons_cons, List.map_cons, List.cons.injEq] at hbars
                  have hchars : part.toList ++ '|' :: ("|".intercalate (next :: more)).toList =
                      part'.toList ++ '|' :: ("|".intercalate (next' :: more')).toList := by
                    simpa using congrArg String.toList hjoined
                  obtain ⟨hpart, hrest⟩ := cut_at_bar hchars hbars.1
                  rw [String.toList_inj.1 hpart, ih hlength (String.toList_inj.1 hrest) hbars.2]

/-! ## Groups of records -/

section Groups

variable {α β : Type}

/-- Report, group by group, the items whose key comes more than once. -/
def reportGroups (key : α → Result String) (report : Nat → α → Result β) (items : List α) :
    Result (List β) := do
  let groups ← items.foldlM (fun index x => do
    let text ← key x
    return index.alter (.text text) (.text text) fun group => group.getD [] ++ [x]) Index.empty
  let found ← groups.entries.mapM fun entry => do
    let count := entry.value.length
    if count < 2 then return []
    entry.value.mapM (report count)
  return found.flatten

/-- The items of a key. -/
def ofKey (keyed : List (String × α)) (key : String) : List α :=
  (keyed.filter fun item => item.1 == key).map Prod.snd

/-- The members of a group of two or more, each with their number. -/
def members (group : List α) : List (Nat × α) :=
  if group.length < 2 then [] else group.map fun x => (group.length, x)

/-- The items whose key comes more than once, each with the number of items of its key:
key by key, in the order of the first of each. -/
def repeated (keyed : List (String × α)) : List (Nat × α) :=
  (keyed.map Prod.fst).eraseDups.flatMap fun key => members (ofKey keyed key)

theorem eraseDupsBy_text (texts : List String) :
    (texts.map Value.text).eraseDupsBy (fun v w => v.keyOf == w.keyOf) =
      texts.eraseDups.map Value.text := by
  match texts with
  | [] => rfl
  | text :: rest =>
      have hsame : ((fun v : Value => decide ((v.keyOf == (Value.text text).keyOf) = false)) ∘
          Value.text) = fun other => decide ((other == text) = false) := by
        funext other
        have hkey (s : String) : (Value.text s).keyOf = .text s := rfl
        simp [hkey]
      rw [List.map_cons, List.eraseDupsBy_cons, List.filter_map, hsame, eraseDupsBy_text,
        ← List.map_cons]
      rw [List.eraseDups, List.eraseDups, List.eraseDupsBy_cons]
termination_by texts.length
decreasing_by simpa using Nat.lt_succ_of_le (List.length_filter_le _ _)

/-- The groups of keyed items are the items of each key. -/
theorem values_grouped (keyed : List (String × α)) :
    (Index.grouped (fun item => .text item.1) Prod.snd keyed).entries.map Entry.value =
      (keyed.map Prod.fst).eraseDups.map (ofKey keyed) := by
  let id (item : String × α) : Value := .text item.1
  let index : Index (List α) := Index.grouped id Prod.snd keyed
  have hshown : index.entries.map Entry.shown =
      (keyed.map Prod.fst).eraseDups.map Value.text := by
    rw [← eraseDupsBy_text, List.map_map]
    exact Index.shown_file_empty id _ keyed
  have hvalue : ∀ entry ∈ index.entries,
      entry.value = (keyed.filter fun item =>
        (id item).keyOf == entry.shown.keyOf).map Prod.snd := by
    intro entry hentry
    obtain ⟨hkey, -⟩ := Index.of_mem_file id _ hentry
    have hfound := Index.get?_of_mem index (Index.nodup_keys_file id _ keyed) hentry
    rw [← hkey, ← Index.getD_get?_grouped, hfound, Option.getD_some]
  have hgroup (key : String) :
      (keyed.filter fun item => (id item).keyOf == (Value.text key).keyOf) =
        keyed.filter fun item => item.1 == key := by
    apply List.filter_congr
    intro item _
    have hkeyOf (s : String) : (Value.text s).keyOf = .text s := rfl
    rw [hkeyOf, hkeyOf, Bool.eq_iff_iff, beq_iff_eq, beq_iff_eq, Key.text.injEq]
  calc index.entries.map Entry.value
      = (index.entries.map Entry.shown).map fun shown =>
          (keyed.filter fun item => (id item).keyOf == shown.keyOf).map Prod.snd := by
        rw [List.map_map]
        exact List.map_congr_left hvalue
    _ = (keyed.map Prod.fst).eraseDups.map (ofKey keyed) := by
        rw [hshown, List.map_map]
        apply List.map_congr_left
        intro key _
        show (keyed.filter fun item => (id item).keyOf == (Value.text key).keyOf).map Prod.snd = _
        rw [hgroup, ofKey]

/-- What is reported of keyed items, and in which order. -/
theorem reportGroups_eq (key : α → Result String) (report : Nat → α → Result β)
    (items : List α) :
    reportGroups key report items = (do
      let keyed ← items.mapM fun x => do return (← key x, x)
      (repeated keyed).mapM fun item => report item.1 item.2) := by
  have hloop : (items.foldlM (fun index x => do
      let text ← key x
      return index.alter (.text text) (.text text) fun group => group.getD [] ++ [x])
        Index.empty : Result (Index (List α))) = do
      let keyed ← items.mapM fun x => do return (← key x, x)
      return Index.grouped (fun item => .text item.1) Prod.snd keyed := by
    have hstep (index : Index (List α)) (x : α) : (do
        let text ← key x
        return index.alter (.text text) (.text text) fun group => group.getD [] ++ [x] :
          Result (Index (List α))) = do
        let item ← (do return (← key x, x) : Result (String × α))
        return index.alter (.text item.1) (.text item.1) fun group =>
          group.getD [] ++ [item.2] := by
      rw [bind_assoc]
      rfl
    simp only [hstep]
    let file (index : Index (List α)) (item : String × α) : Index (List α) :=
      index.alter (.text item.1) (.text item.1) fun group => group.getD [] ++ [item.2]
    exact Result.foldlM_return file items Index.empty
  rw [reportGroups, hloop, bind_assoc]
  apply bind_congr
  intro keyed
  rw [pure_bind]
  have hgroups : repeated keyed =
      (Index.grouped (fun item => .text item.1) Prod.snd keyed).entries.flatMap fun entry =>
        members entry.value := by
    rw [repeated, ← List.flatMap_map (ofKey keyed) members, ← values_grouped,
      List.flatMap_map]
  rw [hgroups]
  apply Result.flatten_mapM
  intro entry _
  by_cases hsingle : entry.value.length < 2
  · rw [members, if_pos hsingle, if_pos hsingle]
    rfl
  · rw [members, if_neg hsingle, if_neg hsingle, List.mapM_map]
    rfl

/-- Keyed items are the items in their order, each with its key. -/
theorem of_mapM_keyed {key : α → Result String} {items : List α} {keyed : List (String × α)}
    (h : items.mapM (fun x => do return (← key x, x)) = .ok keyed) :
    keyed.map Prod.snd = items ∧ ∀ item ∈ keyed, key item.2 = .ok item.1 := by
  constructor
  · have hsnd := Result.map_eq_map_of_mapM_eq_ok (g := Prod.snd) (k := fun x => x) h ?_
    · rwa [List.map_id'] at hsnd
    · intro x _ item hitem
      obtain ⟨text, -, ⟨⟩⟩ := Result.bind_eq_ok.1 hitem
      rfl
  · refine Yields.mapM (P := fun item => key item.2 = .ok item.1) ?_ h
    intro x _ item hitem
    obtain ⟨text, hkey, ⟨⟩⟩ := Result.bind_eq_ok.1 hitem
    exact hkey

/-- Who is reported has a key, and comes with the number of items that have it. -/
theorem of_mem_repeated {keyed : List (String × α)} {count : Nat} {x : α}
    (h : (count, x) ∈ repeated keyed) :
    ∃ key, (key, x) ∈ keyed ∧ count = (ofKey keyed key).length ∧ 2 ≤ count := by
  obtain ⟨key, -, h⟩ := List.mem_flatMap.1 h
  by_cases hsingle : (ofKey keyed key).length < 2
  · rw [members, if_pos hsingle] at h
    cases h
  · rw [members, if_neg hsingle] at h
    obtain ⟨member, hmember, heq⟩ := List.mem_map.1 h
    obtain ⟨rfl, rfl⟩ := Prod.mk.inj heq
    obtain ⟨item, hitem, rfl⟩ := List.mem_map.1 hmember
    obtain ⟨hitem, hkey⟩ := List.mem_filter.1 hitem
    refine ⟨key, ?_, rfl, Nat.le_of_not_lt hsingle⟩
    rwa [← beq_iff_eq.1 hkey]

/-- An item of a key, and the others of that key. -/
theorem length_ofKey_split {keyed before after : List (String × α)} {key : String} {x : α}
    (hsplit : keyed = before ++ (key, x) :: after) :
    (ofKey keyed key).length = (ofKey (before ++ after) key).length + 1 := by
  rw [hsplit]
  simp only [ofKey, List.length_map, List.filter_append, List.filter_cons, beq_self_eq_true,
    if_true, List.length_append, List.length_cons]
  omega

/-- Who shares a key is reported. -/
theorem mem_repeated {keyed before after : List (String × α)} {key : String} {x other : α}
    (hsplit : keyed = before ++ (key, x) :: after) (hother : (key, other) ∈ before ++ after) :
    ((ofKey keyed key).length, x) ∈ repeated keyed := by
  have hx : (key, x) ∈ keyed := by
    rw [hsplit]
    exact List.mem_append_right before List.mem_cons_self
  have hitems {item : α} {items : List (String × α)} (hitem : (key, item) ∈ items) :
      item ∈ ofKey items key :=
    List.mem_map.2 ⟨(key, item), List.mem_filter.2 ⟨hitem, beq_self_eq_true key⟩, rfl⟩
  have htwo : ¬ (ofKey keyed key).length < 2 := by
    have hpos : 0 < (ofKey (before ++ after) key).length :=
      List.length_pos_of_mem (hitems hother)
    have hlength := length_ofKey_split hsplit
    omega
  refine List.mem_flatMap.2 ⟨key, ?_, ?_⟩
  · exact List.mem_eraseDups.2 (List.mem_map_of_mem hx)
  · rw [members, if_neg htwo]
    exact List.mem_map_of_mem (hitems hx)

/-- What is reported of groups is like what is reported of each member. -/
theorem yields_reportGroups {P : β → Prop} {key : α → Result String}
    {report : Nat → α → Result β} {items : List α}
    (hreport : ∀ x ∈ items, ∀ count, Yields P (report count x)) :
    Yields (fun found => ∀ b ∈ found, P b) (reportGroups key report items) := by
  rw [reportGroups_eq, Yields.bind_iff]
  intro keyed hkeyed
  refine Yields.mapM fun item hitem => ?_
  obtain ⟨text, htext, -⟩ := of_mem_repeated hitem
  refine hreport item.2 ?_ item.1
  rw [← (of_mapM_keyed hkeyed).1]
  exact List.mem_map_of_mem htext

/-- The text of a key that is made of several parts. -/
def joinedKey (parts : α → Result (List String)) (x : α) : Result String := do
  return "|".intercalate (← parts x)

/-- Two items have one joined key. Their parts are the same, too, if and only if they
hold equally many bars, whatever is in the last ones. -/
def SharesKey (parts : α → Result (List String)) (x y : α) : Prop :=
  ∃ ps qs, parts x = .ok ps ∧ parts y = .ok qs ∧ "|".intercalate ps = "|".intercalate qs ∧
    (ps = qs ↔ ps.dropLast.map bars = qs.dropLast.map bars)

/-- A report about one of some items that counts it and the others of its key, of which
there is at least one. -/
def ReportsShared (parts : α → Result (List String)) (report : Nat → α → Result β)
    (items : List α) (y : β) : Prop :=
  ∃ before x after others, items = before ++ x :: after ∧
    others.Sublist (before ++ after) ∧ others ≠ [] ∧
    (∀ other ∈ before ++ after, other ∈ others ↔ SharesKey parts x other) ∧
    report (others.length + 1) x = .ok y

variable {parts : α → Result (List String)} {n : Nat}

theorem sharesKey_iff (hlength : ∀ x ps, parts x = .ok ps → ps.length = n) {x y : α}
    {key : String} (hx : joinedKey parts x = .ok key) :
    SharesKey parts x y ↔ joinedKey parts y = .ok key := by
  obtain ⟨ps, hps, hkey⟩ := Result.bind_eq_ok.1 hx
  obtain rfl : "|".intercalate ps = key := Except.ok.inj hkey
  constructor
  · rintro ⟨ps', qs, hps', hqs, hjoined, -⟩
    obtain rfl : ps = ps' := Except.ok.inj (hps.symm.trans hps')
    rw [joinedKey, hqs, hjoined]
    rfl
  · intro hy
    obtain ⟨qs, hqs, hkey⟩ := Result.bind_eq_ok.1 hy
    have hjoined : "|".intercalate ps = "|".intercalate qs := (Except.ok.inj hkey).symm
    have hsame : ps.length = qs.length := (hlength x ps hps).trans (hlength y qs hqs).symm
    exact ⟨ps, qs, hps, hqs, hjoined, parts_eq_iff hsame hjoined⟩

/-- Whatever is reported group by group is about an item with others of its key. -/
theorem reportsShared_of_mem (hlength : ∀ x ps, parts x = .ok ps → ps.length = n)
    {report : Nat → α → Result β} {items : List α} {found : List β}
    (h : reportGroups (joinedKey parts) report items = .ok found) {y : β} (hy : y ∈ found) :
    ReportsShared parts report items y := by
  rw [reportGroups_eq] at h
  obtain ⟨keyed, hkeyed, h⟩ := Result.bind_eq_ok.1 h
  obtain ⟨hitems, hkeys⟩ := of_mapM_keyed hkeyed
  have hreport : ∀ y ∈ found, ∃ item ∈ repeated keyed, report item.1 item.2 = .ok y :=
    Yields.mapM (fun item hitem _ hreport => ⟨item, hitem, hreport⟩) h
  obtain ⟨⟨count, x⟩, hmember, hreport⟩ := hreport y hy
  obtain ⟨key, hx, hcount, htwo⟩ := of_mem_repeated hmember
  obtain ⟨before, after, hsplit⟩ := List.append_of_mem hx
  have hothers : (ofKey (before ++ after) key).length + 1 = count := by
    rw [hcount, length_ofKey_split hsplit]
  have hkeyx : joinedKey parts x = .ok key := hkeys _ hx
  have hrest : ∀ item ∈ before ++ after, joinedKey parts item.2 = .ok item.1 := by
    intro item hitem
    apply hkeys
    rw [hsplit]
    exact (List.perm_middle.mem_iff).2 (List.mem_cons_of_mem _ hitem)
  refine ⟨before.map Prod.snd, x, after.map Prod.snd, ofKey (before ++ after) key, ?_, ?_, ?_,
    ?_, ?_⟩
  · rw [← hitems, hsplit, List.map_append, List.map_cons]
  · rw [← List.map_append]
    exact List.filter_sublist.map Prod.snd
  · intro hnone
    rw [hnone] at hothers
    rw [← hothers] at htwo
    contradiction
  · intro other hother
    rw [← List.map_append] at hother
    obtain ⟨item, hitem, rfl⟩ := List.mem_map.1 hother
    rw [sharesKey_iff hlength hkeyx]
    constructor
    · intro hmem
      obtain ⟨same, hsame, heq⟩ := List.mem_map.1 hmem
      obtain ⟨hsame, hkey⟩ := List.mem_filter.1 hsame
      rw [← heq, hrest same hsame, beq_iff_eq.1 hkey]
    · intro hkey
      have hfirst : item.1 = key := Except.ok.inj ((hrest item hitem).symm.trans hkey)
      exact List.mem_map_of_mem (List.mem_filter.2 ⟨hitem, beq_iff_eq.2 hfirst⟩)
  · rw [hothers]
    exact hreport

/-- Whoever has others of one key is reported. -/
theorem exists_report_of_sharesKey (hlength : ∀ x ps, parts x = .ok ps → ps.length = n)
    {report : Nat → α → Result β} {before after : List α} {x other : α} {found : List β}
    (h : reportGroups (joinedKey parts) report (before ++ x :: after) = .ok found)
    (hother : other ∈ before ++ after) (hshares : SharesKey parts x other) :
    ∃ count, ∃ y ∈ found, report count x = .ok y := by
  rw [reportGroups_eq] at h
  obtain ⟨keyed, hkeyed, hfound⟩ := Result.bind_eq_ok.1 h
  obtain ⟨hitems, hkeys⟩ := of_mapM_keyed hkeyed
  obtain ⟨first, rest, rfl, rfl, hrest⟩ := List.map_eq_append_iff.1 hitems
  obtain ⟨⟨key, y⟩, last, rfl, rfl, rfl⟩ := List.map_eq_cons_iff.1 hrest
  have hkeyx : joinedKey parts y = .ok key :=
    hkeys _ (List.mem_append_right first List.mem_cons_self)
  rw [← List.map_append] at hother
  obtain ⟨⟨otherKey, item⟩, hitem, rfl⟩ := List.mem_map.1 hother
  have hkeyItem : joinedKey parts item = .ok otherKey := by
    refine hkeys (otherKey, item) ?_
    rcases List.mem_append.1 hitem with hfirst | hlast
    · exact List.mem_append_left _ hfirst
    · exact List.mem_append_right _ (List.mem_cons_of_mem _ hlast)
  obtain rfl : otherKey = key :=
    Except.ok.inj (hkeyItem.symm.trans ((sharesKey_iff hlength hkeyx).1 hshares))
  obtain ⟨found, hmem, hreport⟩ := Result.exists_result_of_mem hfound (mem_repeated rfl hitem)
  exact ⟨_, found, hmem, hreport⟩

end Groups

/-! ## The two checks -/

namespace Custom.Check

/-- The parts of a composite key. -/
def keyParts (fields : List Value) (r : Record) : Result (List String) :=
  fields.mapM fun field => do keyPart (← r.resolveAt field)

/-- What a duplicate rule reports of a record whose key comes so often. -/
def reportDuplicate (check : Check) (data : Dataset) (fields : List Value) (count : Nat)
    (r : Record) : Result Finding := do
  let names ← fields.mapM Value.asText
  check.report data r [("count", .ofNat count)] (.text (", ".intercalate names)) .null
    (.text s!"{count} duplicates")

theorem length_keyParts (fields : List Value) (r : Record) (parts : List String)
    (h : keyParts fields r = .ok parts) : parts.length = fields.length := by
  have hlength := congrArg List.length (Result.mapM_eq_ok_iff.1 h)
  rw [List.length_map, List.length_map] at hlength
  exact hlength.symm

theorem runDuplicate_eq_reportGroups (check : Check) (data : Dataset) (fields : List Value)
    (records : List Record) :
    check.runDuplicate data fields records =
      reportGroups (joinedKey (keyParts fields)) (check.reportDuplicate data fields) records :=
  rfl

end Custom.Check

namespace Baseline

/-- The parts of the key of an invoice. -/
def keyParts (header : Record) : Result (List String) := do
  let seller ← (header.get "seller_trn").shown
  let number ← (header.get "invoice_number").shown
  return [seller, number]

/-- What is reported of a header whose invoice comes so often. -/
def reportDuplicate (count : Nat) (header : Record) : Result Finding := do
  let number ← (header.get "invoice_number").shown
  let seller ← (header.get "seller_trn").shown
  return Check.duplicateNumber.report
    s!"Duplicate invoice number \"{number}\" for seller {seller}"
    { Coordinates.ofHeader header with buyerId := .null } (.text "invoice_number") .null
    (.text s!"{count} occurrences")

theorem length_keyParts (header : Record) (parts : List String)
    (h : keyParts header = .ok parts) : parts.length = 2 := by
  obtain ⟨seller, -, h⟩ := Result.bind_eq_ok.1 h
  obtain ⟨number, -, ⟨⟩⟩ := Result.bind_eq_ok.1 h
  rfl

theorem invoiceKey_eq_joinedKey (header : Record) :
    invoiceKey header = joinedKey keyParts header := by
  have hjoined (seller number : String) :
      "|".intercalate [seller, number] = s!"{seller}|{number}" := by
    rw [String.intercalate_cons_cons, String.intercalate_singleton]
    rfl
  simp only [invoiceKey, joinedKey, keyParts, bind_assoc, pure_bind, hjoined]

theorem duplicateNumber_eq_reportGroups (data : Dataset) :
    duplicateNumber data = reportGroups (joinedKey keyParts) reportDuplicate data.headers := by
  have hkey : invoiceKey = joinedKey keyParts := funext invoiceKey_eq_joinedKey
  rw [← hkey]
  rfl

end Baseline

/-- A header with a seller and a number. -/
def headerOfSeller (id seller number : String) : Record :=
  ⟨[("invoice_id", .text id), ("seller_trn", .text seller), ("invoice_number", .text number)]⟩

/-- A duplicate rule that looks at the sellers and numbers of headers. -/
def sellerRule : Custom.Check where
  id := .text "dup"
  name := .text "Duplicates"
  description := .null
  scope := .header
  rule := .duplicate [.text "seller_trn", .text "invoice_number"]
  severity := .text "High"
  template := .text "twice"
  condition := .null
  isActive := true

end InvoiceReadiness
