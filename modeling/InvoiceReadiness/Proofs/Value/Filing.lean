import InvoiceReadiness.Proofs.Value.Identity
import Mathlib.Data.Finset.Card

/-!
# Filing

Indices are built by one loop all over the library: items come one after the other,
and each alters what is filed under its identifier. `Index.file` is that loop, with
what it files left open, and the laws here say what the index holds at the end.

Filing by a loop that stops at the first identifier that is no key ends well if and
only if all of them are keys, and then it is the same filing
(`foldlM_alter_eq_ok_iff`).

## Main results

* `Index.get?_file` — what is filed under a key comes from the items of that key alone,
  in their order.
* `Index.headings_file_empty` — the identifiers are those of the items, each where it
  first came.
* `Index.getD_get?_grouped`, `Index.get?_lastOf`, `Index.getD_get?_tallied` — groups, the
  last item of each key, and how often each key came.
* `Index.measure_get?_file` — any measure of the entries to which each item adds one.
* `Index.flatten_grouped_perm` — the groups hold every item once.
* `Index.length_eraseDupsBy`, `Index.length_entries_file` — as many are left, or filed, as there
  are keys.
-/

namespace InvoiceReadiness

namespace Index

variable {α β : Type}

/-! ## Altering an index -/

/-- The key of an entry and the identifier that first gave it. -/
def headings (index : Index β) : List (Key × Value) :=
  index.entries.map fun entry => (entry.key, entry.shown)

theorem keys_eq_headings (index : Index β) : index.keys = index.headings.map Prod.fst := by
  simp [keys, headings, Function.comp_def]

theorem has_iff_mem_keys (index : Index β) (key : Key) :
    index.has key ↔ key ∈ index.keys := by
  simp [has, keys]

private theorem headings_alterEntries (key : Key) (shown : Value) (f : Option β → β)
    (entries : List (Entry β)) :
    (alterEntries key shown f entries).map (fun entry => (entry.key, entry.shown)) =
      if entries.any fun entry => entry.key == key then
        entries.map fun entry => (entry.key, entry.shown)
      else (entries.map fun entry => (entry.key, entry.shown)) ++ [(key, shown)] := by
  induction entries with
  | nil => rfl
  | cons entry rest ih =>
      by_cases hkey : entry.key = key
      · simp [alterEntries, hkey]
      · have hne : (entry.key == key) = false := by simpa using hkey
        rw [alterEntries, hne, if_neg Bool.false_ne_true, List.map_cons, ih, List.any_cons,
          hne, Bool.false_or]
        split <;> rfl

/-- Altering a new key adds its heading at the end; altering a known one adds none. -/
theorem headings_alter (index : Index β) (key : Key) (shown : Value)
    (f : Option β → β) :
    (index.alter key shown f).headings =
      if index.has key then index.headings else index.headings ++ [(key, shown)] :=
  headings_alterEntries key shown f index.entries

theorem has_alter (index : Index β) (key other : Key) (shown : Value)
    (f : Option β → β) :
    (index.alter key shown f).has other = (index.has other || key == other) := by
  have hmem (index : Index β) : index.has other ↔ other ∈ index.headings.map Prod.fst := by
    rw [has_iff_mem_keys, keys_eq_headings]
  rw [Bool.eq_iff_iff, Bool.or_eq_true, beq_iff_eq, hmem, hmem, headings_alter]
  by_cases hknown : index.has key
  · rw [if_pos hknown]
    constructor
    · exact .inl
    · rintro (hother | rfl)
      · exact hother
      · rwa [has_iff_mem_keys, keys_eq_headings] at hknown
  · rw [if_neg hknown]
    simp [eq_comm]

/-! ## Filing items -/

/-- Items filed one after the other, each under its identifier; `f` makes of an item
and of what is there what is there from then on. -/
def file (id : α → Value) (f : α → Option β → β) (index : Index β)
    (items : List α) : Index β :=
  items.foldl (fun index x => index.alter (id x).keyOf (id x) (f x)) index

variable (id : α → Value) (f : α → Option β → β) (index : Index β)

theorem file_append (first rest : List α) :
    file id f index (first ++ rest) = file id f (file id f index first) rest :=
  List.foldl_append

/-- A key is known if it was before, or if one of the items has it. -/
theorem has_file (items : List α) (key : Key) :
    (file id f index items).has key =
      (index.has key || items.any fun x => (id x).keyOf == key) := by
  induction items generalizing index with
  | nil => simp [file]
  | cons x rest ih =>
      rw [file, List.foldl_cons, ← file, ih, has_alter, List.any_cons, Bool.or_assoc]

/-- What is filed under a key comes from the items of that key alone. -/
theorem get?_file (items : List α) (key : Key) :
    (file id f index items).get? key =
      (items.filter fun x => (id x).keyOf == key).foldl (fun known x => some (f x known))
        (index.get? key) := by
  induction items generalizing index with
  | nil => rfl
  | cons x rest ih =>
      rw [file, List.foldl_cons, ← file, ih]
      by_cases hkey : (id x).keyOf = key
      · subst hkey
        simp
      · have hne : ((id x).keyOf == key) = false := by simpa using hkey
        rw [get?_alter_ne index (Ne.symm hkey), List.filter_cons_of_neg (by simp [hne])]

/-- The identifiers of new keys, each where it first came. -/
theorem headings_file (items : List α) :
    (file id f index items).headings =
      index.headings ++
        (((items.map id).filter fun v => !index.has v.keyOf).eraseDupsBy
          fun v w => v.keyOf == w.keyOf).map fun v => (v.keyOf, v) := by
  induction items generalizing index with
  | nil => simp [file]
  | cons x rest ih =>
      rw [file, List.foldl_cons, ← file, ih, headings_alter, List.map_cons]
      by_cases hknown : index.has (id x).keyOf
      · have hsame (v : Value) :
            (index.has v.keyOf || (id x).keyOf == v.keyOf) = index.has v.keyOf := by
          by_cases heq : (id x).keyOf = v.keyOf
          · simp [← heq, hknown]
          · simp [heq]
        simp only [has_alter, hsame, hknown, if_true, List.filter_cons_of_neg, Bool.not_true,
          Bool.false_eq_true, not_false_eq_true]
      · have hfirst : (!index.has (id x).keyOf) = true := by simpa using hknown
        have hnew (v : Value) :
            (!(index.has v.keyOf || (id x).keyOf == v.keyOf)) =
              ((v.keyOf == (id x).keyOf) = false && !index.has v.keyOf) := by
          by_cases heq : (id x).keyOf = v.keyOf
          · simp [heq]
          · simp [heq, Ne.symm heq]
        simp only [has_alter, hnew, if_neg hknown, List.append_assoc, List.singleton_append]
        rw [List.filter_cons_of_pos (p := fun v : Value => !index.has v.keyOf) hfirst,
          List.eraseDupsBy_cons, List.filter_filter, List.map_cons]

/-- The identifiers of an index that was empty before, each where it first came. -/
theorem headings_file_empty (items : List α) :
    (file id f empty items).headings =
      ((items.map id).eraseDupsBy fun v w => v.keyOf == w.keyOf).map fun v =>
        (v.keyOf, v) := by
  have hall : (items.map id).filter (fun v => !(empty : Index β).has v.keyOf) =
      items.map id := List.filter_eq_self.2 fun _ _ => rfl
  rw [headings_file, hall]
  rfl

theorem keys_file_empty (items : List α) :
    (file id f empty items).keys =
      ((items.map id).eraseDupsBy fun v w => v.keyOf == w.keyOf).map Value.keyOf := by
  rw [keys_eq_headings, headings_file_empty, List.map_map]
  rfl

theorem shown_file_empty (items : List α) :
    (file id f empty items).entries.map Entry.shown =
      (items.map id).eraseDupsBy fun v w => v.keyOf == w.keyOf := by
  have hshown : (file id f empty items).entries.map Entry.shown =
      (file id f empty items).headings.map Prod.snd := by
    rw [headings, List.map_map]
    rfl
  rw [hshown, headings_file_empty, List.map_map]
  exact List.map_id _

theorem mem_of_mem_eraseDupsBy {same : α → α → Bool} {x : α} {items : List α}
    (hx : x ∈ items.eraseDupsBy same) : x ∈ items := by
  match items with
  | [] => exact hx
  | first :: rest =>
      rw [List.eraseDupsBy_cons] at hx
      rcases List.mem_cons.1 hx with rfl | hrest
      · exact List.mem_cons_self
      · exact List.mem_cons_of_mem first (List.mem_filter.1 (mem_of_mem_eraseDupsBy hrest)).1
termination_by items.length
decreasing_by simpa using Nat.lt_succ_of_le (List.length_filter_le _ _)

/-- An entry stands under the key of its identifier, which is one of an item. -/
theorem of_mem_file {items : List α} {entry : Entry β}
    (hentry : entry ∈ (file id f empty items).entries) :
    entry.key = entry.shown.keyOf ∧ ∃ x ∈ items, id x = entry.shown := by
  have hheading : (entry.key, entry.shown) ∈ (file id f empty items).headings :=
    List.mem_map_of_mem hentry
  rw [headings_file_empty] at hheading
  obtain ⟨v, hv, heq⟩ := List.mem_map.1 hheading
  obtain ⟨hkey, rfl⟩ := Prod.mk.inj heq
  exact ⟨hkey.symm, List.mem_map.1 (mem_of_mem_eraseDupsBy hv)⟩

/-- Identifiers without repetitions are the same by key and by identity. -/
theorem eraseDupsBy_keyOf (ids : List Value) (hids : ∀ v ∈ ids, v.isIdentifier) :
    ids.eraseDupsBy (fun v w => v.keyOf == w.keyOf) =
      ids.eraseDupsBy Value.sameIdentity := by
  match ids with
  | [] => rfl
  | v :: rest =>
      obtain ⟨hv, hrest⟩ := List.forall_mem_cons.1 hids
      have hsame : ∀ w ∈ rest,
          decide ((w.keyOf == v.keyOf) = false) = decide (w.sameIdentity v = false) := by
        intro w hw
        have hiff := Value.keyOf_eq_iff (hrest w hw) hv
        rw [← beq_iff_eq, ← Bool.eq_iff_iff] at hiff
        rw [hiff]
      rw [List.eraseDupsBy_cons, List.eraseDupsBy_cons, List.filter_congr hsame,
        eraseDupsBy_keyOf _ fun w hw => hrest w (List.mem_filter.1 hw).1]
termination_by ids.length
decreasing_by simpa using Nat.lt_succ_of_le (List.length_filter_le _ _)

/-! ## Groups, last items and counts -/

/-- Items grouped under their identifiers, in their order. -/
def grouped (value : α → β) (items : List α) : Index (List β) :=
  file id (fun x group => group.getD [] ++ [value x]) empty items

/-- The last item of each identifier. -/
def lastOf (items : List α) : Index α :=
  file id (fun x _ => x) empty items

theorem getD_get?_grouped (value : α → β) (items : List α) (key : Key) :
    ((grouped id value items).get? key).getD [] =
      (items.filter fun x => (id x).keyOf == key).map value := by
  have happend (found : List α) (known : Option (List β)) :
      (found.foldl (fun known x => some (known.getD [] ++ [value x])) known).getD [] =
        known.getD [] ++ found.map value := by
    induction found generalizing known with
    | nil => simp
    | cons x rest ih => simp [ih]
  rw [grouped, get?_file, happend]
  rfl

theorem get?_lastOf (items : List α) (key : Key) :
    (lastOf id items).get? key =
      (items.filter fun x => (id x).keyOf == key).getLast? := by
  have hlast (found : List α) (known : Option α) :
      found.foldl (fun _ x => some x) known = found.getLast?.or known := by
    induction found generalizing known with
    | nil => rfl
    | cons x rest ih =>
      rw [List.foldl_cons, ih, List.getLast?_cons]
      cases rest.getLast? <;> rfl
  rw [lastOf, get?_file, hlast]
  exact Option.or_none

/-- If every item adds one to what is measured of its entry, the measure counts the items. -/
theorem measure_get?_file (measure : β → Nat)
    (hone : ∀ x known, measure (f x known) = (known.map measure).getD 0 + 1) (items : List α)
    (key : Key) : (((file id f empty items).get? key).map measure).getD 0 =
      items.countP fun x => (id x).keyOf == key := by
  have hcount (found : List α) (known : Option β) :
      ((found.foldl (fun known x => some (f x known)) known).map measure).getD 0 =
        (known.map measure).getD 0 + found.length := by
    induction found generalizing known with
    | nil => rfl
    | cons x rest ih =>
        rw [List.foldl_cons, ih, Option.map_some, Option.getD_some, hone, List.length_cons]
        omega
  rw [get?_file, hcount, List.countP_eq_length_filter]
  exact Nat.zero_add _

/-- How often each identifier comes. -/
def tallied (items : List α) : Index Nat :=
  file id (fun _ known => known.getD 0 + 1) empty items

theorem getD_get?_tallied (items : List α) (key : Key) :
    ((tallied id items).get? key).getD 0 = items.countP fun x => (id x).keyOf == key := by
  have hone (_ : α) (known : Option Nat) :
      known.getD 0 + 1 = (known.map fun count => count).getD 0 + 1 := by rw [Option.map_id']
  have hcount := measure_get?_file id _ (fun count => count) hone items key
  rwa [Option.map_id'] at hcount

private theorem flatten_alterEntries_perm (key : Key) (shown : Value) (item : β)
    (entries : List (Entry (List β))) :
    ((alterEntries key shown (fun group => group.getD [] ++ [item]) entries).map
      Entry.value).flatten.Perm ((entries.map Entry.value).flatten ++ [item]) := by
  induction entries with
  | nil => exact .refl _
  | cons entry rest ih =>
      by_cases hkey : entry.key == key
      · simp only [alterEntries, if_pos hkey, Option.getD_some, List.map_cons,
          List.flatten_cons, List.append_assoc]
        exact List.perm_append_comm.append_left entry.value
      · simp only [alterEntries, if_neg hkey, List.map_cons, List.flatten_cons,
          List.append_assoc]
        exact ih.append_left entry.value

/-- The groups hold every item once. -/
theorem flatten_grouped_perm (value : α → β) (items : List α) :
    ((grouped id value items).entries.map Entry.value).flatten.Perm (items.map value) := by
  have hfile (index : Index (List β)) :
      ((file id (fun x group => group.getD [] ++ [value x]) index items).entries.map
        Entry.value).flatten.Perm
          ((index.entries.map Entry.value).flatten ++ items.map value) := by
    induction items generalizing index with
    | nil => simp [file]
    | cons x rest ih =>
        rw [file, List.foldl_cons, ← file, List.map_cons, List.append_cons]
        exact (ih _).trans ((flatten_alterEntries_perm _ _ _ _).append_right _)
  exact hfile empty

/-! ## Distinct keys -/

theorem nodup_keys_file (items : List α) : (file id f empty items).keys.Nodup := by
  have hfile (index : Index β) (hnodup : index.keys.Nodup) :
      (file id f index items).keys.Nodup := by
    induction items generalizing index with
    | nil => exact hnodup
    | cons x rest ih =>
        rw [file, List.foldl_cons, ← file]
        refine ih _ ?_
        rw [keys_eq_headings, headings_alter]
        rw [keys_eq_headings] at hnodup
        by_cases hknown : index.has (id x).keyOf
        · rwa [if_pos hknown]
        · rw [if_neg hknown, List.map_append, List.nodup_append]
          rw [has_iff_mem_keys, keys_eq_headings] at hknown
          refine ⟨hnodup, by simp, ?_⟩
          rintro key hkey _ hnew rfl
          rw [List.map_singleton, List.mem_singleton] at hnew
          rw [hnew] at hkey
          exact hknown hkey
  exact hfile empty List.nodup_nil

private theorem find?_of_mem {entry : Entry β} {entries : List (Entry β)}
    (hnodup : (entries.map Entry.key).Nodup) (hmem : entry ∈ entries) :
    (entries.find? fun other => other.key == entry.key) = some entry := by
  induction entries with
  | nil => cases hmem
  | cons first rest ih =>
      rw [List.map_cons, List.nodup_cons] at hnodup
      rcases List.mem_cons.1 hmem with rfl | hrest
      · simp
      · have hne : first.key ≠ entry.key := by
          intro heq
          exact hnodup.1 (heq ▸ List.mem_map_of_mem hrest)
        rw [List.find?_cons_of_neg (by simpa using hne)]
        exact ih hnodup.2 hrest

/-- Under the key of an entry its value is found if all keys are distinct. -/
theorem get?_of_mem {entry : Entry β} (hnodup : index.keys.Nodup)
    (hmem : entry ∈ index.entries) : index.get? entry.key = some entry.value := by
  rw [get?, find?_of_mem hnodup hmem, Option.map_some]

/-- Items that are the same if their keys are: as many are left as there are keys. -/
theorem length_eraseDupsBy {κ : Type} [DecidableEq κ] {same : α → α → Bool} {key : α → κ}
    (items : List α) (hsame : ∀ x ∈ items, ∀ y ∈ items, same x y ↔ key x = key y) :
    (items.eraseDupsBy same).length = (items.map key).toFinset.card := by
  match items with
  | [] => rfl
  | first :: rest =>
      let others := rest.filter fun x => same x first = false
      have hothers (x : α) : x ∈ others ↔ x ∈ rest ∧ key x ≠ key first := by
        rw [List.mem_filter]
        refine and_congr_right fun hx => ?_
        rw [ne_eq, ← hsame x (List.mem_cons_of_mem first hx) first List.mem_cons_self]
        simp
      have hkeys : ((first :: rest).map key).toFinset =
          Insert.insert (key first) (others.map key).toFinset := by
        ext k
        simp only [List.mem_toFinset, List.mem_map, Finset.mem_insert, List.exists_mem_cons_iff,
          hothers]
        by_cases hk : key first = k
        · exact iff_of_true (.inl hk) (.inl hk.symm)
        · rw [or_iff_right hk, or_iff_right (Ne.symm hk)]
          refine exists_congr fun x => ?_
          rw [and_assoc]
          exact and_congr_right fun _ => (and_iff_right_of_imp fun heq => heq ▸ Ne.symm hk).symm
      have hnew : key first ∉ (others.map key).toFinset := by
        rw [List.mem_toFinset, List.mem_map]
        rintro ⟨x, hx, heq⟩
        exact ((hothers x).1 hx).2 heq
      have hrest := length_eraseDupsBy others fun x hx y hy =>
        hsame x (List.mem_cons_of_mem first ((hothers x).1 hx).1) y
          (List.mem_cons_of_mem first ((hothers y).1 hy).1)
      rw [List.eraseDupsBy_cons, List.length_cons, hrest, hkeys, Finset.card_insert_of_notMem hnew]
termination_by items.length
decreasing_by simpa using Nat.lt_succ_of_le (List.length_filter_le _ _)

/-- A filing has an entry for each different key. -/
theorem length_entries_file (items : List α) :
    (file id f empty items).entries.length =
      ((items.map id).map Value.keyOf).toFinset.card := by
  rw [← length_eraseDupsBy (items.map id) fun _ _ _ _ => beq_iff_eq, ← shown_file_empty id f,
    List.length_map]

/-- Values without repetitions have a key each. -/
theorem nodup_keyOf_eraseDupsBy (values : List Value) :
    ((values.eraseDupsBy fun v w => v.keyOf == w.keyOf).map Value.keyOf).Nodup := by
  have hkeys := nodup_keys_file (fun v : Value => v) (fun _ (_ : Option Unit) => ()) values
  rwa [keys_file_empty, List.map_id'] at hkeys

/-- Among values without repetitions a key comes once, if it comes at all. -/
theorem countP_eraseDupsBy (values : List Value) (key : Key) :
    (values.eraseDupsBy fun v w => v.keyOf == w.keyOf).countP (fun v => v.keyOf == key) =
      if values.any fun v => v.keyOf == key then 1 else 0 := by
  let index : Index Unit := file (fun v => v) (fun _ _ => ()) empty values
  have hkeys : index.keys =
      (values.eraseDupsBy fun v w => v.keyOf == w.keyOf).map Value.keyOf := by
    rw [keys_file_empty, List.map_id']
  have hhas : (key ∈ index.keys) ↔ values.any fun v => v.keyOf == key := by
    rw [← has_iff_mem_keys, has_file]
    rfl
  have hcount := (nodup_keyOf_eraseDupsBy values).count (a := key)
  rw [List.count_eq_countP, List.countP_map, ← hkeys] at hcount
  simp only [hhas] at hcount
  exact hcount

theorem any_eraseDupsBy (values : List Value) (key : Key) :
    (values.eraseDupsBy fun v w => v.keyOf == w.keyOf).any (fun v => v.keyOf == key) =
      values.any fun v => v.keyOf == key := by
  have hcount := countP_eraseDupsBy values key
  rw [Bool.eq_iff_iff, List.any_eq_true, ← List.countP_pos_iff, hcount]
  split <;> simp_all

/-- Dropping repetitions and selecting by key may be done in either order. -/
theorem filter_eraseDupsBy {p : Value → Bool}
    (hp : ∀ v w, v.keyOf = w.keyOf → p v = p w) (values : List Value) :
    (values.eraseDupsBy fun v w => v.keyOf == w.keyOf).filter p =
      (values.filter p).eraseDupsBy fun v w => v.keyOf == w.keyOf := by
  match values with
  | [] => rfl
  | v :: rest =>
      rw [List.eraseDupsBy_cons]
      by_cases hv : p v
      · rw [List.filter_cons_of_pos hv, List.filter_cons_of_pos hv, List.eraseDupsBy_cons,
          filter_eraseDupsBy hp, List.filter_filter, List.filter_filter]
        simp only [Bool.and_comm]
      · have hsame : ∀ w ∈ rest, (p w && decide ((w.keyOf == v.keyOf) = false)) = p w := by
          intro w _
          by_cases hkey : w.keyOf = v.keyOf
          · simp [hp w v hkey, hv]
          · simp [hkey]
        rw [List.filter_cons_of_neg hv, List.filter_cons_of_neg hv, filter_eraseDupsBy hp,
          List.filter_filter, List.filter_congr hsame]
termination_by values.length
decreasing_by all_goals simpa using Nat.lt_succ_of_le (List.length_filter_le _ _)

theorem eraseDupsBy_eraseDupsBy (values : List Value) :
    (values.eraseDupsBy fun v w => v.keyOf == w.keyOf).eraseDupsBy
        (fun v w => v.keyOf == w.keyOf) =
      values.eraseDupsBy fun v w => v.keyOf == w.keyOf := by
  match values with
  | [] => rfl
  | v :: rest =>
      have hother : ∀ w u : Value, w.keyOf = u.keyOf →
          decide ((w.keyOf == v.keyOf) = false) = decide ((u.keyOf == v.keyOf) = false) := by
        intro w u hkey
        rw [hkey]
      rw [List.eraseDupsBy_cons, List.eraseDupsBy_cons, filter_eraseDupsBy hother,
        List.filter_filter, eraseDupsBy_eraseDupsBy]
      simp only [Bool.and_self]
termination_by values.length
decreasing_by simpa using Nat.lt_succ_of_le (List.length_filter_le _ _)

/-- What comes later adds only what has not come before. -/
theorem eraseDupsBy_append (first rest : List Value) :
    (first ++ rest).eraseDupsBy (fun v w => v.keyOf == w.keyOf) =
      first.eraseDupsBy (fun v w => v.keyOf == w.keyOf) ++
        (rest.filter fun w => !first.any fun v => v.keyOf == w.keyOf).eraseDupsBy
          fun v w => v.keyOf == w.keyOf := by
  let index (values : List Value) : Index Unit := file (fun v => v) (fun _ _ => ()) empty values
  have hheadings (values : List Value) : (index values).headings.map Prod.snd =
      values.eraseDupsBy fun v w => v.keyOf == w.keyOf := by
    rw [headings_file_empty, List.map_map, List.map_id']
    exact List.map_id _
  have hhas (w : Value) : (index first).has w.keyOf = first.any fun v => v.keyOf == w.keyOf := by
    rw [has_file]
    rfl
  have hnew : rest.filter (fun w => !(index first).has w.keyOf) =
      rest.filter fun w => !first.any fun v => v.keyOf == w.keyOf :=
    List.filter_congr fun w _ => congrArg Bool.not (hhas w)
  have happend : (index (first ++ rest)).headings = (index first).headings ++
      ((rest.filter fun w => !(index first).has w.keyOf).eraseDupsBy
        fun v w => v.keyOf == w.keyOf).map fun v => (v.keyOf, v) := by
    rw [← List.map_id' rest, ← headings_file, List.map_id', ← file_append]
  rw [← hheadings, happend, List.map_append, hheadings, hnew, List.map_map]
  exact congrArg _ (List.map_id _)

/-- Repetitions may be dropped from the parts first. -/
theorem eraseDupsBy_append_eraseDupsBy (first rest : List Value) :
    (first.eraseDupsBy (fun v w => v.keyOf == w.keyOf) ++
        rest.eraseDupsBy (fun v w => v.keyOf == w.keyOf)).eraseDupsBy
          (fun v w => v.keyOf == w.keyOf) =
      (first ++ rest).eraseDupsBy fun v w => v.keyOf == w.keyOf := by
  have hnew : ∀ w u : Value, w.keyOf = u.keyOf →
      (!first.any fun v => v.keyOf == w.keyOf) = !first.any fun v => v.keyOf == u.keyOf := by
    intro w u hkey
    rw [hkey]
  rw [eraseDupsBy_append, eraseDupsBy_append first]
  simp only [any_eraseDupsBy]
  rw [filter_eraseDupsBy hnew, eraseDupsBy_eraseDupsBy, eraseDupsBy_eraseDupsBy]

/-- Of the values of one key the first is left. -/
theorem eraseDupsBy_filter_key {values : List Value} {v : Value}
    (h : v ∈ values.eraseDupsBy fun v w => v.keyOf == w.keyOf) :
    (values.filter fun w => w.keyOf == v.keyOf).eraseDupsBy (fun v w => v.keyOf == w.keyOf) =
      [v] := by
  have hsame (w u : Value) (hkey : w.keyOf = u.keyOf) :
      (w.keyOf == v.keyOf) = (u.keyOf == v.keyOf) := by rw [hkey]
  have hmem : v ∈ (values.filter fun w => w.keyOf == v.keyOf).eraseDupsBy
      fun v w => v.keyOf == w.keyOf := by
    rw [← filter_eraseDupsBy hsame]
    exact List.mem_filter.2 ⟨h, by simp⟩
  cases hown : values.filter fun w => w.keyOf == v.keyOf with
  | nil =>
      rw [hown] at hmem
      cases hmem
  | cons first rest =>
      have hkeys : ∀ w ∈ first :: rest, w.keyOf = v.keyOf := by
        intro w hw
        rw [← hown] at hw
        simpa using (List.mem_filter.1 hw).2
      obtain ⟨hfirst, hrest⟩ := List.forall_mem_cons.1 hkeys
      have hnone : rest.filter (fun w => (w.keyOf == first.keyOf) = false) = [] := by
        refine List.filter_eq_nil_iff.2 fun w hw => ?_
        simp [hrest w hw, hfirst]
      rw [hown, List.eraseDupsBy_cons, hnone] at hmem
      rw [List.eraseDupsBy_cons, hnone, List.mem_singleton.1 hmem]
      rfl

/-! ## Filing by a loop that may stop -/

/-- A loop that files under keys that it has to ask for ends well if all identifiers
are keys, and then it is the filing. -/
theorem foldlM_alter_eq_ok_iff (items : List α) (result : Index β) :
    items.foldlM (fun index x => do
        let key ← (id x).key
        return index.alter key (id x) (f x)) index = (.ok result : Result (Index β)) ↔
      (∀ x ∈ items, (id x).isIdentifier) ∧ result = file id f index items := by
  have hstep (index : Index β) (x : α) :
      (do let key ← (id x).key
          return index.alter key (id x) (f x) : Result (Index β)) =
        if (id x).isIdentifier then .ok (index.alter (id x).keyOf (id x) (f x))
        else .error .notAKey := by
    rw [Value.key_eq]
    split <;> rfl
  rw [Result.foldlM_guard hstep, Result.guard_eq_ok_iff]
  rfl

end Index

end InvoiceReadiness
