import InvoiceReadiness.Dataset
import InvoiceReadiness.Proofs.Value.Filing

/-!
# Joins

Checks across files find the buyer of a header, the header of a line and the lines of
a header through the three indices of a dataset. What they find is what a search
through the lists would have found: identifiers are compared by
`Value.sameIdentity`, of several buyers or headers the last one counts, and lines
keep their order.

## Main results

* `Dataset.indexBy_eq_ok_iff`, `Dataset.groupBy_eq_ok_iff` — an index is built if
  all identifiers can be keys.
* `Dataset.linesFor_of_ofRecords`, `Dataset.headerFor_of_ofRecords` — the lines of an
  invoice, and the header of a record.
* `Dataset.ofRecords_joins` — what the indices of a dataset hold.
-/

namespace InvoiceReadiness

/-! ## Naming an invoice -/

/-- An identifier is given if it is neither null nor the empty text. -/
def Value.isGiven : Value → Bool
  | null => false
  | text s => s != ""
  | _ => true

/-- A record names an invoice if its identifier of one is given. -/
def Record.namesInvoice (r : Record) : Bool := (r.get "invoice_id").isGiven

/-- Two records have one identifier of an invoice. -/
def Record.sameInvoice (r s : Record) : Bool :=
  (r.get "invoice_id").sameIdentity (s.get "invoice_id")

/-- An identifier that is not given is itself an identity. -/
theorem Value.isGiven_eq_of_sameIdentity {v w : Value} (h : v.sameIdentity w) :
    v.isGiven = w.isGiven := by
  cases v <;> cases w <;> simp_all [sameIdentity, same, isGiven, isNan, number?]

theorem Record.namesInvoice_eq_of_sameInvoice {r s : Record} (h : r.sameInvoice s) :
    r.namesInvoice = s.namesInvoice :=
  Value.isGiven_eq_of_sameIdentity h

section

variable {r s t : Record} (hr : (r.get "invoice_id").isIdentifier)
  (hs : (s.get "invoice_id").isIdentifier) (ht : (t.get "invoice_id").isIdentifier)

include hr hs

theorem Record.sameInvoice_iff_keyOf :
    r.sameInvoice s ↔ (r.get "invoice_id").keyOf = (s.get "invoice_id").keyOf :=
  (Value.keyOf_eq_iff hr hs).symm

theorem Record.sameInvoice_comm : r.sameInvoice s ↔ s.sameInvoice r := by
  rw [sameInvoice_iff_keyOf hr hs, sameInvoice_iff_keyOf hs hr, eq_comm]

include ht

/-- Of two records with one identifier, either stands for both. -/
theorem Record.sameInvoice_congr (h : r.sameInvoice s) :
    r.sameInvoice t ↔ s.sameInvoice t := by
  rw [sameInvoice_iff_keyOf hr ht, sameInvoice_iff_keyOf hs ht,
    (sameInvoice_iff_keyOf hr hs).1 h]

end

namespace Dataset

/-! ## The identifiers of records -/

/-- The records that a cell identifies as `id`, in their order. -/
def withId (cell : String) (id : Value) (records : List Record) : List Record :=
  records.filter fun r => (r.get cell).sameIdentity id

/-- A cell that can identify each of the records. -/
def Identifies (cell : String) (records : List Record) : Prop :=
  ∀ r ∈ records, (r.get cell).isIdentifier

/-- The identifiers of records, each where it first comes. -/
def distinctIds (cell : String) (records : List Record) : List Value :=
  (records.map fun r => r.get cell).eraseDupsBy Value.sameIdentity

variable {cell : String} {records : List Record}

/-- The records of a key are those that an identifier of that key identifies. -/
theorem filter_keyOf_eq_withId (hids : Identifies cell records) {id : Value} {key : Key}
    (hkey : id.key = .ok key) :
    (records.filter fun r => (r.get cell).keyOf == key) = withId cell id records := by
  refine List.filter_congr fun r hr => ?_
  have hiff := Value.keyOf_eq_iff (hids r hr) (Value.isIdentifier_of_key_eq_ok hkey)
  rw [Value.keyOf_eq_of_key_eq_ok hkey, ← beq_iff_eq, ← Bool.eq_iff_iff] at hiff
  exact hiff

/-- The last record with an identifier is the one after which no other has it. -/
theorem getLast?_withId_eq_some_iff {id : Value} {r : Record} :
    (withId cell id records).getLast? = some r ↔
      (r.get cell).sameIdentity id ∧ ∃ before after, records = before ++ r :: after ∧
        ∀ later ∈ after, (later.get cell).sameIdentity id = false := by
  rw [List.getLast?_eq_head?_reverse, withId, ← List.filter_reverse, List.head?_filter,
    List.find?_eq_some_iff_append]
  refine and_congr_right fun _ => ⟨?_, ?_⟩
  · rintro ⟨after, before, hsplit, hafter⟩
    refine ⟨before.reverse, after.reverse, ?_, by simpa using hafter⟩
    simpa using congrArg List.reverse hsplit
  · rintro ⟨before, after, rfl, hafter⟩
    exact ⟨after.reverse, before.reverse, by simp, by simpa using hafter⟩

/-- The last record with an identifier has that identifier itself. -/
theorem of_getLast?_withId {id : Value} {r : Record}
    (h : (withId cell id records).getLast? = some r) :
    r ∈ records ∧ (r.get cell).sameIdentity id :=
  List.mem_filter.1 (List.mem_of_getLast? h)

theorem exists_getLast?_withId {id : Value} {r : Record} (hr : r ∈ records)
    (hid : (r.get cell).sameIdentity id) :
    ∃ last, (withId cell id records).getLast? = some last := by
  have hmem : r ∈ withId cell id records := List.mem_filter.2 ⟨hr, hid⟩
  exact ⟨_, List.getLast?_eq_some_getLast (List.ne_nil_of_mem hmem)⟩

/-! ## Building the indices -/

theorem indexBy_eq_ok_iff (index : Index Record) :
    indexBy cell records = .ok index ↔
      Identifies cell records ∧ index = Index.lastOf (fun r => r.get cell) records :=
  Index.foldlM_alter_eq_ok_iff _ _ _ _ _

theorem groupBy_eq_ok_iff (index : Index (List Record)) :
    groupBy cell records = .ok index ↔
      Identifies cell records ∧ index = Index.grouped (fun r => r.get cell) (fun r => r) records :=
  Index.foldlM_alter_eq_ok_iff _ _ _ _ _

/-! ## What the indices hold -/

/-- The identifiers that an index has to have, each with its key. -/
def headingsOf (cell : String) (records : List Record) : List (Key × Value) :=
  (distinctIds cell records).map fun id => (id.keyOf, id)

/-- An index that holds under each identifier the last of its records. -/
structure HoldsLast (cell : String) (records : List Record) (index : Index Record) :
    Prop where
  headings : index.headings = headingsOf cell records
  get? : ∀ id key, id.key = .ok key →
    index.get? key = (withId cell id records).getLast?

/-- An index that holds under each identifier all of its records in their order, and
every record in one group only. -/
structure HoldsGroups (cell : String) (records : List Record)
    (index : Index (List Record)) : Prop where
  headings : index.headings = headingsOf cell records
  get? : ∀ id key, id.key = .ok key →
    (index.get? key).getD [] = withId cell id records
  values : index.entries.map Entry.value =
    (distinctIds cell records).map fun id => withId cell id records
  partition : (index.entries.map Entry.value).flatten.Perm records

theorem headings_file_eq_headingsOf {α : Type} (hids : Identifies cell records)
    (f : Record → Option α → α) :
    (Index.file (fun r => r.get cell) f Index.empty records).headings =
      headingsOf cell records := by
  have hmem : ∀ v ∈ records.map fun r => r.get cell, v.isIdentifier := by
    intro v hv
    obtain ⟨r, hr, rfl⟩ := List.mem_map.1 hv
    exact hids r hr
  rw [Index.headings_file_empty, Index.eraseDupsBy_keyOf _ hmem]
  rfl

theorem holdsLast_lastOf (hids : Identifies cell records) :
    HoldsLast cell records (Index.lastOf (fun r => r.get cell) records) where
  headings := headings_file_eq_headingsOf hids _
  get? id key hkey := by
    rw [Index.get?_lastOf, filter_keyOf_eq_withId hids hkey]

theorem holdsGroups_grouped (hids : Identifies cell records) :
    HoldsGroups cell records
      (Index.grouped (fun r => r.get cell) (fun r => r) records) := by
  let index := Index.grouped (fun r : Record => r.get cell) (fun r => r) records
  have hheadings : index.headings = headingsOf cell records :=
    headings_file_eq_headingsOf hids _
  have hget (id : Value) (key : Key) (hkey : id.key = .ok key) :
      (index.get? key).getD [] = withId cell id records := by
    rw [Index.getD_get?_grouped, filter_keyOf_eq_withId hids hkey, List.map_id']
  have hvalue : ∀ entry ∈ index.entries, entry.value = withId cell entry.shown records := by
    intro entry hentry
    obtain ⟨hkey, r, hr, hid⟩ := Index.of_mem_file _ _ hentry
    have hfound := Index.get?_of_mem index (Index.nodup_keys_file _ _ _) hentry
    have hshown : entry.shown.key = .ok entry.key := by
      rw [hkey, ← hid]
      exact Value.key_eq_ok_keyOf (hids r hr)
    rw [← hget _ _ hshown, hfound, Option.getD_some]
  refine ⟨hheadings, hget, ?_, ?_⟩
  · have hshown : index.entries.map Entry.shown = distinctIds cell records := by
      have hsnd := congrArg (List.map Prod.snd) hheadings
      rw [Index.headings, headingsOf, List.map_map, List.map_map] at hsnd
      exact hsnd.trans (List.map_id _)
    rw [← hshown, List.map_map]
    exact List.map_congr_left hvalue
  · have hperm := Index.flatten_grouped_perm (fun r : Record => r.get cell) (fun r => r) records
    rwa [List.map_id'] at hperm

theorem records_of_ofRecords {buyers headers lines : List Record} {data : Dataset}
    (h : ofRecords buyers headers lines = .ok data) :
    data.buyers = buyers ∧ data.headers = headers ∧ data.lines = lines := by
  obtain ⟨buyerIndex, -, h⟩ := Result.bind_eq_ok.1 h
  obtain ⟨headerIndex, -, h⟩ := Result.bind_eq_ok.1 h
  obtain ⟨lineGroups, -, ⟨⟩⟩ := Result.bind_eq_ok.1 h
  exact ⟨rfl, rfl, rfl⟩

/-- The identifiers that a dataset is indexed by can be keys. -/
theorem identifies_of_ofRecords {buyers headers lines : List Record} {data : Dataset}
    (h : ofRecords buyers headers lines = .ok data) :
    Identifies "buyer_id" buyers ∧ Identifies "invoice_id" headers ∧
      Identifies "invoice_id" lines := by
  obtain ⟨buyerIndex, hbuyers, h⟩ := Result.bind_eq_ok.1 h
  obtain ⟨headerIndex, hheaders, h⟩ := Result.bind_eq_ok.1 h
  obtain ⟨lineGroups, hlines, -⟩ := Result.bind_eq_ok.1 h
  exact ⟨((indexBy_eq_ok_iff buyerIndex).1 hbuyers).1,
    ((indexBy_eq_ok_iff headerIndex).1 hheaders).1,
    ((groupBy_eq_ok_iff lineGroups).1 hlines).1⟩

/-- The headers of a dataset are those that it was made of, and their identifiers
can be keys. -/
theorem headers_of_ofRecords {buyers headers lines : List Record} {data : Dataset}
    (h : ofRecords buyers headers lines = .ok data) :
    data.headers = headers ∧ Identifies "invoice_id" headers :=
  ⟨(records_of_ofRecords h).2.1, (identifies_of_ofRecords h).2.1⟩

/-! ## Looking records up -/

/-- The lines of an invoice are all lines with its identifier, in their order. -/
theorem linesFor_of_ofRecords {buyers headers lines : List Record} {data : Dataset}
    (h : ofRecords buyers headers lines = .ok data) {id : Value} (hid : id.isIdentifier) :
    data.linesFor id = .ok (withId "invoice_id" id lines) := by
  obtain ⟨buyerIndex, -, h⟩ := Result.bind_eq_ok.1 h
  obtain ⟨headerIndex, -, h⟩ := Result.bind_eq_ok.1 h
  obtain ⟨lineGroups, hgroups, ⟨⟩⟩ := Result.bind_eq_ok.1 h
  obtain ⟨hids, rfl⟩ := (groupBy_eq_ok_iff lineGroups).1 hgroups
  have hkey := Value.key_eq_ok_keyOf hid
  rw [linesFor, hkey, Result.ok_bind]
  exact congrArg Except.ok ((holdsGroups_grouped hids).get? _ _ hkey)

/-- The header of a record is looked up only if the record names an invoice. -/
theorem headerFor_eq (data : Dataset) {r : Record} (hid : (r.get "invoice_id").isIdentifier) :
    data.headerFor r = .ok (if r.namesInvoice then
      data.headerIndex.get? (r.get "invoice_id").keyOf else none) := by
  unfold headerFor Record.namesInvoice
  cases hv : r.get "invoice_id" with
  | text s =>
      by_cases hs : s = ""
      · subst hs
        rfl
      · have hgiven : (Value.text s).isGiven := bne_iff_ne.2 hs
        rw [if_pos hgiven]
        split
        · contradiction
        · next heq => exact absurd (Value.text.inj heq) hs
        · rfl
  | list items => rw [hv] at hid; contradiction
  | object members => rw [hv] at hid; contradiction
  | _ => rfl

/-- The header of a record that names an invoice is the last one with its identifier;
a record that names none has no header. -/
theorem headerFor_of_ofRecords {buyers headers lines : List Record} {data : Dataset}
    (h : ofRecords buyers headers lines = .ok data) {r : Record}
    (hid : (r.get "invoice_id").isIdentifier) :
    data.headerFor r = .ok (if r.namesInvoice then
      (withId "invoice_id" (r.get "invoice_id") headers).getLast? else none) := by
  obtain ⟨buyerIndex, -, h⟩ := Result.bind_eq_ok.1 h
  obtain ⟨headerIndex, hindex, h⟩ := Result.bind_eq_ok.1 h
  obtain ⟨lineGroups, -, ⟨⟩⟩ := Result.bind_eq_ok.1 h
  obtain ⟨hids, rfl⟩ := (indexBy_eq_ok_iff headerIndex).1 hindex
  rw [headerFor_eq _ hid, (holdsLast_lastOf hids).get? _ _ (Value.key_eq_ok_keyOf hid)]

/-! ## Coordinates -/

/-- The header of a record whose identifier can be a key can be looked for. -/
theorem exists_headerFor (data : Dataset) {r : Record}
    (hid : (r.get "invoice_id").isIdentifier) : ∃ header, data.headerFor r = .ok header :=
  ⟨_, data.headerFor_eq hid⟩

/-- The coordinates of a record have its own identifier of an invoice. -/
theorem exists_coordinates (data : Dataset) {r : Record}
    (hid : (r.get "invoice_id").isIdentifier) :
    ∃ place, data.coordinates r = .ok place ∧ place.invoiceId = r.get "invoice_id" := by
  obtain ⟨header, hheader⟩ := data.exists_headerFor hid
  rw [coordinates, hheader]
  exact ⟨_, rfl, rfl⟩

/-! ## What the indices of a dataset hold -/

/-- Records whose identifiers can be keys are a dataset, and its indices find what a
search through the records would find: the lines of an invoice are all lines with its
identifier, the header of an invoice and the buyer of an identifier the last of
theirs. No line is lost, and none is in two groups. -/
theorem ofRecords_joins (buyers headers lines : List Record)
    (hbuyers : Identifies "buyer_id" buyers) (hheaders : Identifies "invoice_id" headers)
    (hlines : Identifies "invoice_id" lines) :
    ∃ data, ofRecords buyers headers lines = .ok data ∧
      data.buyers = buyers ∧ data.headers = headers ∧ data.lines = lines ∧
      HoldsLast "buyer_id" buyers data.buyerIndex ∧
      HoldsLast "invoice_id" headers data.headerIndex ∧
      HoldsGroups "invoice_id" lines data.lineGroups ∧
      ∀ id : Value, id.isIdentifier →
        data.linesFor id = .ok (withId "invoice_id" id lines) := by
  let data : Dataset := {
    buyers, headers, lines
    buyerIndex := Index.lastOf (fun r => r.get "buyer_id") buyers
    headerIndex := Index.lastOf (fun r => r.get "invoice_id") headers
    lineGroups := Index.grouped (fun r => r.get "invoice_id") (fun r => r) lines }
  have hgroups : HoldsGroups "invoice_id" lines data.lineGroups :=
    holdsGroups_grouped hlines
  refine ⟨data, ?_, rfl, rfl, rfl, holdsLast_lastOf hbuyers, holdsLast_lastOf hheaders,
    hgroups, ?_⟩
  · rw [ofRecords, (indexBy_eq_ok_iff _).2 ⟨hbuyers, rfl⟩, Result.ok_bind,
      (indexBy_eq_ok_iff _).2 ⟨hheaders, rfl⟩, Result.ok_bind,
      (groupBy_eq_ok_iff _).2 ⟨hlines, rfl⟩, Result.ok_bind]
    rfl
  · intro id hid
    obtain ⟨key, hkey⟩ : ∃ key, id.key = .ok key := ⟨_, Value.key_eq_ok_keyOf hid⟩
    rw [linesFor, hkey, Result.ok_bind]
    exact congrArg Except.ok (hgroups.get? id key hkey)

/-- Lines of one invoice whose identifier is written as `1`, as `1.0` and as true are
found together, in their order; the text `1` is another identifier. -/
theorem ofRecords_joins_mixed :
    let line (id : Value) (n : Int) : Record := ⟨[("invoice_id", id), ("line_id", .ofInt n)]⟩
    let lines := [line (.ofInt 1) 1, line (.text "1") 2, line (.ofFloat (.ofInt 1)) 3,
      line (.bool true) 4]
    Identifies "invoice_id" lines ∧ ∃ data, ofRecords [] [] lines = .ok data ∧
      data.linesFor (.bool true) =
        .ok [line (.ofInt 1) 1, line (.ofFloat (.ofInt 1)) 3, line (.bool true) 4] := by
  intro line lines
  have hlines : Identifies "invoice_id" lines := by
    simp [Identifies, lines, line, Record.get, Members.get, Value.isIdentifier, Value.ofInt,
      Value.ofFloat]
  obtain ⟨data, hdata, -, -, -, -, -, -, hfound⟩ :=
    ofRecords_joins [] [] lines (by simp [Identifies]) (by simp [Identifies]) hlines
  refine ⟨hlines, data, hdata, ?_⟩
  rw [hfound _ rfl]
  have hid (id : Value) (n : Int) : (line id n).get "invoice_id" = id := rfl
  have hwhole : (Value.ofInt 1).sameIdentity (.bool true) = true := by decide
  have hfloat : (Value.ofFloat (.ofInt 1)).sameIdentity (.bool true) = true := by
    decide +kernel
  have htrue : (Value.bool true).sameIdentity (.bool true) = true := by decide
  have htext : (Value.text "1").sameIdentity (.bool true) = false := by decide
  simp only [withId, lines, List.filter_cons, hid, hwhole, hfloat, htrue, htext, if_true,
    Bool.false_eq_true, if_false, List.filter_nil]

end Dataset

end InvoiceReadiness
