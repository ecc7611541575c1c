import InvoiceReadiness.Proofs.Scoring.Laws
import InvoiceReadiness.Proofs.Traceability.Citations
import InvoiceReadiness.Proofs.Value.Filing

/-!
# Sellers

The scores of sellers are computed from two groupings: headers are filed under their sellers,
and under each of them the invoices, each once; incidents are taken to the seller that they
name, if there is a header of it. Sellers and invoices are compared by `Value.sameIdentity`.

So a seller has the scores that its own incidents and its own headers have, and every incident
of a seller that is there counts once. What is summed up over the sellers is what splits by a
key (`SplitsBy`): a number of incidents, of one severity or of all, a risk, and a number of
different pairs of a seller and an invoice.

## Main results

* `sum_map_filter` — sums over the groups of a key.
* `invoicesBySeller_eq` — the filing of the headers.
* `sellers_eq_ok_iff` — when there are scores, and which.
* `sellers_conserve` — the scores of sellers account for their incidents.
-/

namespace InvoiceReadiness.Scoring

open Traceability

/-! ## Sums over groups -/

section Groups

variable {α : Type}

/-- A measure of lists to which the items of one key and all others contribute apart. -/
def SplitsBy (key : α → Key) (measure : List α → Nat) : Prop :=
  ∀ items k, measure items =
    measure (items.filter fun x => key x == k) + measure (items.filter fun x => !(key x == k))

variable {key : α → Key} {measure : List α → Nat}

/-- A measure that is additive and does not depend on the order splits by any key. -/
theorem SplitsBy.of_additive (key : α → Key)
    (hperm : ∀ {xs ys : List α}, xs.Perm ys → measure xs = measure ys)
    (hadd : ∀ xs ys, measure (xs ++ ys) = measure xs + measure ys) : SplitsBy key measure := by
  intro items k
  rw [← hadd]
  exact hperm (List.filter_append_perm (fun x => key x == k) items).symm

/-- The number of different pairs splits by the first of each. -/
theorem splitsBy_card_pairs (first second : α → Key) :
    SplitsBy first fun items => (items.map fun x => (first x, second x)).toFinset.card := by
  intro items k
  have hfilter (p : Key → Bool) :
      ((items.filter fun x => p (first x)).map fun x => (first x, second x)).toFinset =
        (items.map fun x => (first x, second x)).toFinset.filter fun pair => p pair.1 := by
    rw [← List.toFinset_filter, List.filter_map]
    rfl
  dsimp only
  rw [hfilter fun other => other == k, hfilter fun other => !(other == k)]
  simp only [Bool.not_eq_true', ← Bool.not_eq_true]
  exact (Finset.card_filter_add_card_filter_not _).symm

/-- The groups of different keys make up the items that have one of them. -/
theorem sum_map_filter (h : SplitsBy key measure) {keys : List Key} (hkeys : keys.Nodup)
    (items : List α) : (keys.map fun k => measure (items.filter fun x => key x == k)).sum =
      measure (items.filter fun x => keys.contains (key x)) := by
  induction keys with
  | nil =>
      have hnone : measure [] = measure [] + measure [] := h [] .null
      have hzero : measure [] = 0 := by omega
      simpa using hzero.symm
  | cons k rest ih =>
      obtain ⟨hk, hrest⟩ := List.nodup_cons.1 hkeys
      let all := items.filter fun x => (k :: rest).contains (key x)
      have hthis : all.filter (fun x => key x == k) = items.filter fun x => key x == k := by
        rw [List.filter_filter]
        refine List.filter_congr fun x _ => ?_
        by_cases hx : key x = k <;> simp [hx]
      have hothers : all.filter (fun x => !(key x == k)) =
          items.filter fun x => rest.contains (key x) := by
        rw [List.filter_filter]
        refine List.filter_congr fun x _ => ?_
        by_cases hx : key x = k
        · simp [hx, hk]
        · simp [hx]
      rw [List.map_cons, List.sum_cons, ih hrest, h all k, hthis, hothers]

end Groups

/-! ## Sellers among headers -/

/-- The seller of a header. -/
def sellerOf (header : Record) : Value := header.get "seller_trn"

/-- The invoice of a header. -/
def invoiceOf (header : Record) : Value := header.get "invoice_id"

/-- The sellers of headers, each where it first comes. -/
def sellersAmong (headers : List Record) : List Value :=
  (headers.map sellerOf).eraseDupsBy Value.sameIdentity

/-- The invoices of headers, each where it first comes. -/
def invoicesAmong (headers : List Record) : List Value :=
  (headers.map invoiceOf).eraseDupsBy Value.sameIdentity

/-- The sellers of headers with their invoices, each pair where it first comes. -/
def invoicesOfSellers (headers : List Record) : List (Value × Value) :=
  (headers.map fun header => (sellerOf header, invoiceOf header)).eraseDupsBy fun x y =>
    x.1.sameIdentity y.1 && x.2.sameIdentity y.2

/-- The headers of a seller. -/
def headersOf (headers : List Record) (trn : Value) : List Record :=
  headers.filter fun header => trn.sameIdentity (sellerOf header)

/-- The incidents of a seller. -/
def incidentsOf (incidents : List Incident) (trn : Value) : List Incident :=
  incidents.filter fun incident => trn.sameIdentity incident.sellerTrn

/-- The incidents of all sellers of which there is a header. -/
def incidentsAmong (incidents : List Incident) (headers : List Record) : List Incident :=
  incidents.filter fun incident => isAmong (headers.map sellerOf) incident.sellerTrn

/-- Headers of which the sellers and the invoices can be identifiers. -/
def HaveIdentifiers (headers : List Record) : Prop :=
  ∀ header ∈ headers, (sellerOf header).isIdentifier && (invoiceOf header).isIdentifier

/-- Incidents of which the sellers can be identifiers. -/
def HaveSellers (incidents : List Incident) : Prop :=
  ∀ incident ∈ incidents, incident.sellerTrn.isIdentifier

/-- Incidents and headers from which there are scores: sellers and invoices can be identifiers,
and the severities that count can be looked up. -/
structure Scorable (incidents : List Incident) (headers : List Record) : Prop where
  headerIds : HaveIdentifiers headers
  sellerIds : HaveSellers incidents
  gradable : Gradable (incidentsAmong incidents headers)

/-- The risk of each seller is in the range of binary64. -/
def RisksInRange (incidents : List Incident) (headers : List Record) : Prop :=
  ∀ trn ∈ sellersAmong headers, InRange (risk (namedSeverities (incidentsOf incidents trn)))
    (invoicesAmong (headersOf headers trn)).length

variable {incidents : List Incident} {headers : List Record} {trn : Value}

instance : Decidable (HaveIdentifiers headers) :=
  inferInstanceAs (Decidable (∀ header ∈ headers,
    (sellerOf header).isIdentifier && (invoiceOf header).isIdentifier))

instance : Decidable (HaveSellers incidents) :=
  inferInstanceAs (Decidable (∀ incident ∈ incidents, incident.sellerTrn.isIdentifier))

namespace HaveIdentifiers

theorem seller (h : HaveIdentifiers headers) :
    ∀ header ∈ headers, (sellerOf header).isIdentifier :=
  fun header hheader => (Bool.and_eq_true_iff.1 (h header hheader)).1

theorem invoice (h : HaveIdentifiers headers) :
    ∀ header ∈ headers, (invoiceOf header).isIdentifier :=
  fun header hheader => (Bool.and_eq_true_iff.1 (h header hheader)).2

theorem headersOf (h : HaveIdentifiers headers) (trn : Value) :
    HaveIdentifiers (headersOf headers trn) :=
  fun header hheader => h header (List.mem_of_mem_filter hheader)

end HaveIdentifiers

theorem HaveSellers.incidentsOf (h : HaveSellers incidents) (trn : Value) :
    HaveSellers (incidentsOf incidents trn) :=
  fun incident hincident => h incident (List.mem_of_mem_filter hincident)

/-- The headers of a seller are its own headers among them. -/
theorem headersOf_headersOf : headersOf (headersOf headers trn) trn = headersOf headers trn := by
  rw [headersOf, headersOf, List.filter_filter]
  simp only [Bool.and_self]

theorem incidentsOf_incidentsOf :
    incidentsOf (incidentsOf incidents trn) trn = incidentsOf incidents trn := by
  rw [incidentsOf, incidentsOf, List.filter_filter]
  simp only [Bool.and_self]

/-! ## Selection by key -/

/-- What has an identity is what has its key. -/
theorem filter_sameIdentity {α : Type} {id : α → Value} {items : List α}
    (hitems : ∀ x ∈ items, (id x).isIdentifier) (htrn : trn.isIdentifier) :
    items.filter (fun x => trn.sameIdentity (id x)) =
      items.filter fun x => (id x).keyOf == trn.keyOf := by
  refine List.filter_congr fun x hx => ?_
  rw [Bool.eq_iff_iff, ← Value.keyOf_eq_iff htrn (hitems x hx), beq_iff_eq, eq_comm]

section Keys

variable (hheaders : HaveIdentifiers headers)

include hheaders

theorem sellersAmong_eq : sellersAmong headers =
    (headers.map sellerOf).eraseDupsBy fun v w => v.keyOf == w.keyOf :=
  (Index.eraseDupsBy_keyOf _ (List.forall_mem_map.2 hheaders.seller)).symm

theorem isIdentifier_of_mem_sellersAmong (htrn : trn ∈ sellersAmong headers) :
    trn.isIdentifier := by
  obtain ⟨header, hheader, rfl⟩ := List.mem_map.1 (Index.mem_of_mem_eraseDupsBy htrn)
  exact hheaders.seller header hheader

theorem nodup_keys_sellersAmong : ((sellersAmong headers).map Value.keyOf).Nodup := by
  rw [sellersAmong_eq hheaders]
  exact Index.nodup_keyOf_eraseDupsBy _

/-- The headers of a seller are of no other one. -/
theorem sellersAmong_headersOf (htrn : trn ∈ sellersAmong headers) :
    sellersAmong (headersOf headers trn) = [trn] := by
  have hid := isIdentifier_of_mem_sellersAmong hheaders htrn
  have hown : (headersOf headers trn).map sellerOf =
      (headers.map sellerOf).filter fun v => v.keyOf == trn.keyOf := by
    rw [headersOf, filter_sameIdentity hheaders.seller hid, List.filter_map]
    rfl
  rw [sellersAmong_eq hheaders] at htrn
  rw [sellersAmong_eq (hheaders.headersOf trn), hown]
  exact Index.eraseDupsBy_filter_key htrn

/-- The key of every header's seller is among those of the sellers. -/
theorem contains_sellerOf {header : Record} (hheader : header ∈ headers) :
    ((sellersAmong headers).map Value.keyOf).contains (sellerOf header).keyOf := by
  have hany : (sellersAmong headers).any fun v => v.keyOf == (sellerOf header).keyOf := by
    rw [sellersAmong_eq hheaders, Index.any_eraseDupsBy]
    exact List.any_eq_true.2 ⟨sellerOf header, List.mem_map_of_mem hheader, by simp⟩
  obtain ⟨trn, htrn, hkey⟩ := List.any_eq_true.1 hany
  exact List.contains_iff_mem.2 (List.mem_map.2 ⟨trn, htrn, beq_iff_eq.1 hkey⟩)

/-- An incident is of a seller that is there if its key is one of theirs. -/
theorem incidentsAmong_eq (hincidents : HaveSellers incidents) :
    incidentsAmong incidents headers = incidents.filter fun incident =>
      ((sellersAmong headers).map Value.keyOf).contains incident.sellerTrn.keyOf := by
  refine List.filter_congr fun incident hincident => ?_
  have hsellers : AllIdentifiers (headers.map sellerOf) := List.forall_mem_map.2 hheaders.seller
  rw [← any_keyOf_eq_isAmong hsellers (hincidents incident hincident), ← Index.any_eraseDupsBy,
    ← sellersAmong_eq hheaders, Bool.eq_iff_iff, List.any_eq_true, List.contains_iff_mem,
    List.mem_map]
  simp only [beq_iff_eq]

/-- An incident is of one of the sellers if it is of a seller that is there. -/
theorem mem_incidentsAmong_iff (hincidents : HaveSellers incidents) {incident : Incident} :
    incident ∈ incidentsAmong incidents headers ↔
      ∃ trn ∈ sellersAmong headers, incident ∈ incidentsOf incidents trn := by
  simp only [incidentsAmong_eq hheaders hincidents, incidentsOf, List.mem_filter,
    List.contains_iff_mem, List.mem_map]
  constructor
  · rintro ⟨hmem, trn, htrn, hkey⟩
    have hid := isIdentifier_of_mem_sellersAmong hheaders htrn
    exact ⟨trn, htrn, hmem, (Value.keyOf_eq_iff hid (hincidents _ hmem)).1 hkey⟩
  · rintro ⟨trn, htrn, hmem, hsame⟩
    have hid := isIdentifier_of_mem_sellersAmong hheaders htrn
    exact ⟨hmem, trn, htrn, (Value.keyOf_eq_iff hid (hincidents _ hmem)).2 hsame⟩

/-- The severities of all sellers are those of all their incidents. -/
theorem forall_gradable_iff (hincidents : HaveSellers incidents) :
    (∀ trn ∈ sellersAmong headers, Gradable (incidentsOf incidents trn)) ↔
      Gradable (incidentsAmong incidents headers) := by
  constructor
  · intro h incident hincident
    obtain ⟨trn, htrn, hmem⟩ := (mem_incidentsAmong_iff hheaders hincidents).1 hincident
    exact h trn htrn incident hmem
  · intro h trn htrn incident hmem
    exact h incident ((mem_incidentsAmong_iff hheaders hincidents).2 ⟨trn, htrn, hmem⟩)

theorem length_invoicesAmong : (invoicesAmong headers).length =
    (headers.map fun header => (invoiceOf header).keyOf).toFinset.card := by
  have hids : ∀ v ∈ headers.map invoiceOf, v.isIdentifier :=
    List.forall_mem_map.2 hheaders.invoice
  have hsame : ∀ v ∈ headers.map invoiceOf, ∀ w ∈ headers.map invoiceOf,
      v.sameIdentity w ↔ v.keyOf = w.keyOf :=
    fun v hv w hw => (Value.keyOf_eq_iff (hids v hv) (hids w hw)).symm
  rw [invoicesAmong, Index.length_eraseDupsBy _ hsame, List.map_map]
  rfl

theorem length_invoicesOfSellers : (invoicesOfSellers headers).length =
    (headers.map fun header =>
      ((sellerOf header).keyOf, (invoiceOf header).keyOf)).toFinset.card := by
  have hsame : ∀ x ∈ headers.map (fun header => (sellerOf header, invoiceOf header)),
      ∀ y ∈ headers.map (fun header => (sellerOf header, invoiceOf header)),
        (x.1.sameIdentity y.1 && x.2.sameIdentity y.2) ↔
          (x.1.keyOf, x.2.keyOf) = (y.1.keyOf, y.2.keyOf) := by
    intro x hx y hy
    obtain ⟨header, hheader, rfl⟩ := List.mem_map.1 hx
    obtain ⟨other, hother, rfl⟩ := List.mem_map.1 hy
    rw [Bool.and_eq_true, Prod.mk.injEq,
      Value.keyOf_eq_iff (hheaders.seller header hheader) (hheaders.seller other hother),
      Value.keyOf_eq_iff (hheaders.invoice header hheader) (hheaders.invoice other hother)]
  rw [invoicesOfSellers, Index.length_eraseDupsBy _ hsame, List.map_map]
  rfl

/-- A seller that is there has an invoice. -/
theorem length_invoicesAmong_pos (htrn : trn ∈ sellersAmong headers) :
    0 < (invoicesAmong (headersOf headers trn)).length := by
  obtain ⟨header, hheader, rfl⟩ := List.mem_map.1 (Index.mem_of_mem_eraseDupsBy htrn)
  have hown : header ∈ headersOf headers (sellerOf header) := by
    have hid := hheaders.seller header hheader
    exact List.mem_filter.2 ⟨hheader, (Value.keyOf_eq_iff hid hid).1 rfl⟩
  rw [length_invoicesAmong (hheaders.headersOf _), Finset.card_pos]
  exact ⟨_, List.mem_toFinset.2 (List.mem_map_of_mem hown)⟩

end Keys

/-! ## Filing -/

/-- Headers filed under their sellers, and under these their invoices. -/
def invoiceIndex (headers : List Record) : Index (Index Unit) :=
  Index.file sellerOf (fun header known => (known.getD Index.empty).insert
    (invoiceOf header).keyOf (invoiceOf header) ()) Index.empty headers

theorem invoicesBySeller_eq (headers : List Record) : invoicesBySeller headers =
    if HaveIdentifiers headers then .ok (invoiceIndex headers) else .error .notAKey := by
  refine Result.foldlM_guard (fun index header => ?_) Index.empty headers
  dsimp only
  rw [← sellerOf, ← invoiceOf, Value.key_eq, Value.key_eq]
  cases (sellerOf header).isIdentifier <;> cases (invoiceOf header).isIdentifier <;> rfl

/-- Incidents with the keys of their sellers. -/
theorem keyed_eq (incidents : List Incident) :
    incidents.mapM (fun incident => do return (← incident.sellerTrn.key, incident)) =
      if HaveSellers incidents then
        .ok (incidents.map fun incident => (incident.sellerTrn.keyOf, incident))
      else (.error .notAKey : Result (List (Key × Incident))) := by
  refine Result.mapM_guard (fun incident => ?_) incidents
  rw [Value.key_eq]
  split <;> rfl

/-- The incidents of a seller are those with its key. -/
theorem incidentsOf_eq (hincidents : HaveSellers incidents) (htrn : trn.isIdentifier) :
    ((incidents.map fun incident => (incident.sellerTrn.keyOf, incident)).filter
      fun pair => pair.1 == trn.keyOf).map Prod.snd = incidentsOf incidents trn := by
  rw [incidentsOf, filter_sameIdentity hincidents htrn, List.filter_map, List.map_map]
  exact List.map_id _

theorem shown_invoiceIndex (hheaders : HaveIdentifiers headers) :
    (invoiceIndex headers).entries.map Entry.shown = sellersAmong headers := by
  rw [invoiceIndex, Index.shown_file_empty, sellersAmong_eq hheaders]

/-- Under a seller its own invoices are filed. -/
theorem length_of_mem_invoiceIndex (hheaders : HaveIdentifiers headers)
    {entry : Entry (Index Unit)} (hentry : entry ∈ (invoiceIndex headers).entries) :
    entry.value.entries.length = (invoicesAmong (headersOf headers entry.shown)).length := by
  let add (known : Option (Index Unit)) (header : Record) : Option (Index Unit) :=
    some ((known.getD Index.empty).insert (invoiceOf header).keyOf (invoiceOf header) ())
  have hadd (own : List Record) (known : Option (Index Unit)) :
      (own.foldl add known).getD Index.empty =
        Index.file invoiceOf (fun _ _ => ()) (known.getD Index.empty) own := by
    induction own generalizing known with
    | nil => rfl
    | cons header rest ih => exact ih _
  obtain ⟨hkey, header, hheader, hshown⟩ := Index.of_mem_file _ _ hentry
  have hid : entry.shown.isIdentifier := hshown ▸ hheaders.seller header hheader
  have hvalue : entry.value =
      Index.file invoiceOf (fun _ _ => ()) Index.empty (headersOf headers entry.shown) := by
    have hget := Index.get?_of_mem _ (Index.nodup_keys_file sellerOf _ headers) hentry
    rw [Index.get?_file, hkey] at hget
    have hfiled := hadd (headersOf headers entry.shown) none
    rw [headersOf, filter_sameIdentity hheaders.seller hid] at hfiled ⊢
    rw [← Option.getD_some (a := entry.value) (b := Index.empty), ← hget]
    exact hfiled
  rw [hvalue, Index.length_entries_file, List.map_map,
    length_invoicesAmong (hheaders.headersOf _)]
  rfl

/-! ## Scores of sellers -/

/-- The scores of a seller. -/
def scoresOf (incidents : List Incident) (headers : List Record) (trn : Value) : SellerScore :=
  let severities := namedSeverities (incidentsOf incidents trn)
  let invoices := (invoicesAmong (headersOf headers trn)).length
  { trn
    risk := risk severities
    health := roundedHealth (risk severities) invoices
    severities
    incidents := (incidentsOf incidents trn).length
    invoices }

/-- Incidents have scores among invoices if they have a health. -/
theorem seller_eq_ok_iff (trn : Value) (own : List Incident) {invoices : Nat}
    (hinvoices : 0 < invoices) {s : SellerScore} :
    (do let severities ← severitiesOf own
        return {
          trn
          risk := risk severities
          health := ← healthOf severities (.whole invoices)
          severities
          incidents := own.length
          invoices } : Result SellerScore) = .ok s ↔
      (Gradable own ∧ InRange (risk (namedSeverities own)) invoices) ∧
        s = {
          trn
          risk := risk (namedSeverities own)
          health := roundedHealth (risk (namedSeverities own)) invoices
          severities := namedSeverities own
          incidents := own.length
          invoices } := by
  rw [severitiesOf_eq]
  by_cases hgradable : Gradable own
  · rw [if_pos hgradable, Result.ok_bind, healthOf_eq _ hinvoices, Result.ite_bind,
      and_iff_right hgradable]
    exact Result.guard_eq_ok_iff
  · rw [if_neg hgradable]
    exact iff_of_false nofun fun h => hgradable h.1.1

/-- There are scores if there are those of each seller. -/
theorem sellers_eq_ok_iff {scores : List SellerScore} : sellers incidents headers = .ok scores ↔
    Scorable incidents headers ∧ RisksInRange incidents headers ∧
      scores = (sellersAmong headers).map (scoresOf incidents headers) := by
  by_cases hheaders : HaveIdentifiers headers
  swap
  · rw [sellers, invoicesBySeller_eq, if_neg hheaders]
    exact iff_of_false nofun fun h => hheaders h.1.headerIds
  by_cases hincidents : HaveSellers incidents
  swap
  · rw [sellers, invoicesBySeller_eq, if_pos hheaders, keyed_eq, if_neg hincidents]
    exact iff_of_false nofun fun h => hincidents h.1.sellerIds
  rw [sellers, invoicesBySeller_eq, if_pos hheaders, keyed_eq, if_pos hincidents, Result.ok_bind,
    Result.ok_bind]
  let good (trn : Value) : Prop := Gradable (incidentsOf incidents trn) ∧
    InRange (risk (namedSeverities (incidentsOf incidents trn)))
      (invoicesAmong (headersOf headers trn)).length
  have hall : (∀ entry ∈ (invoiceIndex headers).entries, good entry.shown) ↔
      Scorable incidents headers ∧ RisksInRange incidents headers := by
    rw [← List.forall_mem_map, shown_invoiceIndex hheaders, forall₂_and,
      forall_gradable_iff hheaders hincidents]
    exact and_congr_left' ⟨fun h => ⟨hheaders, hincidents, h⟩, Scorable.gradable⟩
  rw [← and_assoc, ← hall, ← shown_invoiceIndex hheaders, List.map_map]
  refine Result.mapM_eq_ok_map_iff fun entry hentry s => ?_
  obtain ⟨hkey, header, hheader, hshown⟩ := Index.of_mem_file _ _ hentry
  have hid : entry.shown.isIdentifier := hshown ▸ hheaders.seller header hheader
  have hpos := length_invoicesAmong_pos hheaders (shown_invoiceIndex hheaders ▸
    List.mem_map_of_mem hentry)
  dsimp only
  rw [hkey, incidentsOf_eq hincidents hid, length_of_mem_invoiceIndex hheaders hentry]
  exact seller_eq_ok_iff entry.shown _ hpos

/-- The scores of a seller are those of its incidents and headers alone. -/
theorem sellers_alone (h : Scorable incidents headers) (hrisks : RisksInRange incidents headers)
    (htrn : trn ∈ sellersAmong headers) :
    sellers (incidentsOf incidents trn) (headersOf headers trn) =
      .ok [scoresOf incidents headers trn] := by
  have hone := sellersAmong_headersOf h.headerIds htrn
  have hheaders := h.headerIds.headersOf trn
  have hincidents := h.sellerIds.incidentsOf trn
  refine sellers_eq_ok_iff.2 ⟨⟨hheaders, hincidents, ?_⟩, ?_, ?_⟩
  · rw [← forall_gradable_iff hheaders hincidents, hone, List.forall_mem_singleton,
      incidentsOf_incidentsOf]
    exact (forall_gradable_iff h.headerIds h.sellerIds).2 h.gradable trn htrn
  · rw [RisksInRange, hone, List.forall_mem_singleton, incidentsOf_incidentsOf,
      headersOf_headersOf]
    exact hrisks trn htrn
  · rw [hone, List.map_singleton, scoresOf, scoresOf, incidentsOf_incidentsOf,
      headersOf_headersOf]

/-! ## Sums over sellers -/

/-- What splits by the seller is summed up over the sellers that are there. -/
theorem sum_sellers (hheaders : HaveIdentifiers headers) {α : Type} {id : α → Value}
    {measure : List α → Nat} (h : SplitsBy (fun x => (id x).keyOf) measure) {items : List α}
    (hitems : ∀ x ∈ items, (id x).isIdentifier) :
    ((sellersAmong headers).map fun trn =>
        measure (items.filter fun x => trn.sameIdentity (id x))).sum =
      measure (items.filter fun x =>
        ((sellersAmong headers).map Value.keyOf).contains (id x).keyOf) := by
  rw [← sum_map_filter h (nodup_keys_sellersAmong hheaders), List.map_map]
  congr 1
  refine List.map_congr_left fun trn htrn => ?_
  rw [filter_sameIdentity hitems (isIdentifier_of_mem_sellersAmong hheaders htrn)]
  rfl

/-- What is additive over incidents is summed up to that of all incidents of the sellers. -/
theorem sum_incidentsOf (h : Scorable incidents headers) {measure : List Incident → Nat}
    (hperm : ∀ {xs ys : List Incident}, xs.Perm ys → measure xs = measure ys)
    (hadd : ∀ xs ys, measure (xs ++ ys) = measure xs + measure ys) :
    ((sellersAmong headers).map fun trn => measure (incidentsOf incidents trn)).sum =
      measure (incidentsAmong incidents headers) := by
  rw [incidentsAmong_eq h.headerIds h.sellerIds]
  exact sum_sellers h.headerIds (.of_additive _ hperm hadd) h.sellerIds

/-- The invoices of one seller are as many as its pairs. -/
theorem card_pairs_headersOf (hheaders : HaveIdentifiers headers) (htrn : trn.isIdentifier) :
    ((headersOf headers trn).map fun header =>
        ((sellerOf header).keyOf, (invoiceOf header).keyOf)).toFinset.card =
      (invoicesAmong (headersOf headers trn)).length := by
  have hpairs : ((headersOf headers trn).map fun header =>
      ((sellerOf header).keyOf, (invoiceOf header).keyOf)) =
        ((headersOf headers trn).map fun header => (invoiceOf header).keyOf).map
          (Prod.mk trn.keyOf) := by
    rw [List.map_map]
    refine List.map_congr_left fun header hheader => ?_
    obtain ⟨hmem, hsame⟩ := List.mem_filter.1 hheader
    rw [← (Value.keyOf_eq_iff htrn (hheaders.seller header hmem)).2 hsame]
    rfl
  rw [length_invoicesAmong (hheaders.headersOf trn), hpairs, List.card_toFinset,
    List.card_toFinset, List.dedup_map_of_injective (Prod.mk_right_injective _), List.length_map]

theorem sum_invoicesAmong (hheaders : HaveIdentifiers headers) :
    ((sellersAmong headers).map fun trn => (invoicesAmong (headersOf headers trn)).length).sum =
      (invoicesOfSellers headers).length := by
  have hall : headers.filter (fun header =>
      ((sellersAmong headers).map Value.keyOf).contains (sellerOf header).keyOf) = headers :=
    List.filter_eq_self.2 fun _ hheader => contains_sellerOf hheaders hheader
  have hsum := sum_sellers hheaders (splitsBy_card_pairs (fun header => (sellerOf header).keyOf)
    fun header => (invoiceOf header).keyOf) hheaders.seller
  rw [hall, ← length_invoicesOfSellers hheaders] at hsum
  rw [← hsum]
  congr 1
  refine List.map_congr_left fun trn htrn => ?_
  exact (card_pairs_headersOf hheaders (isIdentifier_of_mem_sellersAmong hheaders htrn)).symm

/-! ## Conservation -/

/-- The scores of a seller are the scores of incidents and the number of different invoices of
headers. -/
structure SellerScore.IsOf (s : SellerScore) (incidents : List Incident)
    (headers : List Record) : Prop where
  severities : severitiesOf incidents = .ok s.severities
  risk : riskOf incidents = .ok (.whole s.risk)
  health : Scoring.health incidents (.ofNat s.invoices) = .ok s.health
  incidents : s.incidents = incidents.length
  invoices : s.invoices = (invoicesAmong headers).length

/-- The scores of sellers account for all incidents of these sellers, each of which counts for
one of them. -/
structure Conserves (incidents : List Incident) (headers : List Record)
    (scores : List SellerScore) : Prop where
  sellers : scores.map SellerScore.trn = sellersAmong headers
  each : ∀ s ∈ scores, s.IsOf (incidentsOf incidents s.trn) (headersOf headers s.trn)
  alone : ∀ s ∈ scores,
    Scoring.sellers (incidentsOf incidents s.trn) (headersOf headers s.trn) = .ok [s]
  sumIncidents : (scores.map SellerScore.incidents).sum =
    (incidentsAmong incidents headers).length
  sumSeverities : ∃ severities, severitiesOf (incidentsAmong incidents headers) = .ok severities ∧
    ∀ severity, (scores.map fun s => s.severities.count severity).sum = severities.count severity
  sumRisk : riskOf (incidentsAmong incidents headers) =
    .ok (.whole (scores.map SellerScore.risk).sum)
  sumInvoices : (scores.map SellerScore.invoices).sum = (invoicesOfSellers headers).length

theorem isOf_scoresOf (h : Scorable incidents headers) (hrisks : RisksInRange incidents headers)
    (htrn : trn ∈ sellersAmong headers) :
    (scoresOf incidents headers trn).IsOf (incidentsOf incidents trn) (headersOf headers trn) := by
  have hgradable := (forall_gradable_iff h.headerIds h.sellerIds).2 h.gradable trn htrn
  have hinvoices : (scoresOf incidents headers trn).invoices ≠ 0 :=
    Nat.ne_of_gt (length_invoicesAmong_pos h.headerIds htrn)
  exact {
    severities := (severitiesOf_eq _).trans (if_pos hgradable)
    risk := (riskOf_eq _).trans (if_pos hgradable)
    health := by
      rw [health_eq, if_neg hinvoices, if_pos hgradable]
      exact if_pos (hrisks trn htrn)
    incidents := rfl
    invoices := rfl }

theorem conserves_scoresOf (h : Scorable incidents headers)
    (hrisks : RisksInRange incidents headers) :
    Conserves incidents headers ((sellersAmong headers).map (scoresOf incidents headers)) where
  sellers := by
    rw [List.map_map]
    exact List.map_id _
  each := List.forall_mem_map.2 fun _ htrn => isOf_scoresOf h hrisks htrn
  alone := List.forall_mem_map.2 fun _ htrn => sellers_alone h hrisks htrn
  sumIncidents := by
    rw [List.map_map]
    exact sum_incidentsOf h List.Perm.length_eq fun _ _ => List.length_append
  sumSeverities := by
    refine ⟨_, (severitiesOf_eq _).trans (if_pos h.gradable), fun severity => ?_⟩
    rw [List.map_map]
    exact sum_incidentsOf h (fun hperm => (namedSeverities_perm hperm).count_eq severity)
      fun xs ys => by rw [namedSeverities_append, List.count_append]
  sumRisk := by
    have hsum := sum_incidentsOf h (fun hperm => risk_perm (namedSeverities_perm hperm))
      fun xs ys => by rw [namedSeverities_append, risk_append]
    rw [riskOf_eq, if_pos h.gradable, ← hsum, List.map_map]
    rfl
  sumInvoices := by
    rw [List.map_map]
    exact sum_invoicesAmong h.headerIds

/-- **The scores of sellers account for their incidents.** There are scores if sellers and
invoices can be identifiers, the severities of the incidents of these sellers can be looked up
and their risks are in range, as those of up to `2 ^ 1000` incidents are. Then every seller has
the scores that its incidents and its headers have alone; incidents, severities and risks add up
to those of all incidents of these sellers, and invoices to the number of different pairs. -/
theorem sellers_conserve (incidents : List Incident) (headers : List Record) :
    (Returns (sellers incidents headers) ↔
      Scorable incidents headers ∧ RisksInRange incidents headers) ∧
    (Scorable incidents headers → incidents.length ≤ twoPow 1000 →
      RisksInRange incidents headers) ∧
    ∀ scores, sellers incidents headers = .ok scores → Conserves incidents headers scores := by
  refine ⟨?_, fun h hlength trn htrn => ?_, fun scores hscores => ?_⟩
  · constructor
    · rintro ⟨scores, hscores⟩
      obtain ⟨h, hrisks, -⟩ := sellers_eq_ok_iff.1 hscores
      exact ⟨h, hrisks⟩
    · rintro ⟨h, hrisks⟩
      exact ⟨_, sellers_eq_ok_iff.2 ⟨h, hrisks, rfl⟩⟩
  · exact inRange_of_length _ (length_invoicesAmong_pos h.headerIds htrn)
      (Nat.le_trans (List.length_filter_le _ _) hlength)
  · obtain ⟨h, hrisks, rfl⟩ := sellers_eq_ok_iff.1 hscores
    exact conserves_scoresOf h hrisks

/-- An incident of a seller. -/
def ofSeller (severity seller : Value) : Incident :=
  { ofSeverity severity with sellerTrn := seller }

/-- A header of a seller with an invoice. -/
def soldBy (seller : Value) (invoice : String) : Record :=
  ⟨[("seller_trn", seller), ("invoice_id", .text invoice)]⟩

/-- The headers and the incidents of two sellers in turn, and an incident of a third one. One of
the sellers is a number that is written in two ways, and one severity is unknown. -/
theorem sellers_conserve_interleaved :
    let one : Value := .number (.whole 1)
    let incidents := [ofSeller (.text "High") (.text "S"), ofSeller (.text "Urgent") one,
      ofSeller (.text "Low") (.text "S"), ofSeller (.text "Critical") (.bool true),
      ofSeller (.text "High") (.text "X")]
    let headers := [soldBy (.text "S") "A", soldBy one "A", soldBy (.text "S") "B",
      soldBy (.number (.float (.ofInt 1))) "A", soldBy (.text "S") "A"]
    ∃ scores, sellers incidents headers = .ok scores ∧ Conserves incidents headers scores ∧
      scores.map (fun s => (s.incidents, s.invoices, s.risk, s.health)) =
        [(2, 2, 7, 93), (2, 1, 10, 80)] := by
  intro one incidents headers
  have hscorable : Scorable incidents headers :=
    ⟨by decide +kernel, by decide +kernel, by decide +kernel⟩
  obtain ⟨hreturns, hrange, hconserves⟩ := sellers_conserve incidents headers
  obtain ⟨scores, hscores⟩ := hreturns.2 ⟨hscorable, hrange hscorable (by decide +kernel)⟩
  have hrun : (sellers incidents headers).toOption.map (fun scores =>
      scores.map fun s => (s.incidents, s.invoices, s.risk, s.health)) =
        some [(2, 2, 7, 93), (2, 1, 10, 80)] := by decide +kernel
  rw [hscores] at hrun
  exact ⟨scores, hscores, hconserves scores hscores, Option.some.inj hrun⟩

/-- An incident whose severity is a list leaves its seller without scores. -/
theorem ungradable_seller :
    let incidents := [ofSeller (.list []) (.text "S")]
    let headers := [soldBy (.text "S") "A"]
    HaveIdentifiers headers ∧ HaveSellers incidents ∧
      sellers incidents headers = .error .notAKey ∧
      ¬∃ scores, sellers incidents headers = .ok scores ∧
        scores.map SellerScore.trn = sellersAmong headers := by
  intro incidents headers
  have hrun : sellers incidents headers = .error .notAKey := by rfl
  refine ⟨by decide, by decide, hrun, ?_⟩
  rintro ⟨scores, hscores, -⟩
  rw [hrun] at hscores
  cases hscores

end InvoiceReadiness.Scoring
