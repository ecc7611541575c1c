import InvoiceReadiness.Proofs.Dataset.Collecting
import InvoiceReadiness.Proofs.Dataset.Joins

/-!
# Datasets that grow by a header

A header is appended to the headers of a dataset. Its identifier is new: no record of the
dataset points at it. So whatever is looked up for a record of the dataset is what was
looked up before, and a computation record by record says of the old records what it said
before, and then what there is to say about the new one (`Grows`).

## Main results

* `Dataset.ofRecords_append` — the dataset of the records with one header more.
* `Dataset.headerFor_withHeader` — the header of an old record stays the same.
* `Grows.collect`, `Grows.bind` — computations that grow with the headers.
* `Grows.keeps` — what they found before, they find again.
-/

namespace InvoiceReadiness

/-! ## One header more -/

/-- A record does not point at a header. -/
def Record.Avoids (r h : Record) : Prop :=
  (r.get "invoice_id").isNull ∨ (r.get "invoice_id").sameIdentity (h.get "invoice_id") = false

/-- Null identifies nothing but null. -/
theorem Value.sameIdentity_of_isNull {v w : Value} (hv : v.isNull) (hw : w.isNull = false) :
    v.sameIdentity w = false := by
  cases v with
  | null => cases w <;> first | rfl | contradiction
  | _ => contradiction

namespace Dataset

/-- The dataset with a header appended. -/
def withHeader (data : Dataset) (h : Record) : Dataset :=
  { data with
    headers := data.headers ++ [h]
    headerIndex := data.headerIndex.insert (h.get "invoice_id").keyOf (h.get "invoice_id") h }

/-- The same dataset, where the new header is the only record that is walked through;
whatever is looked up for it is still there. -/
def onlyHeader (data : Dataset) (h : Record) : Dataset :=
  { data.withHeader h with buyers := [], headers := [h], lines := [] }

/-- A header that can be found, and that no record of a dataset points at. -/
structure Admits (data : Dataset) (h : Record) : Prop where
  id : (h.get "invoice_id").isIdentifier
  buyers : ∀ r ∈ data.buyers, r.Avoids h
  headers : ∀ r ∈ data.headers, r.Avoids h
  lines : ∀ r ∈ data.lines, r.Avoids h

variable {data : Dataset} {h : Record}

theorem Admits.records (hadmits : data.Admits h) (kind : RecordKind) :
    ∀ r ∈ data.records kind, r.Avoids h := by
  cases kind with
  | buyers => exact hadmits.buyers
  | headers => exact hadmits.headers
  | lines => exact hadmits.lines

theorem ofRecords_append {buyers headers lines : List Record}
    (hdata : ofRecords buyers headers lines = .ok data)
    (hid : (h.get "invoice_id").isIdentifier) :
    ofRecords buyers (headers ++ [h]) lines = .ok (data.withHeader h) := by
  obtain ⟨buyerIndex, hbuyers, hdata⟩ := Result.bind_eq_ok.1 hdata
  obtain ⟨headerIndex, hheaders, hdata⟩ := Result.bind_eq_ok.1 hdata
  obtain ⟨lineGroups, hlines, hdata⟩ := Result.bind_eq_ok.1 hdata
  obtain rfl := Except.ok.inj hdata
  obtain ⟨hids, rfl⟩ := (indexBy_eq_ok_iff headerIndex).1 hheaders
  have hids' : Identifies "invoice_id" (headers ++ [h]) := by
    intro r hr
    rcases List.mem_append.1 hr with hr | hr
    · exact hids r hr
    · rw [List.mem_singleton.1 hr]
      exact hid
  have hindex : indexBy "invoice_id" (headers ++ [h]) =
      .ok ((Index.lastOf (fun r => r.get "invoice_id") headers).insert
        (h.get "invoice_id").keyOf (h.get "invoice_id") h) := by
    rw [indexBy_eq_ok_iff]
    refine ⟨hids', ?_⟩
    rw [Index.lastOf, Index.lastOf, Index.file_append]
    rfl
  rw [ofRecords, hbuyers, Result.ok_bind, hindex, Result.ok_bind, hlines, Result.ok_bind]
  rfl

/-- A key that is not the new header's finds what it found before. -/
theorem headerFor_withHeader (hid : (h.get "invoice_id").isIdentifier) {r : Record}
    (hr : r.Avoids h) : (data.withHeader h).headerFor r = data.headerFor r := by
  unfold headerFor
  split
  · rfl
  · rfl
  · rename_i hnull _
    cases hkey : (r.get "invoice_id").key with
    | error fault => rfl
    | ok key =>
        have hdiffers : (r.get "invoice_id").sameIdentity (h.get "invoice_id") = false := by
          refine hr.resolve_left fun h => hnull ?_
          cases hv : r.get "invoice_id" <;> rw [hv] at h <;> trivial
        have hne : key ≠ (h.get "invoice_id").keyOf := by
          intro heq
          have hsame := (Value.keyOf_eq_iff (Value.isIdentifier_of_key_eq_ok hkey) hid).1
            ((Value.keyOf_eq_of_key_eq_ok hkey).trans heq)
          rw [hdiffers] at hsame
          contradiction
        show (.ok ((data.headerIndex.insert _ _ h).get? key) : Result (Option Record)) =
          .ok (data.headerIndex.get? key)
        rw [Index.insert, Index.get?_alter_ne _ hne]

theorem coordinates_withHeader (hid : (h.get "invoice_id").isIdentifier) {r : Record}
    (hr : r.Avoids h) : (data.withHeader h).coordinates r = data.coordinates r := by
  rw [coordinates, coordinates, headerFor_withHeader hid hr]

/-- A header that no line points at has no lines. -/
theorem linesFor_of_admits {buyers headers lines : List Record}
    (hdata : ofRecords buyers headers lines = .ok data) (hadmits : data.Admits h)
    (hid : (h.get "invoice_id").isNull = false) :
    data.linesFor (h.get "invoice_id") = .ok [] := by
  rw [linesFor_of_ofRecords hdata hadmits.id, withId, List.filter_eq_nil_iff.2]
  intro line hline hsame
  have hline : line ∈ data.lines := by rwa [(records_of_ofRecords hdata).2.2]
  rcases hadmits.lines line hline with hnull | hdiffers
  · rw [Value.sameIdentity_of_isNull hnull hid] at hsame
    contradiction
  · rw [hdiffers] at hsame
    contradiction

end Dataset

/-! ## Computations that grow -/

variable {α β : Type}

/-- What a computation gives after a header was appended is what it gave before, and then
what it gives for the new header alone. It fails if one of the two does. -/
def Grows (before alone after : Result (List α)) : Prop :=
  after = do return (← before) ++ (← alone)

namespace Grows

theorem nil : Grows (pure [] : Result (List α)) (pure []) (pure []) := rfl

theorem collect (f : Record → Result (Option α)) (records : List Record) (h : Record) :
    Grows (collect records f) (collect [h] f) (collect (records ++ [h]) f) :=
  collect_append f records [h]

/-- Nothing is new about records among which the header is not. -/
theorem unchanged {f f' : Record → Result (Option α)} {records : List Record}
    (hsame : ∀ r ∈ records, f' r = f r) :
    Grows (InvoiceReadiness.collect records f) (InvoiceReadiness.collect [] f')
      (InvoiceReadiness.collect records f') := by
  rw [collect_congr hsame, Grows]
  cases InvoiceReadiness.collect records f with
  | error fault => rfl
  | ok found => exact congrArg Except.ok (List.append_nil found).symm

/-- Records of any kind, where the same is said of the old ones. -/
theorem collect_records {data : Dataset} {h : Record} {kind : RecordKind}
    {f f' : Record → Result (Option α)} (hsame : ∀ r ∈ data.records kind, f' r = f r) :
    Grows (InvoiceReadiness.collect (data.records kind) f)
      (InvoiceReadiness.collect ((data.onlyHeader h).records kind) f')
      (InvoiceReadiness.collect ((data.withHeader h).records kind) f') := by
  cases kind with
  | buyers => exact unchanged hsame
  | headers =>
      rw [← collect_congr hsame]
      exact collect f' data.headers h
  | lines => exact unchanged hsame

/-- Several findings for each record. -/
theorem flatten (f : Record → Result (List α)) (records : List Record) (h : Record) :
    Grows (do return (← records.mapM f).flatten) (do return (← [h].mapM f).flatten)
      (do return (← (records ++ [h]).mapM f).flatten) := by
  rw [List.mapM_append, Grows]
  cases records.mapM f with
  | error fault => rfl
  | ok found =>
      cases [h].mapM f with
      | error fault => rfl
      | ok found' => exact congrArg Except.ok List.flatten_append

theorem flatten_unchanged (f : Record → Result (List α)) (records : List Record) :
    Grows (do return (← records.mapM f).flatten) (do return (← [].mapM f).flatten)
      (do return (← records.mapM f).flatten) := by
  rw [Grows]
  cases records.mapM f with
  | error fault => rfl
  | ok found => exact congrArg Except.ok (List.append_nil found.flatten).symm

/-- What comes first does not look at the headers. -/
theorem bind {r : Result β} {before alone after : β → Result (List α)}
    (h : ∀ b, Grows (before b) (alone b) (after b)) :
    Grows (r >>= before) (r >>= alone) (r >>= after) := by
  cases r with
  | error fault => rfl
  | ok b => exact h b

theorem ite {condition : Prop} [Decidable condition]
    {before alone after before' alone' after' : Result (List α)}
    (h : condition → Grows before alone after) (h' : ¬condition → Grows before' alone' after') :
    Grows (if condition then before else before') (if condition then alone else alone')
      (if condition then after else after') := by
  by_cases hc : condition
  · rw [if_pos hc, if_pos hc, if_pos hc]
    exact h hc
  · rw [if_neg hc, if_neg hc, if_neg hc]
    exact h' hc

end Grows

/-! ## Faults at the new header -/

/-- What was found before stays in front of what is found afterwards, unless the
computation fails for the new header alone; then nothing is left. -/
structure KeepsFindings (alone : Result (List α)) (before after : List α) : Prop where
  kept : Returns alone → before <+: after
  lost : ¬Returns alone → after = []

/-- A computation whose faults count as no findings. -/
theorem Grows.keeps {before alone after : Result (List α)} (h : Grows before alone after) :
    KeepsFindings alone (before.toOption.getD []) (after.toOption.getD []) := by
  rw [h]
  cases before with
  | error fault => exact ⟨fun _ => List.nil_prefix, fun _ => rfl⟩
  | ok found =>
      cases alone with
      | error fault => exact ⟨fun halone => absurd halone nofun, fun _ => rfl⟩
      | ok more =>
          exact ⟨fun _ => List.prefix_append found more, fun hfails => absurd ⟨more, rfl⟩ hfails⟩

end InvoiceReadiness
