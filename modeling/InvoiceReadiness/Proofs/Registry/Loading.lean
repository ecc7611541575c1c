import InvoiceReadiness.Proofs.Json.Reading
import InvoiceReadiness.Registry
import Mathlib.Data.List.Forall2

/-!
# What the file of a registry comes to

A registry is loaded from bytes of any kind. If the bytes write a JSON object with a list
of complete fields, the registry has one field for each entry, in order. If they do not,
a registry fault names what is wrong with the text, down to the position of the first
entry that is incomplete.

Two kinds of bytes are not covered by the registry faults. Bytes that are no UTF-8 text
are refused before there is a text to judge, and the reader of JSON gives up on texts
beyond its limits.

## Main results

* `fieldsOf_ends` — a list of entries is made into fields up to the first incomplete one.
* `accounts_ofText` — the registry or the fault that a text comes to.
* `ofBytes_ends` — the same for the bytes of a file, or for no file.
-/

namespace InvoiceReadiness.Registry

open Json

/-! ## Entries and fields -/

/-- An entry that a field can be made of. -/
def IsComplete (entry : Value) : Prop :=
  ∃ r : Record, entry = r.value ∧ (r.get "dr_id").isFilled ∧ (r.get "business_term").isFilled

/-- A field has its cells from the record of an entry, and its identifier and its term are
filled. -/
structure Field.IsMadeOf (entry : Value) (field : Field) : Prop where
  cells : ∃ r : Record, entry = r.value ∧ Field.ofRecord r = .ok field ∧
    field.id = r.get "dr_id" ∧ field.term = r.get "business_term"
  id_isFilled : field.id.isFilled
  term_isFilled : field.term.isFilled

theorem has_of_isFilled {r : Record} {name : String} (h : (r.get name).isFilled) :
    r.has name := by
  obtain ⟨members⟩ := r
  show members.any _ = true
  rw [List.any_eq_true]
  by_contra hnone
  have hfind : members.find? (fun member => member.1 == name) = none := by
    rw [List.find?_eq_none]
    intro member hmember hname
    exact hnone ⟨member, hmember, hname⟩
  have hnull : Members.get members name = .null := by
    rw [Members.get, hfind]
    rfl
  rw [Record.get, hnull] at h
  cases h

/-- A filled cell is taken over as it is. -/
theorem cellOf_of_isFilled {r : Record} {name : String} (h : (r.get name).isFilled) :
    Field.cellOf r name = r.get name := by
  unfold Field.cellOf
  split
  · rename_i hnull
    rw [hnull] at h
    cases h
  · rfl

theorem exists_isMadeOf {r : Record} (hid : (r.get "dr_id").isFilled)
    (hterm : (r.get "business_term").isFilled) :
    ∃ field, Field.ofRecord r = .ok field ∧ field.IsMadeOf r.value := by
  have hof : ∃ field, Field.ofRecord r = .ok field ∧ field.id = r.get "dr_id" ∧
      field.term = r.get "business_term" := by
    unfold Field.ofRecord
    rw [has_of_isFilled hid, has_of_isFilled hterm]
    exact ⟨_, rfl, cellOf_of_isFilled hid, cellOf_of_isFilled hterm⟩
  obtain ⟨field, hfield, hfieldId, hfieldTerm⟩ := hof
  refine ⟨field, hfield, ⟨r, rfl, hfield, hfieldId, hfieldTerm⟩, ?_, ?_⟩
  · rw [hfieldId]
    exact hid
  · rw [hfieldTerm]
    exact hterm

variable {entry : Value}

theorem fieldsOf_cons_of_complete (h : IsComplete entry) (position : Nat)
    (rest : List Value) :
    ∃ field : Field, field.IsMadeOf entry ∧
      fieldsOf position (entry :: rest) =
        (fieldsOf (position + 1) rest).map fun more => field :: more := by
  obtain ⟨r, rfl, hid, hterm⟩ := h
  obtain ⟨field, hfield, hmade⟩ := exists_isMadeOf hid hterm
  refine ⟨field, hmade, ?_⟩
  show (do
    if !(r.get "dr_id").isFilled || !(r.get "business_term").isFilled then
      throw (Fault.registry (.incompleteField position))
    let field ← Field.ofRecord r
    let more ← fieldsOf (position + 1) rest
    return field :: more) = _
  rw [hid, hterm, hfield]
  cases fieldsOf (position + 1) rest <;> rfl

theorem fieldsOf_cons_of_not_complete (h : ¬ IsComplete entry) (position : Nat)
    (rest : List Value) :
    fieldsOf position (entry :: rest) = .error (.registry (.incompleteField position)) := by
  unfold fieldsOf
  split
  · rename_i members
    have hcell : ¬ ((Record.get ⟨members⟩ "dr_id").isFilled ∧
        (Record.get ⟨members⟩ "business_term").isFilled) :=
      fun hboth => h ⟨⟨members⟩, rfl, hboth.1, hboth.2⟩
    rw [if_pos (by
      by_cases hid : (Record.get ⟨members⟩ "dr_id").isFilled
      · have hterm : ¬ (Record.get ⟨members⟩ "business_term").isFilled :=
          fun hterm => hcell ⟨hid, hterm⟩
        simp [hterm]
      · simp [hid])]
    rfl
  · rfl

/-- Entries are made into fields, one by one, unless one of them is incomplete; the first
of these is named by its position. The induction is on the entries, and the position
counts those before. -/
theorem fieldsOf_ends (position : Nat) (entries : List Value) :
    (∃ fields, fieldsOf position entries = .ok fields ∧
      List.Forall₂ (fun entry field => Field.IsMadeOf entry field) entries fields) ∨
    (∃ before entry after, entries = before ++ entry :: after ∧
      (∀ earlier ∈ before, IsComplete earlier) ∧ ¬ IsComplete entry ∧
      fieldsOf position entries =
        .error (.registry (.incompleteField (position + before.length)))) := by
  induction entries generalizing position with
  | nil => exact .inl ⟨[], rfl, .nil⟩
  | cons entry rest ih =>
      by_cases hcomplete : IsComplete entry
      · obtain ⟨field, hmade, hstep⟩ := fieldsOf_cons_of_complete hcomplete position rest
        rw [hstep]
        cases ih (position + 1) with
        | inl hloaded =>
            obtain ⟨fields, hfields, hall⟩ := hloaded
            rw [hfields]
            exact .inl ⟨field :: fields, rfl, .cons hmade hall⟩
        | inr hrefused =>
            obtain ⟨before, first, after, rfl, hbefore, hfirst, hfault⟩ := hrefused
            refine .inr ⟨entry :: before, first, after, rfl, ?_, hfirst, ?_⟩
            · exact List.forall_mem_cons.2 ⟨hcomplete, hbefore⟩
            · rw [hfault, List.length_cons, Nat.add_right_comm, Nat.add_assoc]
              rfl
      · refine .inr ⟨[], entry, rest, rfl, ?_, hcomplete, ?_⟩
        · intro earlier hearlier
          cases hearlier
        · exact fieldsOf_cons_of_not_complete hcomplete position rest

/-! ## Values and texts -/

/-- The list of fields that a value has, if it has one. -/
def HasEntries (v : Value) (entries : List Value) : Prop :=
  ∃ release : Record, v = release.value ∧ release.get "fields" = .list entries

/-- A registry says of a release what a value says of it. -/
structure IsLoadedFrom (v : Value) (registry : Registry) : Prop where
  labels : ∃ release : Record, v = release.value ∧
    labelOf release "specId" = .ok registry.specId ∧
    labelOf release "version" = .ok registry.version ∧
    labelOf release "description" = .ok registry.description ∧
    labelOf release "effectiveDate" = .ok registry.effectiveDate
  fields : ∃ entries, HasEntries v entries ∧
    List.Forall₂ (fun entry field => Field.IsMadeOf entry field) entries registry.fields

/-- What is wrong with a text that holds no registry. -/
def IsRefusedFor (s : String) : RegistryFault → Prop
  | .unreadable => False
  | .notJson => read fileLimits s = .error .malformedJson
  | .noFields => ∃ v, read fileLimits s = .ok v ∧ ∀ entries, ¬ HasEntries v entries
  | .incompleteField position => ∃ v before entry after, read fileLimits s = .ok v ∧
    HasEntries v (before ++ entry :: after) ∧ (∀ earlier ∈ before, IsComplete earlier) ∧
    ¬ IsComplete entry ∧ position = before.length

/-- How a text ends as a registry: as one that is loaded from its value, with the registry
fault that says what is wrong with it, or beyond the limits of the reader. -/
def Accounts (s : String) : Result Registry → Prop
  | .ok registry => ∃ v, read fileLimits s = .ok v ∧ IsLoadedFrom v registry
  | .error (.registry cause) => IsRefusedFor s cause
  | .error .digitLimit => HasLongRun fileLimits s.toList
  | .error .tooDeep => fileLimits.depth < openings s.toList
  | .error _ => False

theorem exists_labelOf {release : Record} (h : release.value.withinDigits) (name : String) :
    ∃ label, labelOf release name = .ok label := by
  unfold labelOf
  by_cases hname : release.has name
  · rw [if_pos hname]
    exact Value.exists_shown (Value.withinDigits_cell h name)
  · rw [if_neg hname]
    exact ⟨"", rfl⟩

theorem ofValue_eq_of_hasEntries {release : Record} {entries : List Value}
    (h : release.get "fields" = .list entries) :
    ofValue release.value = (do
      let fields ← fieldsOf 0 entries
      return {
        specId := ← labelOf release "specId"
        version := ← labelOf release "version"
        description := ← labelOf release "description"
        effectiveDate := ← labelOf release "effectiveDate"
        fields }) := by
  obtain ⟨members⟩ := release
  unfold ofValue Record.value
  dsimp only
  rw [h]

theorem ofValue_eq_noFields {v : Value} (h : ∀ entries, ¬ HasEntries v entries) :
    ofValue v = .error (.registry .noFields) := by
  unfold ofValue
  split
  · rename_i members
    dsimp only
    split
    · rename_i entries hentries
      exact absurd ⟨⟨members⟩, rfl, hentries⟩ (h entries)
    · rfl
  · rfl

/-- A text that was read. Its labels can be shown, since the reader keeps to the limit of
digits. -/
theorem accounts_ofValue {s : String} {v : Value} (hread : read fileLimits s = .ok v) :
    Accounts s (ofValue v) := by
  by_cases hentries : ∃ entries, HasEntries v entries
  · obtain ⟨entries, release, rfl, hentries⟩ := hentries
    have hhas : HasEntries release.value entries := ⟨release, rfl, hentries⟩
    have hdigits := withinDigits_of_read (Nat.le_refl _) hread
    rw [ofValue_eq_of_hasEntries hentries]
    cases fieldsOf_ends 0 entries with
    | inl hloaded =>
        obtain ⟨fields, hfields, hall⟩ := hloaded
        obtain ⟨specId, hspecId⟩ := exists_labelOf hdigits "specId"
        obtain ⟨version, hversion⟩ := exists_labelOf hdigits "version"
        obtain ⟨description, hdescription⟩ := exists_labelOf hdigits "description"
        obtain ⟨date, hdate⟩ := exists_labelOf hdigits "effectiveDate"
        rw [hfields, hspecId, hversion, hdescription, hdate]
        exact ⟨_, hread, ⟨release, rfl, hspecId, hversion, hdescription, hdate⟩,
          entries, hhas, hall⟩
    | inr hrefused =>
        obtain ⟨before, entry, after, rfl, hbefore, hentry, hfault⟩ := hrefused
        rw [hfault, Nat.zero_add]
        exact ⟨_, before, entry, after, hread, hhas, hbefore, hentry, rfl⟩
  · have hnone : ∀ entries, ¬ HasEntries v entries := not_exists.1 hentries
    rw [ofValue_eq_noFields hnone]
    exact ⟨v, hread, hnone⟩

theorem accounts_ofText (s : String) : Accounts s (ofText s) := by
  unfold ofText
  cases hread : read fileLimits s with
  | ok v => exact accounts_ofValue hread
  | error fault =>
      cases read_fails (Nat.le_refl _) s hread with
      | malformed => exact hread
      | long hlong => exact hlong
      | deep hdeep => rwa [Nat.zero_add] at hdeep

/-- **The file of a registry.** Without a file there is a registry fault. Bytes that write
a text are accounted for by that text. Bytes that write none end with a fault of another
kind. -/
theorem ofBytes_ends (file : Option ByteArray) :
    match file with
    | none => ofFile none = .error (.registry .unreadable)
    | some bytes =>
      match String.fromUTF8? bytes with
      | some s => Accounts s (ofBytes bytes)
      | none => ofBytes bytes = .error .malformedUtf8 := by
  cases file with
  | none => rfl
  | some bytes =>
      dsimp only
      unfold ofBytes
      cases String.fromUTF8? bytes with
      | some s => exact accounts_ofText s
      | none => rfl

/-- A single byte that no text starts with. -/
theorem ofBytes_lone_byte : ofBytes ⟨#[0xFF]⟩ = .error .malformedUtf8 := by
  have hnone : String.fromUTF8? ⟨#[0xFF]⟩ = none := by decide +kernel
  unfold ofBytes
  rw [hnone]

end InvoiceReadiness.Registry
