import InvoiceReadiness.Proofs.Value.Filing
import InvoiceReadiness.Traceability.Catalog

/-!
# Citations

Rules and controls name the requirements that they are about, and a catalog files
them under those names. Here the index is compared with a search through the list:
what is filed under a requirement is what names it, once each and in the order of the
list, however often it is named.

Names are compared by `Value.sameIdentity`. A catalog is built only if all of them,
and the identifiers of its rules and requirements, can be keys.

## Main results

* `distinctValues_eq_ok_iff`, `fileUnder_eq_ok_iff` — when filing ends well, and how.
* `getD_get?_citedIndex`, `has_citedIndex`, `shown_citedIndex` — the index agrees with
  the search.
* `Catalog.of_build_eq_ok` — what a catalog is made of.
-/

namespace InvoiceReadiness.Traceability

variable {α : Type}

/-! ## Names -/

/-- Whether an identifier is among values. -/
def isAmong (values : List Value) (id : Value) : Bool :=
  values.any fun v => v.sameIdentity id

/-- Values that can all be identifiers. -/
def AllIdentifiers (values : List Value) : Prop := ∀ v ∈ values, v.isIdentifier

theorem any_keyOf_eq_isAmong {values : List Value} {id : Value}
    (hvalues : AllIdentifiers values) (hid : id.isIdentifier) :
    (values.any fun v => v.keyOf == id.keyOf) = isAmong values id := by
  rw [isAmong, Bool.eq_iff_iff, List.any_eq_true, List.any_eq_true]
  refine exists_congr fun v => and_congr_right fun hv => ?_
  rw [beq_iff_eq]
  exact Value.keyOf_eq_iff (hvalues v hv) hid

theorem isAmong_of_mem {values : List Value} {id : Value} (hmem : id ∈ values)
    (hid : id.isIdentifier) : isAmong values id :=
  List.any_eq_true.2 ⟨id, hmem, (Value.keyOf_eq_iff hid hid).1 rfl⟩

/-- The loop that files names asks for each of their keys. -/
theorem distinctValues_eq_ok_iff {values result : List Value} :
    distinctValues values = .ok result ↔
      AllIdentifiers values ∧
        result = values.eraseDupsBy fun v w => v.keyOf == w.keyOf := by
  have hfile (index : Index Unit) := Index.foldlM_alter_eq_ok_iff (fun v : Value => v)
    (fun _ _ => ()) Index.empty values index
  have hshown := Index.shown_file_empty (fun v : Value => v) (fun _ _ => ()) values
  rw [List.map_id'] at hshown
  rw [distinctValues, Result.bind_eq_ok]
  constructor
  · rintro ⟨index, hindex, ⟨⟩⟩
    obtain ⟨hids, rfl⟩ := (hfile index).1 hindex
    exact ⟨hids, hshown⟩
  · rintro ⟨hids, rfl⟩
    exact ⟨_, (hfile _).2 ⟨hids, rfl⟩, congrArg Except.ok hshown⟩

/-! ## Filing under names -/

/-- Items with the names under which they are filed, each name of an item once. -/
def citations (named : α → List Value) (items : List α) : List (Value × α) :=
  items.flatMap fun item =>
    ((named item).eraseDupsBy fun v w => v.keyOf == w.keyOf).map fun name => (name, item)

/-- Items filed under their names. -/
def citedIndex (named : α → List Value) (items : List α) : Index (List α) :=
  Index.grouped Prod.fst Prod.snd (citations named items)

variable {named : α → List Value} {items : List α}

theorem citations_cons (item : α) (rest : List α) :
    citations named (item :: rest) =
      ((named item).eraseDupsBy fun v w => v.keyOf == w.keyOf).map (fun name => (name, item)) ++
        citations named rest :=
  List.flatMap_cons

/-- What is filed under a name, with one more item. -/
def appended (c : Value × α) (group : Option (List α)) : List α := group.getD [] ++ [c.2]

/-- One item is filed under all of its names, or none of it is. -/
theorem fileItem_eq_ok_iff {item : α} {index result : Index (List α)} :
    (do
      let names ← distinctValues (named item)
      names.foldlM (fun (index : Index (List α)) name => do
        return index.alter (← name.key) name fun group => group.getD [] ++ [item]) index) =
        (.ok result : Result (Index (List α))) ↔
      AllIdentifiers (named item) ∧
        result = Index.file Prod.fst appended index
          (((named item).eraseDupsBy fun v w => v.keyOf == w.keyOf).map
            fun name => (name, item)) := by
  let names := (named item).eraseDupsBy fun v w => v.keyOf == w.keyOf
  have hnames := Index.foldlM_alter_eq_ok_iff (fun v : Value => v)
    (fun v => appended (v, item)) index names result
  have hfile : Index.file (fun v : Value => v) (fun v => appended (v, item)) index names =
      Index.file Prod.fst appended index (names.map fun name => (name, item)) := by
    rw [Index.file, Index.file, List.foldl_map]
  rw [hfile] at hnames
  constructor
  · intro h
    obtain ⟨_, hdistinct, hloop⟩ := Result.bind_eq_ok.1 h
    obtain ⟨hids, rfl⟩ := distinctValues_eq_ok_iff.1 hdistinct
    exact ⟨hids, (hnames.1 hloop).2⟩
  · rintro ⟨hids, hresult⟩
    have hnameIds : ∀ name ∈ names, name.isIdentifier :=
      fun name hname => hids name (Index.mem_of_mem_eraseDupsBy hname)
    rw [distinctValues_eq_ok_iff.2 ⟨hids, rfl⟩, Result.ok_bind]
    exact hnames.2 ⟨hnameIds, hresult⟩

/-- Filing ends well if and only if all names can be identifiers. -/
theorem fileUnder_eq_ok_iff {result : Index (List α)} :
    fileUnder named items = .ok result ↔
      (∀ item ∈ items, AllIdentifiers (named item)) ∧ result = citedIndex named items := by
  unfold fileUnder citedIndex Index.grouped
  -- The loop over items goes on from any index, and so does the claim.
  generalize (Index.empty : Index (List α)) = index
  induction items generalizing index with
  | nil =>
      rw [List.foldlM_nil]
      constructor
      · rintro ⟨⟩
        exact ⟨by simp, rfl⟩
      · rintro ⟨-, rfl⟩
        rfl
  | cons item rest ih =>
      rw [List.foldlM_cons, Result.bind_eq_ok, List.forall_mem_cons, citations_cons,
        Index.file_append]
      constructor
      · rintro ⟨first, hfirst, hrest⟩
        obtain ⟨hids, rfl⟩ := fileItem_eq_ok_iff.1 hfirst
        obtain ⟨hmore, hresult⟩ := (ih _).1 hrest
        exact ⟨⟨hids, hmore⟩, hresult⟩
      · rintro ⟨⟨hids, hmore⟩, hresult⟩
        exact ⟨_, fileItem_eq_ok_iff.2 ⟨hids, rfl⟩, (ih _).2 ⟨hmore, hresult⟩⟩

/-- What is filed under a key is what names it, once each and in order. -/
theorem getD_get?_citedIndex (key : Key) :
    ((citedIndex named items).get? key).getD [] =
      items.filter fun item => (named item).any fun name => name.keyOf == key := by
  rw [citedIndex, Index.getD_get?_grouped]
  induction items with
  | nil => rfl
  | cons item rest ih =>
      let names := (named item).eraseDupsBy fun v w => v.keyOf == w.keyOf
      have hone : ((names.map fun name => (name, item)).filter
            fun c => c.1.keyOf == key).map Prod.snd =
          List.replicate (names.countP fun name => name.keyOf == key) item := by
        rw [List.filter_map, List.map_map, List.countP_eq_length_filter]
        exact List.map_const'
      rw [citations_cons, List.filter_append, List.map_append, ih, hone,
        Index.countP_eraseDupsBy, List.filter_cons]
      split <;> rfl

/-- A key is known if something names it. -/
theorem has_citedIndex (key : Key) :
    (citedIndex named items).has key =
      items.any fun item => (named item).any fun name => name.keyOf == key := by
  have hnames (item : α) :
      (((named item).eraseDupsBy fun v w => v.keyOf == w.keyOf).map fun name =>
          (name, item)).any (fun c => c.1.keyOf == key) =
        (named item).any fun name => name.keyOf == key := by
    rw [List.any_map]
    exact Index.any_eraseDupsBy (named item) key
  rw [citedIndex, Index.grouped, Index.has_file, citations, List.any_flatMap]
  exact (Bool.false_or _).trans (congrArg items.any (funext hnames))

/-- The index has an entry for each of the names, in the order in which they first come. -/
theorem shown_citedIndex :
    (citedIndex named items).entries.map Entry.shown =
      (items.flatMap named).eraseDupsBy fun v w => v.keyOf == w.keyOf := by
  rw [citedIndex, Index.grouped, Index.shown_file_empty]
  induction items with
  | nil => rfl
  | cons item rest ih =>
      have hnames : (citations named (item :: rest)).map Prod.fst =
          ((named item).eraseDupsBy fun v w => v.keyOf == w.keyOf) ++
            (citations named rest).map Prod.fst := by
        rw [citations_cons, List.map_append, List.map_map]
        exact congrArg (· ++ _) (List.map_id _)
      rw [hnames, List.flatMap_cons, ← Index.eraseDupsBy_append_eraseDupsBy, ih,
        Index.eraseDupsBy_eraseDupsBy, Index.eraseDupsBy_append_eraseDupsBy]

/-- An identifier is known if it is among the names of something. -/
theorem has_citedIndex_keyOf (hnames : ∀ item ∈ items, AllIdentifiers (named item))
    {id : Value} (hid : id.isIdentifier) :
    (citedIndex named items).has id.keyOf = items.any fun item => isAmong (named item) id := by
  rw [has_citedIndex, Bool.eq_iff_iff, List.any_eq_true, List.any_eq_true]
  refine exists_congr fun item => and_congr_right fun hitem => ?_
  rw [any_keyOf_eq_isAmong (hnames item hitem) hid]

/-- What is filed under an identifier is what has it among its names. -/
theorem getD_get?_citedIndex_keyOf (hnames : ∀ item ∈ items, AllIdentifiers (named item))
    {id : Value} (hid : id.isIdentifier) :
    ((citedIndex named items).get? id.keyOf).getD [] =
      items.filter fun item => isAmong (named item) id := by
  rw [getD_get?_citedIndex]
  exact List.filter_congr fun item hitem => any_keyOf_eq_isAmong (hnames item hitem) hid

/-- An entry stands for a name of some items, and holds the items of that name. -/
theorem of_mem_citedIndex (hnames : ∀ item ∈ items, AllIdentifiers (named item))
    {entry : Entry (List α)} (hentry : entry ∈ (citedIndex named items).entries) :
    (∃ item ∈ items, entry.shown ∈ named item) ∧ entry.key = entry.shown.keyOf ∧
      entry.value = items.filter fun item => isAmong (named item) entry.shown := by
  obtain ⟨hkey, ⟨name, item⟩, hcited, rfl⟩ := Index.of_mem_file _ _ hentry
  obtain ⟨item, hitem, hmem⟩ := List.mem_flatMap.1 hcited
  obtain ⟨name, hname, ⟨⟩⟩ := List.mem_map.1 hmem
  have hname : entry.shown ∈ named item := Index.mem_of_mem_eraseDupsBy hname
  have hid : entry.shown.isIdentifier := hnames item hitem _ hname
  have hget := Index.get?_of_mem (citedIndex named items) (Index.nodup_keys_file _ _ _) hentry
  have hvalue : ((citedIndex named items).get? entry.key).getD [] = _ :=
    getD_get?_citedIndex entry.key
  rw [hget, Option.getD_some, hkey] at hvalue
  refine ⟨⟨item, hitem, hname⟩, hkey, ?_⟩
  rw [hvalue]
  exact List.filter_congr fun other hother => any_keyOf_eq_isAmong (hnames other hother) hid

/-! ## Catalogs -/

/-- Whether some rule enforces an identifier. -/
def isEnforced (rules : List Rule) (id : Value) : Bool :=
  rules.any fun rule => isAmong rule.requirements id

/-- Whether some control protects an identifier. -/
def isProtected (controls : List Control) (id : Value) : Bool :=
  controls.any fun control => isAmong control.requirements id

/-- What a requirement has from its field, and from the source of its identifier. -/
structure Requirement.IsOf (r : Requirement) (field : Registry.Field) (source : Option Source) :
    Prop where
  found : sourceOf field.id = .ok source
  mandatory : field.isMandatory = .ok r.mandatory
  id : r.id = field.id
  term : r.term = field.term
  file : r.file = source.map fun s => s.file.name
  columns : r.columns = (source.map Source.columns).getD []
  vatLawStatus : r.vatLawStatus = field.vatLawStatus

theorem Requirement.exists_isOf {field : Registry.Field} {r : Requirement}
    (h : Requirement.ofField field = .ok r) : ∃ source, r.IsOf field source := by
  have hyields : Yields (fun r : Requirement => ∃ source, r.IsOf field source)
      (Requirement.ofField field) := by
    simp only [Requirement.ofField, Yields.bind_iff]
    intro source hsource mandatory hmandatory codeList _
    -- Who derives the requirement is told in three ways, and changes nothing of these.
    split
    · split <;> simp only [Yields.bind_iff, Yields.pure_iff] <;>
        exact fun _ _ => ⟨source, hsource, hmandatory, rfl, rfl, rfl, rfl, rfl⟩
    · simp only [Yields.bind_iff, Yields.pure_iff]
      exact fun _ _ => ⟨source, hsource, hmandatory, rfl, rfl, rfl, rfl, rfl⟩
  exact hyields h

theorem Requirement.of_ofField_eq_ok {field : Registry.Field} {r : Requirement}
    (h : Requirement.ofField field = .ok r) :
    field.id.isIdentifier ∧ r.id = field.id ∧ r.vatLawStatus = field.vatLawStatus := by
  obtain ⟨source, hof⟩ := exists_isOf h
  obtain ⟨key, hkey, -⟩ := Result.bind_eq_ok.1 hof.found
  exact ⟨Value.isIdentifier_of_key_eq_ok hkey, hof.id, hof.vatLawStatus⟩

namespace Catalog

/-- What a catalog is made of. -/
structure MadeOf (fields : List Registry.Field) (checks definitions : List Value)
    (catalog : Catalog) : Prop where
  requirements : fields.mapM Requirement.ofField = .ok catalog.requirements
  rules : checks.mapM Rule.ofCheck = .ok catalog.rules
  controls : definitions.mapM (Control.ofDefinition catalog.ruleIndex) = .ok catalog.controls
  requirementIds : AllIdentifiers (catalog.requirements.map Requirement.id)
  ruleIds : AllIdentifiers (catalog.rules.map Rule.id)
  ruleNames : ∀ rule ∈ catalog.rules, AllIdentifiers rule.requirements
  controlNames : ∀ control ∈ catalog.controls, AllIdentifiers control.requirements
  requirementIndex :
    catalog.requirementIndex = Index.lastOf Requirement.id catalog.requirements
  ruleIndex : catalog.ruleIndex = Index.lastOf Rule.id catalog.rules
  rulesByRequirement :
    catalog.rulesByRequirement = citedIndex Rule.requirements catalog.rules
  controlsByRequirement :
    catalog.controlsByRequirement = citedIndex Control.requirements catalog.controls

theorem of_build_eq_ok {fields : List Registry.Field} {checks definitions : List Value}
    {version : Value} {catalog : Catalog}
    (h : build fields checks definitions version = .ok catalog) :
    MadeOf fields checks definitions catalog := by
  obtain ⟨requirements, hrequirements, h⟩ := Result.bind_eq_ok.1 h
  obtain ⟨rules, hrules, h⟩ := Result.bind_eq_ok.1 h
  obtain ⟨ruleIndex, hruleIndex, h⟩ := Result.bind_eq_ok.1 h
  obtain ⟨controls, hcontrols, h⟩ := Result.bind_eq_ok.1 h
  obtain ⟨requirementIndex, hrequirementIndex, h⟩ := Result.bind_eq_ok.1 h
  obtain ⟨rulesBy, hrulesBy, h⟩ := Result.bind_eq_ok.1 h
  obtain ⟨controlsBy, hcontrolsBy, ⟨⟩⟩ := Result.bind_eq_ok.1 h
  obtain ⟨hruleIds, hruleIndex⟩ := (Index.foldlM_alter_eq_ok_iff _ _ _ _ _).1 hruleIndex
  obtain ⟨hids, hrequirementIndex⟩ :=
    (Index.foldlM_alter_eq_ok_iff _ _ _ _ _).1 hrequirementIndex
  obtain ⟨hruleNames, hrulesBy⟩ := fileUnder_eq_ok_iff.1 hrulesBy
  obtain ⟨hcontrolNames, hcontrolsBy⟩ := fileUnder_eq_ok_iff.1 hcontrolsBy
  exact {
    requirements := hrequirements
    rules := hrules
    controls := hcontrols
    requirementIds := List.forall_mem_map.2 hids
    ruleIds := List.forall_mem_map.2 hruleIds
    ruleNames := hruleNames
    controlNames := hcontrolNames
    requirementIndex := hrequirementIndex
    ruleIndex := hruleIndex
    rulesByRequirement := hrulesBy
    controlsByRequirement := hcontrolsBy }

section MadeOf

variable {fields : List Registry.Field} {checks definitions : List Value}
  {catalog : Catalog} (hmade : catalog.MadeOf fields checks definitions)

include hmade

/-- The requirements of a catalog have the identifiers of the fields. -/
theorem MadeOf.map_id :
    catalog.requirements.map Requirement.id = fields.map Registry.Field.id := by
  apply Result.map_eq_map_of_mapM_eq_ok hmade.requirements
  intro field _ r hr
  exact (Requirement.of_ofField_eq_ok hr).2.1

theorem MadeOf.map_vatLawStatus :
    catalog.requirements.map Requirement.vatLawStatus =
      fields.map Registry.Field.vatLawStatus := by
  apply Result.map_eq_map_of_mapM_eq_ok hmade.requirements
  intro field _ r hr
  exact (Requirement.of_ofField_eq_ok hr).2.2

end MadeOf

end Catalog

end InvoiceReadiness.Traceability
