import InvoiceReadiness.Proofs.Matching.EditScripts
import InvoiceReadiness.Proofs.Matching.Leads
import InvoiceReadiness.Proofs.Matching.Ranking
import InvoiceReadiness.Proofs.Numeric.Padding

/-!
# Placeholders

A cell can be filled and have an empty normal form nevertheless, such as `-` for an invoice
number or `N/A` for a registration number. What a placeholder is like says nothing about
invoices, so nothing should be found by it. A ranking keeps to this: it passes over a cell
where one of the two normal forms is empty. So do the similarities of names and suppliers.

The two searches for what is written in two ways do not. They ask that the texts are there
and differ, and then compare the normal forms, be they empty or not. Two invoice numbers that
are placeholders have equal forms, so one is taken for a variant of the other; one that is a
placeholder is not taken for a variant of one that is not. Registration numbers are held
against each other by their distance, and the empty form is near every one with up to two
digits.

## Main results

* `Written.isSome_matches?_iff` — when a pair of invoices shows one of the two signs.
* `Written.nearEmpty_iff` — the empty forms that a comparison lets through.
* `leads_of_near` — the leads of a search.
* `placeholders_slip` — what is found by placeholders.
-/

namespace InvoiceReadiness

/-! ## Forms of trimmed texts -/

theorem filter_trimBlanks {p : Char → Bool} (hp : ∀ c, isBlankChar c → p c = false)
    (cs : List Char) : (trimBlanks cs).filter p = cs.filter p := by
  have hdrop (cs : List Char) : (cs.dropWhile isBlankChar).filter p = cs.filter p := by
    induction cs with
    | nil => rfl
    | cons c rest ih =>
        by_cases hc : isBlankChar c
        · rw [List.dropWhile_cons_of_pos hc, ih, List.filter_cons_of_neg (by simp [hp c hc])]
        · rw [List.dropWhile_cons_of_neg hc]
  rw [trimBlanks, trimChars, List.filter_reverse, hdrop, List.filter_reverse, List.reverse_reverse,
    hdrop]

namespace Matching

theorem trnForm_trim (s : String) : trnForm (trim s).toList = trnForm s.toList := by
  rw [trim, String.toList_ofList]
  refine filter_trimBlanks (fun c hc => ?_) s.toList
  rw [isDecimalDigit, decimalDigit?_of_isBlankChar hc, Option.isSome_none]

/-- A cell with a text has a normal form, that of the text. -/
theorem exists_normalized {v : Value} {s : String} (hs : trimmedText v = .ok s) (hne : s ≠ "") :
    ∃ text, s = trim text ∧ ∀ form, normalized form v = .ok (form text.toList) := by
  obtain ⟨text, htext, ⟨⟩⟩ := Result.bind_eq_ok.1 hs
  have hfilled : v.isFilled := by
    by_contra hempty
    rw [Value.orElse, if_neg hempty] at htext
    obtain ⟨⟩ := htext
    exact hne (by decide)
  rw [Value.orElse, if_pos hfilled] at htext
  refine ⟨text, rfl, fun form => ?_⟩
  rw [normalized, if_pos hfilled, htext]
  rfl

/-! ## What is written in two ways -/

/-- What a search looks for in two ways of writing. -/
inductive Written where
  | number
  | trn

namespace Written

def rule : Written → SearchRule
  | number => .invoiceNumberVariant
  | trn => .trnFormatSimilarity

/-- The cell where it is written. -/
def cell : Written → String
  | number => "invoice_number"
  | trn => "seller_trn"

/-- The normal form by which it is compared. -/
def form : Written → List Char → List Char
  | number => invoiceForm
  | trn => trnForm

/-- How similar the suppliers of two invoices are. -/
def supplierScore : Written → Record → Record → Result Binary64
  | number => supplierSimilarity
  | trn => nameSimilarity

/-- The normal form on an invoice. -/
def formOf (w : Written) (r : Record) : Result (List Char) := normalized w.form (r.get w.cell)

/-- An invoice on which the normal form is not empty. -/
def Keeps (w : Written) (r : Record) : Prop := ∃ cs, w.formOf r = .ok cs ∧ cs ≠ []

/-- Two invoices of similar suppliers on which it is written in two ways. -/
structure Suspects (w : Written) (earlier later : Record) : Prop where
  texts : ∃ s t, trimmedText (earlier.get w.cell) = .ok s ∧
    trimmedText (later.get w.cell) = .ok t ∧ s ≠ "" ∧ t ≠ "" ∧ s ≠ t
  suppliers : ∃ score, w.supplierScore earlier later = .ok score ∧
    score.compare? (Binary64.decimal 85 2) ≠ some .lt

/-- Two normal forms that a search takes for one thing. -/
def Near : Written → List Char → List Char → Prop
  | number, first, second => (similarity first second).compare? (Binary64.decimal 9 1) ≠ some .lt
  | trn, first, second => editDistance first second ≤ 2

/-- The thresholds of the two searches are those of a check that sets none. -/
structure HasDefaults (params : Record) : Prop where
  suppliers : params.get "vendor_similarity_threshold" = .ofFloat (Binary64.decimal 85 2)
  numbers : params.get "invoice_number_similarity_threshold" = .ofFloat (Binary64.decimal 9 1)
  distance : params.get "trn_distance_threshold" = .ofNat 2

theorem hasDefaults_defaultParameters : HasDefaults ⟨defaultParameters⟩ := ⟨rfl, rfl, rfl⟩

/-- How a search goes on with two texts that it suspects. -/
def compared (params earlier later : Record) (s t : String) : Written → Result (Option Match)
  | number => do
    let score ← numberSimilarity earlier later
    if ← belowThreshold score (params.get "invoice_number_similarity_threshold") then return none
    return some (score.roundPlaces 2,
      s!"Invoice number '{t}' looks like a variant of '{s}' from the same supplier")
  | trn => do
    let threshold ← (params.get "trn_distance_threshold").toWhole
    let distance := editDistance (trnForm s.toList) (trnForm t.toList)
    if threshold < distance then return none
    let confidence ← distanceConfidence distance threshold
    let name ← (later.get "seller_name").shown
    return some (confidence.roundPlaces 2,
      s!"Supplier '{name}' appears with TRN '{t}' and '{s}' (edit distance {distance})")

variable {w : Written} {params earlier later : Record} {found : Option Match} {s t : String}

theorem matches?_eq :
    w.rule.matches? earlier later params = (do
      let s ← trimmedText (earlier.get w.cell)
      let t ← trimmedText (later.get w.cell)
      if s.isEmpty || t.isEmpty || s == t then return none
      let score ← w.supplierScore earlier later
      if ← belowThreshold score (params.get "vendor_similarity_threshold") then return none
      w.compared params earlier later s t) := by
  cases w <;> rfl

theorem not_skipped_iff :
    (s.isEmpty || t.isEmpty || s == t) = false ↔ s ≠ "" ∧ t ≠ "" ∧ s ≠ t := by
  rw [Bool.or_eq_false_iff, Bool.or_eq_false_iff, and_assoc, beq_eq_false_iff_ne,
    ← Bool.not_eq_true, ← Bool.not_eq_true, String.isEmpty_iff, String.isEmpty_iff]

theorem suspects_iff {score : Binary64} (hs : trimmedText (earlier.get w.cell) = .ok s)
    (ht : trimmedText (later.get w.cell) = .ok t)
    (hscore : w.supplierScore earlier later = .ok score) :
    w.Suspects earlier later ↔ (s ≠ "" ∧ t ≠ "" ∧ s ≠ t) ∧
      score.compare? (Binary64.decimal 85 2) ≠ some .lt := by
  constructor
  · rintro ⟨⟨s', t', hs', ht', hne⟩, score', hscore', hreaches⟩
    obtain ⟨⟩ := hs.symm.trans hs'
    obtain ⟨⟩ := ht.symm.trans ht'
    obtain ⟨⟩ := hscore.symm.trans hscore'
    exact ⟨hne, hreaches⟩
  · rintro ⟨hne, hreaches⟩
    exact ⟨⟨s, t, hs, ht, hne⟩, score, hscore, hreaches⟩

theorem belowThreshold_eq {name : String} {threshold : Binary64}
    (h : params.get name = .ofFloat threshold) (score : Binary64) :
    belowThreshold score (params.get name) = .ok (score.compare? threshold == some .lt) := by
  rw [h]
  rfl

section

variable (hparams : HasDefaults params)

include hparams

theorem isSome_compared_iff (hs : trimmedText (earlier.get w.cell) = .ok s)
    (ht : trimmedText (later.get w.cell) = .ok t) (hsne : s ≠ "") (htne : t ≠ "")
    (h : w.compared params earlier later s t = .ok found) :
    found.isSome ↔ ∃ first second, w.formOf earlier = .ok first ∧ w.formOf later = .ok second ∧
      w.Near first second := by
  obtain ⟨text, rfl, hfirst⟩ := exists_normalized hs hsne
  obtain ⟨text', rfl, hsecond⟩ := exists_normalized ht htne
  have hforms : (∃ first second, w.formOf earlier = .ok first ∧ w.formOf later = .ok second ∧
      w.Near first second) ↔ w.Near (w.form text.toList) (w.form text'.toList) := by
    rw [formOf, formOf, hfirst, hsecond]
    simp
  rw [hforms]
  cases w with
  | number =>
      obtain ⟨score, hscore, h⟩ := Result.bind_eq_ok.1 h
      have hsimilar : numberSimilarity earlier later =
          .ok (similarity (invoiceForm text.toList) (invoiceForm text'.toList)) :=
        Result.bind_eq_ok.2 ⟨_, hfirst _, Result.bind_eq_ok.2 ⟨_, hsecond _, rfl⟩⟩
      obtain ⟨⟩ := hscore.symm.trans hsimilar
      rw [belowThreshold_eq hparams.numbers, Result.ok_bind] at h
      split at h
      · rename_i hfar
        cases h
        exact iff_of_false Bool.false_ne_true fun hnear => hnear (beq_iff_eq.1 hfar)
      · rename_i hnear
        cases h
        exact iff_of_true rfl fun hfar => hnear (beq_iff_eq.2 hfar)
  | trn =>
      have hthreshold : (params.get "trn_distance_threshold").toWhole = .ok 2 := by
        rw [hparams.distance]
        rfl
      rw [compared, hthreshold, Result.ok_bind, trnForm_trim, trnForm_trim] at h
      dsimp only at h
      split at h
      · rename_i hfar
        cases h
        refine iff_of_false Bool.false_ne_true fun hnear => ?_
        have hnear : editDistance (trnForm text.toList) (trnForm text'.toList) ≤ 2 := hnear
        omega
      · rename_i hnear
        obtain ⟨confidence, -, h⟩ := Result.bind_eq_ok.1 h
        obtain ⟨name, -, ⟨⟩⟩ := Result.bind_eq_ok.1 h
        refine iff_of_true rfl ?_
        have hnear : editDistance (trnForm text.toList) (trnForm text'.toList) ≤ 2 := by omega
        exact hnear

/-- A pair shows the sign that a search looks for if what is written on it differs, the suppliers
are similar, and the normal forms are near. -/
theorem isSome_matches?_iff (h : w.rule.matches? earlier later params = .ok found) :
    found.isSome ↔ w.Suspects earlier later ∧ ∃ first second,
      w.formOf earlier = .ok first ∧ w.formOf later = .ok second ∧ w.Near first second := by
  rw [matches?_eq] at h
  obtain ⟨s, hs, h⟩ := Result.bind_eq_ok.1 h
  obtain ⟨t, ht, h⟩ := Result.bind_eq_ok.1 h
  by_cases hskip : (s.isEmpty || t.isEmpty || s == t) = true
  · rw [if_pos hskip] at h
    cases h
    refine iff_of_false Bool.false_ne_true ?_
    rintro ⟨⟨⟨s', t', hs', ht', hne⟩, -⟩, -⟩
    obtain ⟨⟩ := hs.symm.trans hs'
    obtain ⟨⟩ := ht.symm.trans ht'
    rw [not_skipped_iff.2 hne] at hskip
    cases hskip
  rw [if_neg hskip] at h
  have hne := not_skipped_iff.1 (eq_false_of_ne_true hskip)
  obtain ⟨score, hscore, h⟩ := Result.bind_eq_ok.1 h
  rw [belowThreshold_eq hparams.suppliers, Result.ok_bind] at h
  rw [suspects_iff hs ht hscore, and_iff_right hne]
  split at h
  · rename_i hbelow
    cases h
    exact iff_of_false Bool.false_ne_true fun hreaches => hreaches.1 (beq_iff_eq.1 hbelow)
  · rename_i hreaches
    rw [isSome_compared_iff hparams hs ht hne.1 hne.2.1 h]
    exact (and_iff_right fun hbelow => hreaches (beq_iff_eq.2 hbelow)).symm

end

/-! ## Empty forms -/

/-- The pairs of normal forms that are near although one of them is empty. -/
def NearEmpty : Written → List Char → List Char → Prop
  | number, first, second => first = [] ∧ second = []
  | trn, first, second => first = [] ∧ second.length ≤ 2 ∨ second = [] ∧ first.length ≤ 2

/-- Two invoices whose normal forms slip through. -/
def Slips (w : Written) (earlier later : Record) : Prop :=
  ∃ first second, w.formOf earlier = .ok first ∧ w.formOf later = .ok second ∧
    w.NearEmpty first second

theorem near_number_nil_iff {cs : List Char} : number.Near [] cs ↔ cs = [] := by
  cases cs with
  | nil =>
      have hequal : similarity ([] : List Char) [] = fullScore := by simp [similarity]
      rw [Near, hequal]
      exact iff_of_true (by decide +kernel) rfl
  | cons c rest =>
      have hempty : similarity [] (c :: rest) = Binary64.zero := by simp [similarity]
      rw [Near, hempty]
      exact iff_of_false (by decide +kernel) (List.cons_ne_nil c rest)

theorem near_comm (w : Written) (first second : List Char) :
    w.Near first second ↔ w.Near second first := by
  cases w with
  | number => rw [Near, Near, similarity_comm]
  | trn => rw [Near, Near, editDistance_comm]

theorem near_trn_nil_iff {cs : List Char} : trn.Near [] cs ↔ cs.length ≤ 2 := by
  rw [Near, editDistance_eq_distance, List.reverse_nil, distance_nil, List.length_reverse]

/-- What is near an empty form. -/
theorem nearEmpty_iff {first second : List Char} :
    w.NearEmpty first second ↔ w.Near first second ∧ (first = [] ∨ second = []) := by
  have hleft : first = [] → (w.Near first second ↔ w.Near [] second) := by
    rintro rfl
    rfl
  have hright : second = [] → (w.Near first second ↔ w.Near [] first) := by
    rintro rfl
    exact near_comm w first []
  cases w with
  | number =>
      rw [near_number_nil_iff] at hleft hright
      rw [NearEmpty]
      tauto
  | trn =>
      rw [near_trn_nil_iff] at hleft hright
      rw [NearEmpty]
      tauto

end Written

/-! ## Candidates -/

namespace Candidate

/-- The cells of a candidate, with the normal forms by which they are compared. -/
def cells (c : Candidate) : List ((List Char → List Char) × Value) :=
  [(nameForm, c.vendorName), (invoiceForm, c.invoiceNumber), (trnForm, c.trn),
    (nameForm, c.reference)]

/-- A cell of the candidate and the query both have a normal form that is not empty. -/
def Answers (c : Candidate) (text : List Char) : Prop :=
  ∃ cell ∈ c.cells, cell.1 text ≠ [] ∧ ∃ cs, normalized cell.1 cell.2 = .ok cs ∧ cs ≠ []

end Candidate

theorem cellScore_eq_zero {form : List Char → List Char} {text : List Char} {cell : Value}
    (h : ¬(form text ≠ [] ∧ ∃ cs, normalized form cell = .ok cs ∧ cs ≠ [])) :
    Yields (fun x => x = Binary64.zero) (cellScore form (form text) cell) := by
  simp only [cellScore, Yields.bind_iff, Yields.ite_iff, Yields.pure_iff]
  refine ⟨fun _ => trivial, fun _ cs hcs => ⟨fun _ => trivial, fun hempty => ?_⟩⟩
  rw [Bool.or_eq_true, List.isEmpty_iff, List.isEmpty_iff, not_or] at hempty
  exact absurd ⟨hempty.1, cs, hcs, hempty.2⟩ h

theorem score_eq_zero {text : List Char} {c : Candidate} (h : ¬c.Answers text) :
    Yields (fun x => x = Binary64.zero) (score text c) := by
  have hnone : ∀ cell ∈ c.cells, ¬(cell.1 text ≠ [] ∧
      ∃ cs, normalized cell.1 cell.2 = .ok cs ∧ cs ≠ []) :=
    fun cell hcell hboth => h ⟨cell, hcell, hboth⟩
  simp only [Candidate.cells, List.forall_mem_cons] at hnone
  obtain ⟨hname, hnumber, htrn, hreference, -⟩ := hnone
  simp only [score, Yields.bind_iff, Yields.pure_iff]
  intro byName hbyName byNumber hbyNumber byTrn hbyTrn byReference hbyReference
  rw [cellScore_eq_zero hname hbyName, cellScore_eq_zero hnumber hbyNumber,
    cellScore_eq_zero htrn hbyTrn, cellScore_eq_zero hreference hbyReference]
  rfl

/-- A ranking lists candidates by cells that say something. -/
theorem answers_of_mem_rank {text : String} {profile : Strictness} {candidates : List Value}
    {ranking : List Ranked} (htext : (trimBlanks text.toList).isEmpty = false)
    (h : rank (.text text) (.text profile.name) candidates = .ok ranking) :
    ∀ r ∈ ranking, ∃ c, Candidate.ofValue r.item = .ok c ∧ c.Answers text.toList := by
  intro r hr
  obtain ⟨all, hall, hfalls⟩ := (rank_eq_ok_iff htext).1 h
  obtain ⟨hmem, hreaches⟩ := List.mem_filter.1 (hfalls.perm.subset hr)
  have hscored : ∀ r ∈ all, ∃ c, Candidate.ofValue r.item = .ok c ∧
      score text.toList c = .ok r.score := by
    refine Yields.mapM (fun item _ r hr => ?_) hall
    obtain ⟨c, hc, hr⟩ := Result.bind_eq_ok.1 hr
    obtain ⟨x, hx, ⟨⟩⟩ := Result.bind_eq_ok.1 hr
    exact ⟨c, hc, hx⟩
  obtain ⟨c, hc, hscore⟩ := hscored r hmem
  refine ⟨c, hc, ?_⟩
  by_contra hnone
  rw [score_eq_zero hnone hscore] at hreaches
  have hshort : Binary64.zero.atLeast profile.leastScore = false := by
    cases profile <;> decide +kernel
  rw [hshort] at hreaches
  cases hreaches

/-! ## Searches -/

section

variable {w : Written} {check params : Record} {data : Dataset} {leads : List Lead}

/-- The leads of a search stand for pairs of suspects whose forms are near, and there is one for
each such pair. -/
theorem leads_of_near (hrule : check.get "rule_type" = .text w.rule.name)
    (hparams : parametersOf check = .ok params) (hdefaults : Written.HasDefaults params)
    (hrun : runSearch check.value data (.text "AP") = .ok leads) (earlier later : Record) :
    (∃ lead ∈ leads, lead.earlier = earlier ∧ lead.later = later) ↔
      (earlier, later) ∈ pairsAfter [] data.headers ∧ w.Suspects earlier later ∧
        ∃ first second, w.formOf earlier = .ok first ∧ w.formOf later = .ok second ∧
          w.Near first second := by
  obtain ⟨make, hmake, hleads⟩ := exists_runSearch_make hrule hparams
  rw [hleads] at hrun
  have hmem (pair : Record × Record) (hpair : pair ∈ pairsAfter [] data.headers) :
      (∃ found, w.rule.matches? pair.1 pair.2 params = .ok (some found)) ↔
        w.Suspects pair.1 pair.2 ∧ ∃ first second, w.formOf pair.1 = .ok first ∧
          w.formOf pair.2 = .ok second ∧ w.Near first second := by
    obtain ⟨found, hfound⟩ := exists_matches? hrun pair hpair
    rw [← Written.isSome_matches?_iff hdefaults hfound, hfound]
    cases found <;> simp
  constructor
  · rintro ⟨lead, hlead, rfl, rfl⟩
    obtain ⟨pair, hpair, found, hfound, rfl⟩ := (mem_leads_iff hrun lead).1 hlead
    obtain ⟨hearlier, hlater, -⟩ := hmake pair.2 pair.1 found
    rw [hearlier, hlater]
    exact ⟨hpair, (hmem pair hpair).1 ⟨found, hfound⟩⟩
  · rintro ⟨hpair, hnear⟩
    obtain ⟨found, hfound⟩ := (hmem (earlier, later) hpair).2 hnear
    obtain ⟨hearlier, hlater, -⟩ := hmake later earlier found
    exact ⟨make later earlier found, (mem_leads_iff hrun _).2 ⟨_, hpair, found, hfound, rfl⟩,
      hearlier, hlater⟩

/-- The two forms of a lead are near, and one of them may be empty. -/
theorem keeps_or_slips (hrule : check.get "rule_type" = .text w.rule.name)
    (hparams : parametersOf check = .ok params) (hdefaults : Written.HasDefaults params)
    (hrun : runSearch check.value data (.text "AP") = .ok leads) {lead : Lead}
    (hlead : lead ∈ leads) :
    w.Keeps lead.earlier ∧ w.Keeps lead.later ∨
      (lead.earlier, lead.later) ∈ pairsAfter [] data.headers ∧
        w.Suspects lead.earlier lead.later ∧ w.Slips lead.earlier lead.later := by
  obtain ⟨hpair, hsuspects, first, second, hfirst, hsecond, hnear⟩ :=
    (leads_of_near hrule hparams hdefaults hrun _ _).1 ⟨lead, hlead, rfl, rfl⟩
  by_cases hempty : first = [] ∨ second = []
  · exact .inr ⟨hpair, hsuspects, first, second, hfirst, hsecond,
      Written.nearEmpty_iff.2 ⟨hnear, hempty⟩⟩
  · rw [not_or] at hempty
    exact .inl ⟨⟨first, hfirst, hempty.1⟩, second, hsecond, hempty.2⟩

/-- **What is found by placeholders.** A search for variants with the thresholds that are set by
default flags two invoices only if both normal forms keep something, or if it suspects them and
they slip through: both invoice numbers keep nothing, or one registration number keeps nothing
and the other two digits at most. It flags all pairs of suspects that slip through, so
placeholders raise no leads exactly where there are no such pairs. A ranking lists a candidate
only if one of its cells and the query both keep something. -/
theorem placeholders_slip (hrule : check.get "rule_type" = .text w.rule.name)
    (hparams : parametersOf check = .ok params) (hdefaults : Written.HasDefaults params)
    (hrun : runSearch check.value data (.text "AP") = .ok leads) :
    (∀ lead ∈ leads, w.Keeps lead.earlier ∧ w.Keeps lead.later ∨
      w.Suspects lead.earlier lead.later ∧ w.Slips lead.earlier lead.later) ∧
    ((∀ lead ∈ leads, w.Keeps lead.earlier ∧ w.Keeps lead.later) ↔
      ∀ pair ∈ pairsAfter [] data.headers,
        ¬(w.Suspects pair.1 pair.2 ∧ w.Slips pair.1 pair.2)) ∧
    ∀ (text : String) (profile : Strictness) (candidates : List Value) (ranking : List Ranked),
      (trimBlanks text.toList).isEmpty = false →
      rank (.text text) (.text profile.name) candidates = .ok ranking →
      ∀ r ∈ ranking, ∃ c, Candidate.ofValue r.item = .ok c ∧ c.Answers text.toList := by
  have hleads (lead : Lead) (hlead : lead ∈ leads) :=
    keeps_or_slips hrule hparams hdefaults hrun hlead
  refine ⟨fun lead hlead => (hleads lead hlead).imp_right And.right, ⟨?_, ?_⟩,
    fun text profile candidates ranking => answers_of_mem_rank⟩
  · rintro hkeep ⟨earlier, later⟩ hpair ⟨hsuspects, first, second, hfirst, hsecond, hslips⟩
    obtain ⟨hnear, hempty⟩ := Written.nearEmpty_iff.1 hslips
    obtain ⟨lead, hlead, rfl, rfl⟩ := (leads_of_near hrule hparams hdefaults hrun earlier later).2
      ⟨hpair, hsuspects, first, second, hfirst, hsecond, hnear⟩
    obtain ⟨⟨cs, hcs, hcsne⟩, ds, hds, hdsne⟩ := hkeep lead hlead
    obtain ⟨⟩ := hfirst.symm.trans hcs
    obtain ⟨⟩ := hsecond.symm.trans hds
    exact hempty.elim hcsne hdsne
  · intro hnone lead hlead
    rcases hleads lead hlead with hkeep | ⟨hpair, hslip⟩
    · exact hkeep
    · exact absurd hslip (hnone _ hpair)

end

/-- Two invoice numbers that are placeholders slip through, and are taken for variants. -/
theorem placeholders_slip_number :
    let header (id number : String) : Record :=
      ⟨[("invoice_id", .text id), ("seller_name", .text "Acme"), ("invoice_number", .text number)]⟩
    let check : Record := ⟨[("rule_type", .text "invoice_number_variant")]⟩
    check.get "rule_type" = .text Written.number.rule.name ∧
      parametersOf check = .ok ⟨defaultParameters⟩ ∧
      ∃ data leads, Dataset.ofRecords [] [header "1" "-", header "2" "/"] [] = .ok data ∧
        runSearch check.value data (.text "AP") = .ok leads ∧ leads.length = 1 ∧
        ∃ pair ∈ pairsAfter [] data.headers,
          Written.number.Suspects pair.1 pair.2 ∧ Written.number.Slips pair.1 pair.2 := by
  intro header check
  have hforms : (do
      let data ← Dataset.ofRecords [] [header "1" "-", header "2" "/"] []
      let leads ← runSearch check.value data (.text "AP")
      leads.mapM fun lead : Lead => Written.number.formOf lead.earlier) = .ok [[]] := by
    decide +kernel
  obtain ⟨data, hdata, h⟩ := Result.bind_eq_ok.1 hforms
  obtain ⟨leads, hrun, h⟩ := Result.bind_eq_ok.1 h
  obtain ⟨lead, rfl⟩ := List.length_eq_one_iff.1 (Result.length_of_mapM_eq_ok h).symm
  obtain ⟨form, hmem, hform⟩ := Result.exists_result_of_mem h (List.mem_singleton_self lead)
  obtain rfl := List.mem_singleton.1 hmem
  have hrule : check.get "rule_type" = .text Written.number.rule.name := rfl
  have hparams : parametersOf check = .ok ⟨defaultParameters⟩ := rfl
  obtain ⟨-, hkeep, -⟩ :=
    placeholders_slip hrule hparams Written.hasDefaults_defaultParameters hrun
  refine ⟨hrule, hparams, data, [lead], hdata, hrun, rfl, ?_⟩
  by_contra hnone
  obtain ⟨⟨cs, hcs, hne⟩, -⟩ := hkeep.2 (fun pair hpair hslip => hnone ⟨pair, hpair, hslip⟩) lead
    (List.mem_singleton_self lead)
  obtain ⟨⟩ := hform.symm.trans hcs
  exact hne rfl

/-- A check of two invoices with the same supplier, and the normal forms of its leads. -/
def formsFound (w : Written) (first second : String) : Result (List (List Char × List Char)) := do
  let header (id text : String) : Record :=
    ⟨[("invoice_id", .text id), ("seller_name", .text "Acme"), (w.cell, .text text)]⟩
  let data ← Dataset.ofRecords [] [header "1" first, header "2" second] []
  let check : Record := ⟨[("rule_type", .text w.rule.name)]⟩
  let leads ← runSearch check.value data (.text "AP")
  leads.mapM fun lead => do return (← w.formOf lead.earlier, ← w.formOf lead.later)

/-- Two placeholders raise a lead, as invoice numbers and as registration numbers, and so does
one beside a registration number with two digits. -/
theorem placeholders_raise_leads :
    formsFound .number "-" "/" = .ok [([], [])] ∧
      formsFound .trn "N/A" "-" = .ok [([], [])] ∧
      formsFound .trn "N/A" "no. 10" = .ok [([], ['1', '0'])] := by
  decide +kernel

end Matching

end InvoiceReadiness
