import InvoiceReadiness.Proofs.Expression.References

/-!
# What filling leaves of a template

A template has one cut (`IsCut`): fragments without a placeholder, and between them one
placeholder for each of its references, in their order. The references and the filled template
are two readings of that cut. The first lists the paths of the placeholders, the second keeps the
fragments as they are and puts a text in place of each placeholder. So no brace of a text that was
filled in, and none of a fragment next to it, is looked at again.

That there is a cut says nothing about the scanner: a text that is no fragment has a placeholder
somewhere, and the parts before and after it have cuts of their own. What the scanner does is
shown once, for an arbitrary cut. A placeholder is found whatever stands before it, because its
opening brace makes the scanner start afresh (`piecesFrom_field`), and in a fragment nothing is
found, because whatever is found stands in the text (`source_piecesFrom`).

## Main results

* `exists_isCut`, `IsCut.unique` — every text has one cut.
* `pieces_of_isCut`, `fills_cutPieces` — the scanner finds it, and what it is filled to.
* `fill_keeps_fragments` — the cut of a template and its filled texts.
-/

namespace InvoiceReadiness

namespace Template

/-! ## Cuts -/

/-- A placeholder of a path: braces around a text without braces, which is the path when the
blanks at its ends are dropped. -/
def IsPlaceholder (path : String) (cs : List Char) : Prop :=
  ∃ body, body ≠ [] ∧ Lexer.Unbraced body ∧ cs = '\x7b' :: (body ++ ['\x7d']) ∧
    path = String.ofList (trimBlanks body)

/-- A text with no placeholder anywhere in it. -/
def IsFragment (cs : List Char) : Prop :=
  ∀ path placeholder, IsPlaceholder path placeholder → ¬placeholder <:+: cs

/-- Fragments with texts between them. -/
def weave {α : Type} : List (List α) → List (List α) → List α
  | fragment :: fragments, text :: texts => fragment ++ (text ++ weave fragments texts)
  | fragments, _ => fragments.flatten

/-- A text is fragments with a placeholder for each of the paths between them. -/
structure IsCut (cs : List Char) (paths : List String)
    (fragments placeholders : List (List Char)) : Prop where
  length_eq : fragments.length = paths.length + 1
  isFragment : ∀ fragment ∈ fragments, IsFragment fragment
  isPlaceholder : List.Forall₂ IsPlaceholder paths placeholders
  text_eq : weave fragments placeholders = cs

variable {α : Type} {cs ds placeholder : List Char} {path : String} {paths more : List String}
  {fragments placeholders fragments' placeholders' : List (List Char)}

/-- Two weaves with a text between them are one. -/
theorem weave_append {fragments texts : List (List α)} (h : fragments.length = texts.length + 1)
    (text : List α) (fragments' texts' : List (List α)) :
    weave (fragments ++ fragments') (texts ++ text :: texts') =
      weave fragments texts ++ (text ++ weave fragments' texts') := by
  induction texts generalizing fragments with
  | nil =>
      obtain ⟨fragment, rfl⟩ := List.length_eq_one_iff.1 h
      simp [weave]
  | cons first texts ih =>
      cases fragments with
      | nil => cases h
      | cons fragment fragments =>
          have hrest := ih (Nat.succ.inj h)
          simp only [List.cons_append, weave, hrest, List.append_assoc]

theorem IsCut.of_isFragment (h : IsFragment cs) : IsCut cs [] [cs] [] where
  length_eq := rfl
  isFragment := by
    rintro fragment hmem
    rwa [List.mem_singleton.1 hmem]
  isPlaceholder := .nil
  text_eq := by simp [weave]

theorem IsCut.append (hcs : IsCut cs paths fragments placeholders)
    (hplaceholder : IsPlaceholder path placeholder)
    (hds : IsCut ds more fragments' placeholders') :
    IsCut (cs ++ (placeholder ++ ds)) (paths ++ path :: more) (fragments ++ fragments')
      (placeholders ++ placeholder :: placeholders') where
  length_eq := by
    rw [List.length_append, hcs.length_eq, hds.length_eq, List.length_append, List.length_cons]
    omega
  isFragment := by
    intro fragment hmem
    rcases List.mem_append.1 hmem with hmem | hmem
    · exact hcs.isFragment fragment hmem
    · exact hds.isFragment fragment hmem
  isPlaceholder := List.rel_append hcs.isPlaceholder (.cons hplaceholder hds.isPlaceholder)
  text_eq := by
    have hlength : fragments.length = placeholders.length + 1 := by
      rw [hcs.length_eq, hcs.isPlaceholder.length_eq]
    rw [weave_append hlength, hcs.text_eq, hds.text_eq]

/-- Every text has a cut. A text that is no fragment is cut at any of its placeholders, and what
is before it and after it is shorter. -/
theorem exists_isCut (cs : List Char) :
    ∃ paths fragments placeholders, IsCut cs paths fragments placeholders := by
  induction hlength : cs.length using Nat.strongRecOn generalizing cs with
  | ind n ih =>
      by_cases hfragment : IsFragment cs
      · exact ⟨_, _, _, .of_isFragment hfragment⟩
      · simp only [IsFragment, not_forall, not_not] at hfragment
        obtain ⟨path, placeholder, hplaceholder, before, after, rfl⟩ := hfragment
        have hpos : 0 < placeholder.length := by
          obtain ⟨body, -, -, rfl, -⟩ := hplaceholder
          exact Nat.succ_pos _
        simp only [List.length_append] at hlength
        obtain ⟨_, _, _, hbefore⟩ := ih before.length (by omega) before rfl
        obtain ⟨_, _, _, hafter⟩ := ih after.length (by omega) after rfl
        rw [List.append_assoc]
        exact ⟨_, _, _, hbefore.append hplaceholder hafter⟩

/-- What holds of a single fragment, and goes on to hold with a fragment and a placeholder in
front, holds of every cut. -/
theorem IsCut.induction_front {motive : List String → List (List Char) → List (List Char) → Prop}
    (last : ∀ fragment, IsFragment fragment → motive [] [fragment] [])
    (front : ∀ path paths fragment fragments placeholder placeholders, IsFragment fragment →
      IsPlaceholder path placeholder → motive paths fragments placeholders →
      motive (path :: paths) (fragment :: fragments) (placeholder :: placeholders))
    (h : IsCut cs paths fragments placeholders) : motive paths fragments placeholders := by
  obtain ⟨hlength, hfragments, hplaceholders, -⟩ := h
  induction hplaceholders generalizing fragments with
  | nil =>
      obtain ⟨fragment, rfl⟩ := List.length_eq_one_iff.1 hlength
      exact last fragment (hfragments fragment List.mem_cons_self)
  | cons hplaceholder hmore ih =>
      cases fragments with
      | nil => cases hlength
      | cons fragment fragments =>
          have hrest := ih (Nat.succ.inj hlength)
            fun other hmem => hfragments other (List.mem_cons_of_mem _ hmem)
          exact front _ _ _ _ _ _ (hfragments fragment List.mem_cons_self) hplaceholder hrest

/-! ## The scanner on a cut -/

@[simp] theorem source_chars (cs : List Char) : (cs.map Piece.char).flatMap Piece.source = cs := by
  induction cs with
  | nil => rfl
  | cons c cs ih => rw [List.map_cons, List.flatMap_cons, ih, Piece.source, List.singleton_append]

@[simp] theorem unfinished_none : unfinished none = [] := rfl

@[simp] theorem source_unfinished (read : List Char) :
    (unfinished (some read)).flatMap Piece.source = '\x7b' :: read.reverse := source_chars _

/-- The pieces of a text are the text. -/
theorem source_piecesFrom (pending : Option (List Char)) (cs : List Char) :
    (piecesFrom pending cs).flatMap Piece.source =
      (unfinished pending).flatMap Piece.source ++ cs := by
  fun_induction piecesFrom pending cs with
  | case1 pending => exact (List.append_nil _).symm
  | case2 pending c rest hopen ih =>
      rw [List.flatMap_append, ih, eq_of_beq hopen]
      rfl
  | case3 c rest hopen ih =>
      rw [List.flatMap_cons, ih]
      rfl
  | case4 c rest hopen body hclose hempty ih =>
      rw [List.flatMap_cons, List.flatMap_cons, ih, List.isEmpty_iff.1 hempty, eq_of_beq hclose]
      rfl
  | case5 c rest hopen body hclose hempty ih =>
      rw [List.flatMap_cons, ih, eq_of_beq hclose]
      simp [Piece.source]
  | case6 c rest hopen body hclose ih =>
      rw [ih]
      simp

/-- What is between the braces of a placeholder that is found is not empty and has no braces, if
what has been read after an opening brace has none. -/
theorem of_mem_piecesFrom {pending : Option (List Char)} {body : List Char}
    (hpending : ∀ read, pending = some read → Lexer.Unbraced read)
    (h : .placeholder body ∈ piecesFrom pending cs) : body ≠ [] ∧ Lexer.Unbraced body := by
  have hchars (pending : Option (List Char)) : .placeholder body ∉ unfinished pending := by
    cases pending <;> simp [unfinished]
  have hnothing : ∀ read, none = some read → Lexer.Unbraced read := by simp
  fun_induction piecesFrom pending cs with
  | case1 pending => exact absurd h (hchars pending)
  | case2 pending c rest hopen ih =>
      have hmore := (List.mem_append.1 h).resolve_left (hchars pending)
      exact ih (by simp [Lexer.Unbraced]) hmore
  | case3 c rest hopen ih =>
      exact ih hnothing (by simpa using h)
  | case4 c rest hopen read hclose hempty ih =>
      exact ih hnothing (by simpa using h)
  | case5 c rest hopen read hclose hempty ih =>
      rcases List.mem_cons.1 h with heq | hmore
      · cases heq
        exact ⟨by simpa using hempty, fun d hd => hpending read rfl d (List.mem_reverse.1 hd)⟩
      · exact ih hnothing hmore
  | case6 c rest hopen read hclose ih =>
      refine ih ?_ h
      rintro _ ⟨⟩ d hd
      rcases List.mem_cons.1 hd with rfl | hd
      · exact ⟨by simpa using hopen, by simpa using hclose⟩
      · exact hpending read rfl d hd

/-- Pieces without a placeholder are the characters of their text. -/
theorem eq_chars_of_forall {found : List Piece} (h : ∀ piece ∈ found, ∃ c, piece = .char c) :
    found = (found.flatMap Piece.source).map Piece.char := by
  induction found with
  | nil => rfl
  | cons piece found ih =>
      obtain ⟨⟨c, rfl⟩, hrest⟩ := List.forall_mem_cons.1 h
      rw [List.flatMap_cons, Piece.source, List.map_append, ← ih hrest]
      rfl

/-- In a fragment the scanner finds nothing: a placeholder that it found would stand there. -/
theorem piecesFrom_fragment (h : IsFragment cs) : piecesFrom none cs = cs.map Piece.char := by
  have hsource : (piecesFrom none cs).flatMap Piece.source = cs := source_piecesFrom none cs
  have hchars : ∀ piece ∈ piecesFrom none cs, ∃ c, piece = .char c := by
    intro piece hpiece
    cases piece with
    | char c => exact ⟨c, rfl⟩
    | placeholder body =>
        obtain ⟨hne, hplain⟩ := of_mem_piecesFrom (by simp) hpiece
        obtain ⟨before, after, hsplit⟩ := List.append_of_mem hpiece
        rw [hsplit, List.flatMap_append, List.flatMap_cons] at hsource
        exact absurd ⟨_, _, (List.append_assoc _ _ _).trans hsource⟩
          (h _ _ ⟨body, hne, hplain, rfl, rfl⟩)
  rw [eq_chars_of_forall hchars, hsource]

/-- A placeholder is found behind whatever is before it. -/
theorem piecesFrom_placeholder (hplaceholder : IsPlaceholder path placeholder)
    (cs rest : List Char) :
    piecesFrom none (cs ++ (placeholder ++ rest)) =
      piecesFrom none cs ++ .placeholder (Lexer.inner placeholder) :: piecesFrom none rest := by
  obtain ⟨body, hne, hplain, rfl, -⟩ := hplaceholder
  obtain ⟨found, after, hfound⟩ := piecesFrom_append none cs
  have hall : piecesFrom none cs = found ++ unfinished after := by
    rw [← piecesFrom, ← hfound, List.append_nil]
  rw [hfound, Lexer.inner_append, List.cons_append, List.append_assoc, List.singleton_append,
    piecesFrom_field hne hplain, hall, List.append_assoc]

/-- The pieces of a cut: the characters of the fragments, with the placeholders between them. -/
def cutPieces (fragments placeholders : List (List Char)) : List Piece :=
  weave (fragments.map (·.map Piece.char))
    (placeholders.map fun placeholder => [.placeholder (Lexer.inner placeholder)])

@[simp] theorem cutPieces_singleton (fragment : List Char) :
    cutPieces [fragment] [] = fragment.map Piece.char := by
  simp [cutPieces, weave]

@[simp] theorem cutPieces_cons (fragment placeholder : List Char)
    (fragments placeholders : List (List Char)) :
    cutPieces (fragment :: fragments) (placeholder :: placeholders) =
      fragment.map Piece.char ++
        .placeholder (Lexer.inner placeholder) :: cutPieces fragments placeholders := rfl

/-- The scanner finds the pieces of every cut. -/
theorem pieces_of_isCut (h : IsCut cs paths fragments placeholders) :
    piecesFrom none cs = cutPieces fragments placeholders := by
  rw [← h.text_eq]
  refine h.induction_front (motive := fun _ fragments placeholders =>
    piecesFrom none (weave fragments placeholders) = cutPieces fragments placeholders) ?_ ?_
  · intro fragment hfragment
    simpa [weave] using piecesFrom_fragment hfragment
  · intro path paths fragment fragments placeholder placeholders hfragment hplaceholder hrest
    rw [weave, piecesFrom_placeholder hplaceholder, piecesFrom_fragment hfragment, hrest,
      cutPieces_cons]

/-! ## What is read off a cut -/

/-- The runs of characters between placeholders. -/
def runs : List Piece → List (List Char)
  | [] => [[]]
  | .char c :: rest => (runs rest).modifyHead (c :: ·)
  | .placeholder _ :: rest => [] :: runs rest

/-- The texts of the placeholders. -/
def placeholderSource? : Piece → Option (List Char)
  | .char _ => none
  | .placeholder body => some (Piece.source (.placeholder body))

theorem runs_chars (cs : List Char) (rest : List Piece) :
    runs (cs.map Piece.char ++ rest) = (runs rest).modifyHead (cs ++ ·) := by
  induction cs with
  | nil => cases hruns : runs rest <;> simp [hruns]
  | cons c cs ih =>
      rw [List.map_cons, List.cons_append, runs, ih, List.modifyHead_modifyHead]
      rfl

theorem source_inner (h : IsPlaceholder path placeholder) :
    Piece.source (.placeholder (Lexer.inner placeholder)) = placeholder ∧
      Piece.path? (.placeholder (Lexer.inner placeholder)) = some path := by
  obtain ⟨body, -, -, rfl, rfl⟩ := h
  rw [Lexer.inner_append]
  exact ⟨rfl, rfl⟩

/-- The cut of a text can be read off its pieces. -/
theorem of_cutPieces (h : IsCut cs paths fragments placeholders) :
    (cutPieces fragments placeholders).filterMap Piece.path? = paths ∧
      runs (cutPieces fragments placeholders) = fragments ∧
      (cutPieces fragments placeholders).filterMap placeholderSource? = placeholders := by
  have hchars (cs : List Char) : (cs.map Piece.char).filterMap Piece.path? = [] ∧
      (cs.map Piece.char).filterMap placeholderSource? = [] := by
    simp [Piece.path?, placeholderSource?]
  refine h.induction_front (motive := fun paths fragments placeholders =>
    (cutPieces fragments placeholders).filterMap Piece.path? = paths ∧
      runs (cutPieces fragments placeholders) = fragments ∧
      (cutPieces fragments placeholders).filterMap placeholderSource? = placeholders) ?_ ?_
  · intro fragment hfragment
    have hruns := runs_chars fragment []
    rw [List.append_nil] at hruns
    simp [hchars, hruns, runs]
  · rintro path paths fragment fragments placeholder placeholders hfragment hplaceholder
      ⟨hpaths, hruns, hsources⟩
    obtain ⟨hsource, hpath⟩ := source_inner hplaceholder
    rw [cutPieces_cons, runs_chars, runs, hruns]
    simp [hchars, placeholderSource?, hpaths, hsource, hpath, hsources]

/-- A text has one cut. -/
theorem IsCut.unique (h : IsCut cs paths fragments placeholders)
    (h' : IsCut cs more fragments' placeholders') :
    more = paths ∧ fragments' = fragments ∧ placeholders' = placeholders := by
  have hpieces := (pieces_of_isCut h').symm.trans (pieces_of_isCut h)
  obtain ⟨hpaths, hruns, hsources⟩ := of_cutPieces h
  obtain ⟨hpaths', hruns', hsources'⟩ := of_cutPieces h'
  rw [hpieces] at hpaths' hruns' hsources'
  exact ⟨hpaths'.symm.trans hpaths, hruns'.symm.trans hruns, hsources'.symm.trans hsources⟩

/-! ## Filling a cut -/

/-- The text that stands for a path: that of its value, from the extra values if there is one, or
else from the record, and a fixed one if there is none. -/
inductive Shows (record : Value) (extra : Members) (path : String) : String → Prop where
  | extra {s : String} (hset : (extra.get path).isNull = false)
      (hs : (extra.get path).plain = .ok s) : Shows record extra path s
  | record {v : Value} {s : String} (hunset : extra.get path = .null)
      (hv : record.resolve path = .ok v) (hsome : v.isNull = false) (hs : v.plain = .ok s) :
      Shows record extra path s
  | undefined (hunset : extra.get path = .null) (hv : record.resolve path = .ok .null) :
      Shows record extra path "(undefined)"

variable {record : Value} {extra : Members} {pieces pieces' : List Piece}

/-- The text that some pieces are filled to. -/
def Fills (record : Value) (extra : Members) (pieces : List Piece) (cs : List Char) : Prop :=
  ∃ parts, pieces.mapM (fillPiece record extra) = .ok parts ∧ parts.flatten = cs

theorem fill_eq_ok_iff {template result : String} :
    fill template record extra = .ok result ↔
      ∃ cs, Fills record extra (Template.pieces template) cs ∧ result = String.ofList cs := by
  rw [fill, Result.bind_eq_ok]
  constructor
  · rintro ⟨parts, hparts, ⟨⟩⟩
    exact ⟨_, ⟨parts, hparts, rfl⟩, rfl⟩
  · rintro ⟨_, ⟨parts, hparts, rfl⟩, rfl⟩
    exact ⟨parts, hparts, rfl⟩

theorem fills_append : Fills record extra (pieces ++ pieces') cs ↔
    ∃ first last, Fills record extra pieces first ∧ Fills record extra pieces' last ∧
      cs = first ++ last := by
  constructor
  · rintro ⟨parts, hparts, rfl⟩
    obtain ⟨first, last, hfirst, hlast, rfl⟩ := Result.mapM_append_eq_ok.1 hparts
    exact ⟨_, _, ⟨first, hfirst, rfl⟩, ⟨last, hlast, rfl⟩, List.flatten_append⟩
  · rintro ⟨_, _, ⟨first, hfirst, rfl⟩, ⟨last, hlast, rfl⟩, rfl⟩
    exact ⟨_, Result.mapM_append_eq_ok.2 ⟨first, last, hfirst, hlast, rfl⟩, List.flatten_append⟩

theorem fills_chars {fragment : List Char} :
    Fills record extra (fragment.map Piece.char) cs ↔ cs = fragment := by
  have hfill : (fragment.map Piece.char).mapM (fillPiece record extra) =
      .ok (fragment.map ([·])) := by
    rw [List.mapM_map]
    exact Result.mapM_eq_ok_map fun c hc => rfl
  have hflat : (fragment.map ([·])).flatten = fragment := by
    rw [← List.flatMap_def, List.flatMap_singleton']
  constructor
  · rintro ⟨parts, hparts, rfl⟩
    rw [hfill] at hparts
    obtain rfl := Except.ok.inj hparts
    exact hflat
  · rintro rfl
    exact ⟨_, hfill, hflat⟩

/-- A placeholder is filled with the text that stands for its path. -/
theorem fillPiece_eq_ok_iff {body : List Char} :
    fillPiece record extra (.placeholder body) = .ok cs ↔
      ∃ s, Shows record extra (String.ofList (trimBlanks body)) s ∧ cs = s.toList := by
  rw [fillPiece]
  generalize String.ofList (trimBlanks body) = path
  constructor
  · intro h
    obtain ⟨v, hv, h⟩ := Result.bind_eq_ok.1 h
    have hshown (hsome : v.isNull = false) : ∃ s, v.plain = .ok s ∧ cs = s.toList := by
      rw [hsome] at h
      obtain ⟨s, hs, ⟨⟩⟩ := Result.bind_eq_ok.1 h
      exact ⟨s, hs, rfl⟩
    cases hset : extra.get path with
    | null =>
        simp only [valueOf, hset] at hv
        cases v with
        | null => exact ⟨_, .undefined hset hv, (Except.ok.inj h).symm⟩
        | _ =>
            obtain ⟨s, hs, hcs⟩ := hshown rfl
            exact ⟨s, .record hset hv rfl hs, hcs⟩
    | _ =>
        simp only [valueOf, hset] at hv
        cases hv
        obtain ⟨s, hs, hcs⟩ := hshown rfl
        rw [← hset] at hs
        exact ⟨s, .extra (by rw [hset]; rfl) hs, hcs⟩
  · rintro ⟨s, hshows, rfl⟩
    cases hshows with
    | extra hset hs =>
        have hvalue : valueOf record extra path = .ok (extra.get path) := by
          rw [valueOf]
          split
          · rename_i hnull
            rw [hnull] at hset
            cases hset
          · rfl
        rw [hvalue, Result.ok_bind, hset, hs]
        rfl
    | record hunset hv hsome hs =>
        rw [valueOf, hunset, hv, Result.ok_bind, hsome, hs]
        rfl
    | undefined hunset hv =>
        rw [valueOf, hunset, hv]
        rfl

theorem fills_placeholder (h : IsPlaceholder path placeholder) :
    Fills record extra [.placeholder (Lexer.inner placeholder)] cs ↔
      ∃ s, Shows record extra path s ∧ cs = s.toList := by
  obtain ⟨body, -, -, rfl, rfl⟩ := h
  rw [Lexer.inner_append, ← fillPiece_eq_ok_iff]
  constructor
  · rintro ⟨parts, hparts, rfl⟩
    obtain ⟨part, rfl⟩ := List.length_eq_one_iff.1 (Result.length_of_mapM_eq_ok hparts)
    obtain ⟨hpart, -⟩ := List.cons.inj (Result.mapM_eq_ok_iff.1 hparts)
    rw [hpart, List.flatten_singleton]
  · intro hpart
    refine ⟨[cs], Result.mapM_eq_ok_iff.2 ?_, List.flatten_singleton⟩
    rw [List.map_singleton, List.map_singleton, hpart]

/-- The pieces of a cut are filled to its fragments, with the texts of the paths between them. -/
theorem fills_cutPieces (h : IsCut ds paths fragments placeholders) :
    Fills record extra (cutPieces fragments placeholders) cs ↔
      ∃ texts, List.Forall₂ (Shows record extra) paths texts ∧
        cs = weave fragments (texts.map String.toList) := by
  refine h.induction_front (motive := fun paths fragments placeholders => ∀ cs,
    Fills record extra (cutPieces fragments placeholders) cs ↔
      ∃ texts, List.Forall₂ (Shows record extra) paths texts ∧
        cs = weave fragments (texts.map String.toList)) ?_ ?_ cs
  · intro fragment hfragment cs
    rw [cutPieces_singleton, fills_chars]
    simp [weave]
  · intro path paths fragment fragments placeholder placeholders hfragment hplaceholder hrest cs
    have hpieces : cutPieces (fragment :: fragments) (placeholder :: placeholders) =
        fragment.map Piece.char ++ ([.placeholder (Lexer.inner placeholder)] ++
          cutPieces fragments placeholders) := rfl
    simp only [hpieces, fills_append, fills_chars, fills_placeholder hplaceholder, hrest,
      List.forall₂_cons_left_iff]
    constructor
    · rintro ⟨_, _, rfl, ⟨_, _, ⟨s, hs, rfl⟩, ⟨texts, htexts, rfl⟩, rfl⟩, rfl⟩
      exact ⟨s :: texts, ⟨s, texts, hs, htexts, rfl⟩, rfl⟩
    · rintro ⟨_, ⟨s, texts, hs, htexts, rfl⟩, rfl⟩
      exact ⟨_, _, rfl, ⟨_, _, ⟨s, hs, rfl⟩, ⟨texts, htexts, rfl⟩, rfl⟩, rfl⟩

end Template

open Template in
/--
**A filled template keeps its fragments.** A template has one cut into fragments without a
placeholder, one more than it has references, and a placeholder for each reference in order
between them. It can be filled exactly if each reference has a text, and then the fragments are as
they were, with the text of each reference, whatever is in it, in place of its placeholder.
-/
theorem fill_keeps_fragments (template : String) :
    ∃ fragments placeholders,
      IsCut template.toList (references template) fragments placeholders ∧
      (∀ paths fragments' placeholders', IsCut template.toList paths fragments' placeholders' →
        paths = references template ∧ fragments' = fragments ∧ placeholders' = placeholders) ∧
      ∀ record extra result, fill template record extra = .ok result ↔
        ∃ texts, List.Forall₂ (Shows record extra) (references template) texts ∧
          result = String.ofList (weave fragments (texts.map String.toList)) := by
  obtain ⟨paths, fragments, placeholders, hcut⟩ := exists_isCut template.toList
  have hpieces : pieces template = cutPieces fragments placeholders := pieces_of_isCut hcut
  obtain rfl : references template = paths := by
    rw [references, hpieces]
    exact (of_cutPieces hcut).1
  refine ⟨fragments, placeholders, hcut, fun _ _ _ => hcut.unique,
    fun record extra result => ?_⟩
  rw [fill_eq_ok_iff, hpieces]
  constructor
  · rintro ⟨cs, hcs, rfl⟩
    obtain ⟨texts, htexts, rfl⟩ := (fills_cutPieces hcut).1 hcs
    exact ⟨texts, htexts, rfl⟩
  · rintro ⟨texts, htexts, rfl⟩
    exact ⟨_, (fills_cutPieces hcut).2 ⟨texts, htexts, rfl⟩, rfl⟩

/-- The braces around a placeholder stay, and so do those that come with a text. -/
example : Template.fill "\x7b\x7b a \x7d\x7d\x7bb" (.object [("a", .text "\x7bb\x7d")]) [] =
    .ok "\x7b\x7bb\x7d\x7d\x7bb" := rfl

end InvoiceReadiness
