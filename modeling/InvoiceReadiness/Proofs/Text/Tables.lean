import InvoiceReadiness.Text.Separated
import Mathlib.Tactic.Push

/-!
# Reading tables back

A reader of separated values goes through a text character by character. Between quotes
it takes everything for a part of the field, and two quotes for one; outside of quotes a
comma ends a field, and a line feed, a carriage return or the two of them together end a
record. A line without any character is a record without fields.

What `Separated.table` writes is read back as the same lines, with one exception: a field
that holds a carriage return, and nothing that calls for quotes, ends its record there.

## Main results

* `recordsFrom_line` — a line is read back as its fields.
* `records_table_eq_iff` — a table is read back as its lines if and only if no field holds
  a carriage return that stands outside of quotes.
-/

namespace InvoiceReadiness.Separated

/-! ## The reader -/

/-- Where a reader stands. -/
inductive Position where
  /-- Before a record. -/
  | lineStart
  /-- Before a record and after a carriage return, to which a line feed may still belong. -/
  | afterReturn
  /-- Before another field of a record. -/
  | fieldStart
  /-- In a field without quotes. -/
  | plain
  /-- Between the quotes of a field. -/
  | quoted
  /-- After a quote that ends the quoted part of a field, or is the first one of two. -/
  | afterQuote
  deriving DecidableEq

def Position.isLineStart : Position → Bool
  | .lineStart => true
  | .afterReturn => true
  | _ => false

/-- The record that ends at a position; before the first character there is no field. -/
def recordAt (position : Position) (done : List String) (part : List Char) : List String :=
  if position.isLineStart then [] else done ++ [String.ofList part]

/--
The records that a text holds from a position on, where `done` are the fields already read
of the record and `part` are the characters already read of the field.
-/
def recordsFrom : Position → List String → List Char → List Char → List (List String)
  | position, done, part, [] =>
    if position.isLineStart then [] else [recordAt position done part]
  | .quoted, done, part, c :: rest =>
    if c = '"' then recordsFrom .afterQuote done part rest
    else recordsFrom .quoted done (part ++ [c]) rest
  | position, done, part, c :: rest =>
    if c = '"' then
      match position with
      | .plain => recordsFrom .plain done (part ++ [c]) rest
      | .afterQuote => recordsFrom .quoted done (part ++ [c]) rest
      | _ => recordsFrom .quoted done part rest
    else if c = ',' then recordsFrom .fieldStart (done ++ [String.ofList part]) [] rest
    else if c = '\r' then recordAt position done part :: recordsFrom .afterReturn [] [] rest
    else if c = '\n' then
      match position with
      | .afterReturn => recordsFrom .lineStart [] [] rest
      | _ => recordAt position done part :: recordsFrom .lineStart [] [] rest
    else recordsFrom .plain done (part ++ [c]) rest

/-- The records that a text holds. -/
def records (s : String) : List (List String) :=
  recordsFrom .lineStart [] [] s.toList

/-! ## What is written, as characters -/

theorem toList_field (f : String) :
    (field f).toList =
      if f.toList.any needsQuotes then '"' :: doubled f.toList ++ ['"'] else f.toList := by
  unfold field
  split <;> simp

/-- The characters of a line. -/
def lineChars : List String → List Char
  | [] => ['\n']
  | [f] => (field f).toList ++ ['\n']
  | f :: rest => (field f).toList ++ ',' :: lineChars rest

theorem toList_line (fields : List String) : (line fields).toList = lineChars fields := by
  have hjoin : ∀ f rest, [','].intercalate (((f :: rest).map field).map String.toList) ++ ['\n'] =
      lineChars (f :: rest) := by
    intro f rest
    induction rest generalizing f with
    | nil => simp [lineChars, List.intercalate]
    | cons g more ih =>
        rw [lineChars, ← ih g]
        · simp [List.intercalate]
        · simp
  cases fields with
  | nil => rfl
  | cons f rest =>
      rw [← hjoin, line, String.toList_append, String.toList_intercalate]
      rfl

theorem toList_table (lines : List (List String)) :
    (table lines).toList = lines.flatMap lineChars := by
  unfold table
  induction lines with
  | nil => rfl
  | cons first rest ih =>
      rw [List.map_cons, String.join_cons, String.toList_append, toList_line, ih,
        List.flatMap_cons]

/-! ## Reading a field -/

variable {done : List String} {part rest : List Char} {position : Position}

/-- In a field without quotes, what ends no field is taken as it stands. -/
theorem recordsFrom_plain {s : List Char}
    (hs : ∀ c ∈ s, c ≠ ',' ∧ c ≠ '\r' ∧ c ≠ '\n') :
    recordsFrom .plain done part (s ++ rest) =
      recordsFrom .plain done (part ++ s) rest := by
  induction s generalizing part with
  | nil => simp
  | cons c more ih =>
      obtain ⟨hc, hmore⟩ := List.forall_mem_cons.1 hs
      have hstep : recordsFrom .plain done part (c :: (more ++ rest)) =
          recordsFrom .plain done (part ++ [c]) (more ++ rest) := by
        simp [recordsFrom, hc]
      rw [List.cons_append, hstep, ih hmore, List.append_assoc, List.singleton_append]

/-- Between quotes a doubled text is read as the text, up to the closing quote. -/
theorem recordsFrom_doubled (s : List Char) :
    recordsFrom .quoted done part (doubled s ++ '"' :: rest) =
      recordsFrom .afterQuote done (part ++ s) rest := by
  induction s generalizing part with
  | nil => simp [doubled, recordsFrom]
  | cons c more ih =>
      by_cases hc : c = '"'
      · have hstep : recordsFrom .quoted done part (doubled (c :: more) ++ '"' :: rest) =
            recordsFrom .quoted done (part ++ ['"']) (doubled more ++ '"' :: rest) := by
          simp [doubled, recordsFrom, hc]
        rw [hstep, ih, hc, List.append_assoc, List.singleton_append]
      · have hstep : recordsFrom .quoted done part (doubled (c :: more) ++ '"' :: rest) =
            recordsFrom .quoted done (part ++ [c]) (doubled more ++ '"' :: rest) := by
          simp [doubled, recordsFrom, hc]
        rw [hstep, ih, List.append_assoc, List.singleton_append]

/-- A field that holds a carriage return and is written without quotes. -/
def IsBroken (f : String) : Prop :=
  '\r' ∈ f.toList ∧ ∀ c ∈ f.toList, ¬needsQuotes c

instance : DecidablePred IsBroken := fun f =>
  inferInstanceAs (Decidable ('\r' ∈ f.toList ∧ ∀ c ∈ f.toList, ¬needsQuotes c))

/-- The positions before a field at which `table` begins to write one. -/
def Position.OpensField (position : Position) : Prop :=
  position = .lineStart ∨ position = .fieldStart

theorem not_needsQuotes {c : Char} (h : ¬needsQuotes c) : c ≠ ',' ∧ c ≠ '"' ∧ c ≠ '\n' := by
  simpa [needsQuotes, and_assoc] using h

/-- Before a field, a run of characters that ask for no quotes opens one and is taken as it
stands, up to a carriage return. -/
theorem recordsFrom_opened {c : Char} {s : List Char} (hposition : position.OpensField)
    (hrun : ∀ d ∈ c :: s, ¬needsQuotes d ∧ d ≠ '\r') (rest : List Char) :
    recordsFrom position done [] (c :: s ++ rest) = recordsFrom .plain done (c :: s) rest := by
  obtain ⟨⟨hneeds, hreturn⟩, hmore⟩ := List.forall_mem_cons.1 hrun
  obtain ⟨hcomma, hquote, hfeed⟩ := not_needsQuotes hneeds
  have hopen : recordsFrom position done [] (c :: (s ++ rest)) =
      recordsFrom .plain done [c] (s ++ rest) := by
    rcases hposition with rfl | rfl <;> simp [recordsFrom, hcomma, hquote, hfeed, hreturn]
  have hplain : ∀ d ∈ s, d ≠ ',' ∧ d ≠ '\r' ∧ d ≠ '\n' := by
    intro d hd
    obtain ⟨hneeds, hreturn⟩ := hmore d hd
    obtain ⟨hcomma, -, hfeed⟩ := not_needsQuotes hneeds
    exact ⟨hcomma, hreturn, hfeed⟩
  rw [List.cons_append, hopen, recordsFrom_plain hplain, List.singleton_append]

/-- A field that is not broken is read to its end; an empty one leaves the reader where it
is, and any other one leaves it inside of the record. -/
theorem exists_recordsFrom_field (done : List String) {f : String}
    (hposition : position.OpensField) (hf : ¬IsBroken f) :
    ∃ after, (after = position ∧ f = "" ∨ after = .plain ∨ after = .afterQuote) ∧
      ∀ rest, recordsFrom position done [] ((field f).toList ++ rest) =
        recordsFrom after done f.toList rest := by
  rw [toList_field]
  by_cases hquotes : f.toList.any needsQuotes
  · refine ⟨.afterQuote, .inr (.inr rfl), fun rest => ?_⟩
    have hopen : recordsFrom position done [] ('"' :: (doubled f.toList ++ '"' :: rest)) =
        recordsFrom .quoted done [] (doubled f.toList ++ '"' :: rest) := by
      rcases hposition with rfl | rfl <;> simp [recordsFrom]
    rw [if_pos hquotes, List.append_assoc, List.cons_append, List.singleton_append, hopen,
      recordsFrom_doubled, List.nil_append]
  · rw [if_neg hquotes]
    rw [List.any_eq_true] at hquotes
    push Not at hquotes
    have hrun : ∀ c ∈ f.toList, ¬needsQuotes c ∧ c ≠ '\r' := by
      refine fun c hc => ⟨hquotes c hc, ?_⟩
      rintro rfl
      exact hf ⟨hc, hquotes⟩
    cases hchars : f.toList with
    | nil =>
        have hempty : f = "" := String.toList_eq_nil_iff.1 hchars
        exact ⟨position, .inl ⟨rfl, hempty⟩, fun rest => rfl⟩
    | cons c more =>
        rw [hchars] at hrun
        exact ⟨.plain, .inr (.inl rfl), recordsFrom_opened hposition hrun⟩

/-- A comma after a field that is not broken ends the field. -/
theorem recordsFrom_field_comma {f : String} (hposition : position.OpensField)
    (hf : ¬IsBroken f) :
    recordsFrom position done [] ((field f).toList ++ ',' :: rest) =
      recordsFrom .fieldStart (done ++ [f]) [] rest := by
  obtain ⟨after, hafter, hread⟩ := exists_recordsFrom_field done hposition hf
  have hcomma : recordsFrom after done f.toList (',' :: rest) =
      recordsFrom .fieldStart (done ++ [String.ofList f.toList]) [] rest := by
    rcases hafter with ⟨rfl, -⟩ | rfl | rfl
    · rcases hposition with rfl | rfl <;> simp [recordsFrom]
    · simp [recordsFrom]
    · simp [recordsFrom]
  rw [hread, hcomma, String.ofList_toList]

/-- A line feed after the last field of several ends the record. -/
theorem recordsFrom_field_lineFeed {f : String} (hf : ¬IsBroken f) :
    recordsFrom .fieldStart done [] ((field f).toList ++ '\n' :: rest) =
      (done ++ [f]) :: recordsFrom .lineStart [] [] rest := by
  obtain ⟨after, hafter, hread⟩ := exists_recordsFrom_field done (.inr rfl) hf
  have hfeed : recordsFrom after done f.toList ('\n' :: rest) =
      (done ++ [String.ofList f.toList]) :: recordsFrom .lineStart [] [] rest := by
    rcases hafter with ⟨rfl, -⟩ | rfl | rfl <;>
      simp [recordsFrom, recordAt, Position.isLineStart]
  rw [hread, hfeed, String.ofList_toList]

/-- A broken field ends its record too early: with a part of the field, or with nothing at
all if the record has only just begun. -/
theorem exists_recordsFrom_broken {f : String} (hposition : position.OpensField)
    (hf : IsBroken f) (fields : List String) (rest : List Char) :
    ∃ early more, recordsFrom position done [] ((field f).toList ++ rest) = early :: more ∧
      early ≠ done ++ f :: fields := by
  obtain ⟨hreturn, hquotes⟩ := hf
  have hwritten : (field f).toList = f.toList := by
    rw [toList_field, if_neg]
    simpa using hquotes
  obtain ⟨before, after, hsplit, hbefore⟩ := List.eq_append_cons_of_mem hreturn
  have hpart : f ≠ String.ofList before := by
    intro heq
    apply hbefore
    rw [heq, String.toList_ofList] at hreturn
    exact hreturn
  rw [hwritten, hsplit, List.append_assoc, List.cons_append]
  rw [hsplit] at hquotes
  cases before with
  | nil =>
      have hread : recordsFrom position done [] ('\r' :: (after ++ rest)) =
          recordAt position done [] :: recordsFrom .afterReturn [] [] (after ++ rest) := by
        rcases hposition with rfl | rfl <;> simp [recordsFrom]
      refine ⟨_, _, hread, ?_⟩
      rcases hposition with rfl | rfl
      · simp [recordAt, Position.isLineStart]
      · intro heq
        have hlast := List.append_cancel_left heq
        exact hpart (List.cons.inj hlast).1.symm
  | cons c more =>
      have hread : recordsFrom position done [] (c :: more ++ '\r' :: (after ++ rest)) =
          (done ++ [String.ofList (c :: more)]) ::
            recordsFrom .afterReturn [] [] (after ++ rest) := by
        have hrun : ∀ d ∈ c :: more, ¬needsQuotes d ∧ d ≠ '\r' := by
          refine fun d hd => ⟨hquotes d (List.mem_append_left _ hd), ?_⟩
          rintro rfl
          exact hbefore hd
        rw [recordsFrom_opened hposition hrun]
        simp [recordsFrom, recordAt, Position.isLineStart]
      refine ⟨_, _, hread, ?_⟩
      intro heq
      have hlast := List.append_cancel_left heq
      exact hpart (List.cons.inj hlast).1.symm

/-! ## Reading a line -/

/-- Before a field that is not the first of its record, the fields that are left of a line
are read to its end. -/
theorem recordsFrom_restOfLine {fields : List String} (hne : fields ≠ [])
    (hfields : ∀ f ∈ fields, ¬IsBroken f) :
    recordsFrom .fieldStart done [] (lineChars fields ++ rest) =
      (done ++ fields) :: recordsFrom .lineStart [] [] rest := by
  induction fields generalizing done with
  | nil => exact absurd rfl hne
  | cons f more ih =>
      obtain ⟨hf, hmore⟩ := List.forall_mem_cons.1 hfields
      cases more with
      | nil =>
          rw [lineChars, List.append_assoc, List.singleton_append,
            recordsFrom_field_lineFeed hf]
      | cons g others =>
          have hrest : recordsFrom .fieldStart (done ++ [f]) []
                (lineChars (g :: others) ++ rest) =
              (done ++ [f] ++ g :: others) :: recordsFrom .lineStart [] [] rest :=
            ih (by simp) hmore
          rw [lineChars, List.append_assoc, List.cons_append,
            recordsFrom_field_comma (.inr rfl) hf, hrest, List.append_assoc,
            List.singleton_append]
          simp

/-- A line of several fields is read back as its fields if none of them is broken. -/
theorem recordsFrom_line {fields : List String} (hlength : 2 ≤ fields.length)
    (hfields : ∀ f ∈ fields, ¬IsBroken f) :
    recordsFrom .lineStart [] [] (lineChars fields ++ rest) =
      fields :: recordsFrom .lineStart [] [] rest := by
  match fields with
  | [] => simp at hlength
  | [f] => simp at hlength
  | f :: g :: others =>
      obtain ⟨hf, hmore⟩ := List.forall_mem_cons.1 hfields
      have hrest : recordsFrom .fieldStart [f] [] (lineChars (g :: others) ++ rest) =
          ([f] ++ g :: others) :: recordsFrom .lineStart [] [] rest :=
        recordsFrom_restOfLine (by simp) hmore
      rw [lineChars, List.append_assoc, List.cons_append,
        recordsFrom_field_comma (.inl rfl) hf, List.nil_append, hrest]
      · rfl
      · simp

/-- A line with a broken field is read back as another record first. -/
theorem exists_recordsFrom_line (done : List String) (rest : List Char)
    {fields : List String} (hposition : position.OpensField)
    (hbroken : ∃ f ∈ fields, IsBroken f) :
    ∃ early more, recordsFrom position done [] (lineChars fields ++ rest) = early :: more ∧
      early ≠ done ++ fields := by
  induction fields generalizing position done with
  | nil => simp at hbroken
  | cons f others ih =>
      by_cases hf : IsBroken f
      · have hwritten : ∃ tail, lineChars (f :: others) ++ rest = (field f).toList ++ tail := by
          cases others with
          | nil => exact ⟨_, by rw [lineChars, List.append_assoc]⟩
          | cons g more => exact ⟨_, by rw [lineChars, List.append_assoc]; simp⟩
        obtain ⟨tail, htail⟩ := hwritten
        rw [htail]
        exact exists_recordsFrom_broken hposition hf others tail
      · have hothers : ∃ g ∈ others, IsBroken g := by
          obtain ⟨g, hg, hbroken⟩ := hbroken
          rcases List.mem_cons.1 hg with rfl | hg
          · exact absurd hbroken hf
          · exact ⟨g, hg, hbroken⟩
        cases others with
        | nil => simp at hothers
        | cons g more =>
            obtain ⟨early, after, hread, hne⟩ := ih (done ++ [f]) (.inr rfl) hothers
            refine ⟨early, after, ?_, ?_⟩
            · rw [lineChars, List.append_assoc, List.cons_append,
                recordsFrom_field_comma hposition hf, hread]
              simp
            · rwa [List.append_assoc, List.singleton_append] at hne

/-! ## Reading a table -/

/-- A table whose lines have several fields is read back as its lines if and only if none
of its fields is broken. -/
theorem records_table_eq_iff {lines : List (List String)}
    (hlength : ∀ fields ∈ lines, 2 ≤ fields.length) :
    records (table lines) = lines ↔ ∀ fields ∈ lines, ∀ f ∈ fields, ¬IsBroken f := by
  rw [records, toList_table]
  induction lines with
  | nil => simp [recordsFrom, Position.isLineStart]
  | cons fields others ih =>
      obtain ⟨hfields, hothers⟩ := List.forall_mem_cons.1 hlength
      rw [List.flatMap_cons, List.forall_mem_cons]
      by_cases hbroken : ∃ f ∈ fields, IsBroken f
      · obtain ⟨early, more, hread, hne⟩ :=
          exists_recordsFrom_line [] (others.flatMap lineChars) (.inl rfl) hbroken
        rw [hread]
        constructor
        · intro heq
          exact absurd (List.cons.inj heq).1 hne
        · intro hall
          obtain ⟨f, hf, hbroken⟩ := hbroken
          exact absurd hbroken (hall.1 f hf)
      · push Not at hbroken
        rw [recordsFrom_line hfields hbroken, List.cons.injEq, ih hothers]
        exact and_congr_left fun _ => iff_of_true rfl hbroken

end InvoiceReadiness.Separated
