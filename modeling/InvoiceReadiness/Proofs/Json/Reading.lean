import InvoiceReadiness.Json.Reader
import InvoiceReadiness.Proofs.Expression.Tokens
import InvoiceReadiness.Proofs.Value.Showing

/-!
# What a reader of JSON text comes to

A reader walks through a text once. Whatever it takes off the head of a text, it leaves
an end of it, and whatever it fails with has its cause in the text: the text is no JSON,
a run of digits is longer than the reader allows, or more brackets are opened than it
goes into. A value that it takes can be shown, since its whole numbers keep to the limit.

The three functions of the reader call each other, so these facts are carried by one
induction on the steps that are left (`reads`).

## Main results

* `read_fails` — why a text cannot be read.
* `withinDigits_of_read` — a value that was read can be shown.
-/

namespace InvoiceReadiness.Json

/-! ## What is left of a text -/

theorem suffix_skipSpace (cs : List Char) : skipSpace cs <:+ cs :=
  List.dropWhile_suffix _

theorem suffix_of_takeUnit? {cs rest : List Char} {unit : Nat}
    (h : takeUnit? cs = some (unit, rest)) : rest <:+ cs := by
  unfold takeUnit? at h
  split at h
  · rename_i a b c d tail
    simp only [Option.bind_eq_bind, Option.bind_eq_some_iff, Option.pure_def,
      Option.some.injEq, Prod.mk.injEq] at h
    obtain ⟨_, -, _, -, _, -, _, -, -, rfl⟩ := h
    exact List.suffix_append [a, b, c, d] tail
  · cases h

theorem suffix_of_takeCoded? {cs rest : List Char} {c : Char}
    (h : takeCoded? cs = some (c, rest)) : rest <:+ cs := by
  unfold takeCoded? at h
  obtain ⟨⟨unit, after⟩, hunit, h⟩ := Option.bind_eq_some_iff.1 h
  have hafter := suffix_of_takeUnit? hunit
  have rest_eq {d : Char} {left : List Char} (h : some (d, left) = some (c, rest)) :
      left = rest := (Prod.mk.inj (Option.some.inj h)).2
  dsimp only at h
  split at h
  · split at h
    · rename_i more
      have hmore : more <:+ cs := (List.suffix_append ['\\', 'u'] more).trans hafter
      split at h
      · rename_i low last hlow
        split at h
        · rw [← rest_eq h]
          exact (suffix_of_takeUnit? hlow).trans hmore
        · rwa [← rest_eq h]
      · rwa [← rest_eq h]
    · rwa [← rest_eq h]
  · split at h
    · rwa [← rest_eq h]
    · rwa [← rest_eq h]

theorem suffix_of_takeText? {steps : Nat} {taken cs rest : List Char} {s : String}
    (h : takeText? steps taken cs = some (s, rest)) : rest <:+ cs := by
  induction steps generalizing taken cs with
  | zero => cases h
  | succ steps ih =>
      cases cs with
      | nil => cases h
      | cons c tail =>
          unfold takeText? at h
          by_cases hquote : c == '"'
          · rw [if_pos hquote] at h
            cases h
            exact List.suffix_cons c _
          rw [if_neg hquote] at h
          by_cases hescape : c == '\\'
          · rw [if_pos hescape] at h
            split at h
            · cases h
            · rename_i digits
              obtain ⟨⟨coded, after⟩, hcoded, h⟩ := Option.bind_eq_some_iff.1 h
              have hdigits : digits <:+ c :: 'u' :: digits := List.suffix_append [c, 'u'] digits
              exact ((ih h).trans (suffix_of_takeCoded? hcoded)).trans hdigits
            · rename_i letter after _
              obtain ⟨escaped, -, h⟩ := Option.bind_eq_some_iff.1 h
              exact (ih h).trans (List.suffix_append [c, letter] after)
          rw [if_neg hescape] at h
          split at h
          · cases h
          · exact (ih h).trans (List.suffix_cons c tail)

theorem suffix_takeMinus (cs : List Char) : (takeMinus cs).2 <:+ cs := by
  unfold takeMinus
  split
  · exact List.suffix_cons _ _
  · exact List.suffix_refl _

theorem suffix_takeFraction (cs : List Char) : (takeFraction cs).2 <:+ cs := by
  unfold takeFraction
  split
  · rename_i rest
    dsimp only
    split
    · exact List.suffix_refl _
    · exact (List.dropWhile_suffix _).trans (List.suffix_cons '.' rest)
  · exact List.suffix_refl _

theorem suffix_takeSign (cs : List Char) : (takeSign cs).2 <:+ cs := by
  unfold takeSign
  split
  · exact List.suffix_cons _ _
  · exact List.suffix_cons _ _
  · exact List.suffix_refl _

theorem suffix_takeExponent (cs : List Char) : (takeExponent cs).2 <:+ cs := by
  unfold takeExponent
  split
  · rename_i c rest
    split
    · dsimp only
      split
      · exact List.suffix_refl _
      · exact ((List.dropWhile_suffix _).trans (suffix_takeSign rest)).trans
          (List.suffix_cons c rest)
    · exact List.suffix_refl _
  · exact List.suffix_refl _

theorem suffix_of_takeWord? {cs rest : List Char} {v : Value}
    (h : takeWord? cs = some (v, rest)) : rest <:+ cs := by
  obtain ⟨⟨word, value⟩, -, h⟩ := List.exists_of_findSome?_eq_some h
  obtain ⟨after, hafter, heq⟩ := Option.map_eq_some_iff.1 h
  obtain rfl := (Prod.mk.inj heq).2
  unfold after? at hafter
  split at hafter
  · cases hafter
    exact List.drop_suffix _ _
  · cases hafter

/-! ## Why a text cannot be read -/

/-- Whether a character opens a list or an object. -/
def isOpening (c : Char) : Bool := c == '[' || c == '\x7b'

/-- How often a text opens a list or an object. -/
def openings (cs : List Char) : Nat := cs.countP isOpening

/-- Somewhere in a text there are more digits in a row than a reader allows. -/
def HasLongRun (limits : Limits) (cs : List Char) : Prop :=
  ∃ run, run <:+: cs ∧ run.all isAsciiDigit ∧ limits.digits < run.length

/-- Why a text cannot be read that stands inside of `depth` lists and objects. -/
inductive Stops (limits : Limits) (depth : Nat) (cs : List Char) : Fault → Prop where
  | malformed : Stops limits depth cs .malformedJson
  | long (h : HasLongRun limits cs) : Stops limits depth cs .digitLimit
  | deep (h : limits.depth < depth + openings cs) : Stops limits depth cs .tooDeep

variable {limits : Limits} {depth : Nat} {cs rest : List Char}

theorem openings_le_of_suffix (h : rest <:+ cs) : openings rest ≤ openings cs :=
  h.sublist.countP_le

/-- What stops a reader in an end of a text stops it in the text. -/
theorem Stops.of_suffix (h : rest <:+ cs) {fault : Fault} (hstops : Stops limits depth rest fault) :
    Stops limits depth cs fault := by
  cases hstops with
  | malformed => exact .malformed
  | long hlong =>
      obtain ⟨run, hrun, hdigits⟩ := hlong
      exact .long ⟨run, hrun.trans h.isInfix, hdigits⟩
  | deep hdeep =>
      have hle := openings_le_of_suffix h
      exact .deep (by omega)

/-- So does what stops it behind a bracket, one level deeper. -/
theorem Stops.of_opened {c : Char} (hc : isOpening c) {fault : Fault}
    (hstops : Stops limits (depth + 1) cs fault) : Stops limits depth (c :: cs) fault := by
  cases hstops with
  | malformed => exact .malformed
  | long hlong => exact Stops.of_suffix (List.suffix_cons c cs) (.long hlong)
  | deep hdeep =>
      have hcount : openings (c :: cs) = openings cs + 1 := List.countP_cons_of_pos hc
      exact .deep (by omega)

/-! ## Numbers -/

theorem wholeDigits_prefix (cs : List Char) : wholeDigits cs <+: cs := by
  unfold wholeDigits
  split
  · exact List.prefix_append ['0'] _
  · exact List.takeWhile_prefix _

theorem all_wholeDigits (cs : List Char) : (wholeDigits cs).all isAsciiDigit := by
  unfold wholeDigits
  split
  · rfl
  · exact List.all_takeWhile

/-- A number that a reader takes keeps to its limit of digits. -/
theorem natAbs_lt_of_digits {digits : List Char} (hdigits : digits.all isAsciiDigit)
    (hlength : digits.length ≤ maxWholeDigits) (negative : Bool) :
    (if negative then -((numberOfDigits (digits.map fun c => c.toNat - 48) : Nat) : Int)
      else ((numberOfDigits (digits.map fun c => c.toNat - 48) : Nat) : Int)).natAbs <
        tenPow maxWholeDigits := by
  have hvalues : ∀ d ∈ digits.map fun c => c.toNat - 48, d < 10 := by
    intro d hd
    obtain ⟨c, hc, rfl⟩ := List.mem_map.1 hd
    have hascii := List.all_eq_true.1 hdigits c hc
    simp only [isAsciiDigit, Bool.and_eq_true, decide_eq_true_eq] at hascii
    omega
  have hlt := Lexer.foldl_digits_lt hvalues 0
  rw [List.length_map, Nat.zero_add, Nat.one_mul] at hlt
  have hbound := Nat.lt_of_lt_of_le hlt (tenPow_le_tenPow hlength)
  cases negative
  · exact hbound
  · rw [if_pos rfl, Int.natAbs_neg]
    exact hbound

/-- What a reader does with the head of a text: it takes something that has a property and
leaves an end of the text, or is stopped by the text. -/
structure Reads {α : Type} (limits : Limits) (depth : Nat) (cs : List Char) (P : α → Prop)
    (r : Result (α × List Char)) : Prop where
  yields : Yields (fun taken => P taken.1 ∧ taken.2 <:+ cs) r
  fails : FailsOnly (Stops limits depth cs) r

namespace Reads

variable {α : Type} {P : α → Prop}

theorem taken {a : α} (ha : P a) (h : rest <:+ cs) : Reads limits depth cs P (.ok (a, rest)) where
  yields := Yields.ok_iff.2 ⟨ha, h⟩
  fails := .ok _ _

theorem stopped {fault : Fault} (h : Stops limits depth cs fault) :
    Reads limits depth cs P (.error fault) where
  yields := Yields.error_iff.2 trivial
  fails := .error h

/-- A reader that starts at an end of the text. -/
theorem of_suffix {r : Result (α × List Char)} (h : rest <:+ cs)
    (hr : Reads limits depth rest P r) : Reads limits depth cs P r where
  yields := fun _ htaken => ⟨(hr.yields htaken).1, (hr.yields htaken).2.trans h⟩
  fails := hr.fails.mono fun _ => Stops.of_suffix h

/-- A reader that starts behind a bracket, one level deeper. -/
theorem of_opened {c : Char} {r : Result (α × List Char)} (hc : isOpening c)
    (hr : Reads limits (depth + 1) cs P r) : Reads limits depth (c :: cs) P r where
  yields := fun _ htaken => ⟨(hr.yields htaken).1, (hr.yields htaken).2.trans (List.suffix_cons c cs)⟩
  fails := hr.fails.mono fun _ => Stops.of_opened hc

/-- A reader goes on with what another one left. -/
theorem bind {β : Type} {Q : β → Prop} {r : Result (α × List Char)}
    {f : α × List Char → Result (β × List Char)} (hr : Reads limits depth cs P r)
    (hf : ∀ a rest, P a → Reads limits depth rest Q (f (a, rest))) :
    Reads limits depth cs Q (r >>= f) := by
  cases r with
  | error fault => exact .stopped (hr.fails rfl)
  | ok taken =>
      obtain ⟨ha, hrest⟩ := hr.yields rfl
      exact (hf taken.1 taken.2 ha).of_suffix hrest

end Reads

theorem takeNumber_reads (hlimits : limits.digits ≤ maxWholeDigits) (depth : Nat)
    (cs : List Char) :
    Reads limits depth cs (fun n => (Value.number n).withinDigits) (takeNumber limits cs) := by
  unfold takeNumber
  have hunsigned := suffix_takeMinus cs
  generalize takeMinus cs = signed at hunsigned ⊢
  obtain ⟨negative, unsigned⟩ := signed
  dsimp only at hunsigned ⊢
  have hprefix := wholeDigits_prefix unsigned
  have hascii := all_wholeDigits unsigned
  generalize wholeDigits unsigned = digits at hprefix hascii ⊢
  by_cases hempty : digits.isEmpty
  · rw [if_pos hempty]
    exact .stopped .malformed
  rw [if_neg hempty]
  have hfraction := (suffix_takeFraction (unsigned.drop digits.length)).trans
    ((List.drop_suffix _ _).trans hunsigned)
  generalize takeFraction (unsigned.drop digits.length) = taken at hfraction ⊢
  obtain ⟨fraction, afterFraction⟩ := taken
  have hexponent := (suffix_takeExponent afterFraction).trans hfraction
  dsimp only at hexponent ⊢
  generalize takeExponent afterFraction = taken at hexponent ⊢
  obtain ⟨exponent, rest⟩ := taken
  dsimp only
  split
  · split
    · rename_i hlong
      exact .stopped (.long ⟨digits, hprefix.isInfix.trans hunsigned.isInfix, hascii, hlong⟩)
    · rename_i hshort
      have hlength : digits.length ≤ maxWholeDigits := by omega
      refine .taken ?_ hexponent
      rw [Value.withinDigits, decide_eq_true_eq]
      exact natAbs_lt_of_digits hascii hlength negative
  · exact .taken rfl hexponent

/-! ## Values -/

/-- A word stands for null, a truth value or a number that is no whole number. -/
theorem withinDigits_of_takeWord? {v : Value} (h : takeWord? cs = some (v, rest)) :
    v.withinDigits := by
  obtain ⟨⟨word, value⟩, hmem, h⟩ := List.exists_of_findSome?_eq_some h
  obtain ⟨after, -, heq⟩ := Option.map_eq_some_iff.1 h
  obtain rfl := (Prod.mk.inj heq).1
  have hwords : ∀ entry ∈ ([("null", Value.null), ("true", .bool true), ("false", .bool false),
      ("NaN", .ofFloat .nan), ("Infinity", .ofFloat (.infinite false)),
      ("-Infinity", .ofFloat (.infinite true))] : List (String × Value)),
      entry.2.withinDigits := by decide
  exact hwords _ hmem

theorem membersWithinDigits_distinct {members : Members}
    (h : Value.membersWithinDigits members) :
    Value.membersWithinDigits (takeMembers.distinct members) := by
  have hall := Value.membersWithinDigits_iff.1 h
  have hfold : ∀ known : Members, Value.membersWithinDigits known →
      Value.membersWithinDigits
        (members.foldl (fun (known : Members) member => known.set member.1 member.2) known) := by
    intro known hknown
    refine List.foldlRecOn (motive := fun known : Members => Value.membersWithinDigits known)
      members _ hknown ?_
    intro known hknown member hmember
    exact Value.membersWithinDigits_set hknown (hall member hmember) member.1
  exact hfold [] rfl

/-- What the three functions of a reader do when they have a number of steps left. -/
structure ReadsAt (limits : Limits) (steps : Nat) : Prop where
  value : ∀ depth cs,
    Reads limits depth cs (fun v => v.withinDigits) (takeValue limits steps depth cs)
  items : ∀ depth taken cs, Value.itemsWithinDigits taken →
    Reads limits depth cs (fun v => v.withinDigits) (takeItems limits steps depth taken cs)
  members : ∀ depth taken cs, Value.membersWithinDigits taken →
    Reads limits depth cs (fun v => v.withinDigits) (takeMembers limits steps depth taken cs)

/-- A list or an object can be opened unless the reader is as deep as it goes. -/
theorem Reads.opened {P : Value → Prop} {c : Char} {r : Result (Value × List Char)}
    (hc : isOpening c) (hr : Reads limits (depth + 1) cs P r) :
    Reads limits depth (c :: cs) P
      (if limits.depth ≤ depth then .error .tooDeep else r) := by
  by_cases hdeep : limits.depth ≤ depth
  · rw [if_pos hdeep]
    have hcount : openings (c :: cs) = openings cs + 1 := List.countP_cons_of_pos hc
    exact .stopped (.deep (by omega))
  · rw [if_neg hdeep]
    exact hr.of_opened hc

variable {steps : Nat}

theorem takeValue_reads (hlimits : limits.digits ≤ maxWholeDigits) (ih : ReadsAt limits steps)
    (depth : Nat) (cs : List Char) :
    Reads limits depth cs (fun v => v.withinDigits) (takeValue limits (steps + 1) depth cs) := by
  cases cs with
  | nil => exact .stopped .malformed
  | cons c rest =>
      have htail : rest <:+ c :: rest := List.suffix_cons c rest
      have hspace : skipSpace rest <:+ rest := suffix_skipSpace rest
      unfold takeValue
      split
      · split
        · rename_i htext
          exact .taken rfl ((suffix_of_takeText? htext).trans htail)
        · exact .stopped .malformed
      split
      · rename_i hlist
        refine .opened (by simp [isOpening, hlist]) ?_
        split
        · rename_i after hafter
          exact .taken rfl ((List.suffix_cons _ after).trans (hafter ▸ hspace))
        · exact (ih.items _ _ _ rfl).of_suffix hspace
      split
      · rename_i hobject
        refine .opened (by simp [isOpening, hobject]) ?_
        split
        · rename_i after hafter
          exact .taken rfl ((List.suffix_cons _ after).trans (hafter ▸ hspace))
        · exact (ih.members _ _ _ rfl).of_suffix hspace
      split
      · rename_i hword
        exact .taken (withinDigits_of_takeWord? hword) (suffix_of_takeWord? hword)
      · exact (takeNumber_reads hlimits depth (c :: rest)).bind fun n after hn =>
          .taken hn (List.suffix_refl after)

theorem takeItems_reads (ih : ReadsAt limits steps) (depth : Nat) {taken : List Value}
    (htaken : Value.itemsWithinDigits taken) (cs : List Char) :
    Reads limits depth cs (fun v => v.withinDigits)
      (takeItems limits (steps + 1) depth taken cs) := by
  unfold takeItems
  refine (ih.value depth cs).bind fun item rest hitem => ?_
  have hspace : skipSpace rest <:+ rest := suffix_skipSpace rest
  have hitems : Value.itemsWithinDigits (item :: taken) := by
    rw [Value.itemsWithinDigits, Bool.and_eq_true]
    exact ⟨hitem, htaken⟩
  dsimp only
  split
  · rename_i after hafter
    have hend : skipSpace after <:+ rest :=
      ((suffix_skipSpace after).trans (List.suffix_cons _ after)).trans (hafter ▸ hspace)
    exact (ih.items depth _ _ hitems).of_suffix hend
  · rename_i after hafter
    refine .taken ?_ ((List.suffix_cons _ after).trans (hafter ▸ hspace))
    rw [Value.withinDigits, Value.itemsWithinDigits_iff]
    intro v hv
    exact Value.itemsWithinDigits_iff.1 hitems v (List.mem_reverse.1 hv)
  · exact .stopped .malformed

theorem takeMembers_reads (ih : ReadsAt limits steps) (depth : Nat) {taken : Members}
    (htaken : Value.membersWithinDigits taken) (cs : List Char) :
    Reads limits depth cs (fun v => v.withinDigits)
      (takeMembers limits (steps + 1) depth taken cs) := by
  unfold takeMembers
  split
  · rename_i nameText
    split
    · exact .stopped .malformed
    rename_i name rest htext
    have hrest : rest <:+ '"' :: nameText :=
      (suffix_of_takeText? htext).trans (List.suffix_cons _ nameText)
    refine Reads.of_suffix hrest ?_
    split
    · rename_i after hafter
      have hvalue : skipSpace after <:+ rest :=
        ((suffix_skipSpace after).trans (List.suffix_cons _ after)).trans
          (hafter ▸ suffix_skipSpace rest)
      refine Reads.of_suffix hvalue ?_
      refine (ih.value depth _).bind fun value left hvalue => ?_
      have hmembers : Value.membersWithinDigits ((name, value) :: taken) := by
        rw [Value.membersWithinDigits, Bool.and_eq_true]
        exact ⟨hvalue, htaken⟩
      dsimp only
      split
      · rename_i more hmore
        have hend : skipSpace more <:+ left :=
          ((suffix_skipSpace more).trans (List.suffix_cons _ more)).trans
            (hmore ▸ suffix_skipSpace left)
        exact (ih.members depth _ _ hmembers).of_suffix hend
      · rename_i more hmore
        refine .taken ?_ ((List.suffix_cons _ more).trans (hmore ▸ suffix_skipSpace left))
        refine membersWithinDigits_distinct ?_
        rw [Value.membersWithinDigits_iff]
        intro member hmember
        exact Value.membersWithinDigits_iff.1 hmembers member (List.mem_reverse.1 hmember)
      · exact .stopped .malformed
    · exact .stopped .malformed
  · exact .stopped .malformed

/-- By induction on the steps: with none left, every function of the reader stops. -/
theorem reads (hlimits : limits.digits ≤ maxWholeDigits) (steps : Nat) : ReadsAt limits steps := by
  induction steps with
  | zero =>
      refine ⟨fun _ _ => ?_, fun _ _ _ _ => ?_, fun _ _ _ _ => ?_⟩
      · rw [takeValue]
        exact .stopped .malformed
      · rw [takeItems]
        exact .stopped .malformed
      · rw [takeMembers]
        exact .stopped .malformed
  | succ steps ih =>
      refine ⟨fun depth cs => ?_, fun depth taken cs htaken => ?_, fun depth taken cs htaken => ?_⟩
      · exact takeValue_reads hlimits ih depth cs
      · exact takeItems_reads ih depth htaken cs
      · exact takeMembers_reads ih depth htaken cs

/-! ## Whole texts -/

theorem read_reads (hlimits : limits.digits ≤ maxWholeDigits) (s : String) :
    Yields (fun v : Value => v.withinDigits) (read limits s) ∧
      FailsOnly (Stops limits 0 s.toList) (read limits s) := by
  have hhead := ((reads hlimits (2 * (skipSpace s.toList).length + 2)).value 0 _).of_suffix
    (suffix_skipSpace s.toList)
  constructor
  · intro v hv
    obtain ⟨⟨w, rest⟩, htaken, hv⟩ := Result.bind_eq_ok.1 hv
    dsimp only at hv
    split at hv
    · cases hv
      exact (hhead.yields htaken).1
    · cases hv
  · refine hhead.fails.bind fun taken _ => ?_
    dsimp only
    split
    · exact .ok _ _
    · exact .error .malformed

/-- Whole numbers of a value that was read are within the limit of digits. -/
theorem withinDigits_of_read (hlimits : limits.digits ≤ maxWholeDigits) {s : String} {v : Value}
    (h : read limits s = .ok v) : v.withinDigits :=
  (read_reads hlimits s).1 h

/-- Why a text cannot be read. -/
theorem read_fails (hlimits : limits.digits ≤ maxWholeDigits) (s : String) :
    FailsOnly (Stops limits 0 s.toList) (read limits s) :=
  (read_reads hlimits s).2

end InvoiceReadiness.Json
