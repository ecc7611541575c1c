import InvoiceReadiness.Proofs.Outcome
import InvoiceReadiness.Value.Key

/-!
# Keys and equality

Indices compare identifiers by a normal form, `Value.key`. What is meant is equality
of data: true, `1` and `1.0` are one identifier, the text `1` is another one. Here the
two are shown to be the same, so that laws about indices can be stated with equality
and proved with keys.

One value is equal to nothing, not even to itself: the not-a-number. As an identifier
it is still one value, so `Value.sameIdentity` adds that case to equality.

## Main results

* `Number.key_eq_key_iff` — numbers have one key if they have one exact value.
* `Value.keyOf_eq_iff` — values have one key if they are one identity.
-/

namespace InvoiceReadiness

/-! ## Numbers -/

private theorem eq_mul_iff_emod_ediv {a n d : Int} (hd : d ≠ 0) :
    a = n * d ↔ a % d = 0 ∧ a / d = n := by
  constructor
  · rintro rfl
    exact ⟨Int.mul_emod_left n d, Int.mul_ediv_cancel n hd⟩
  · rintro ⟨hmod, rfl⟩
    exact (Int.ediv_mul_cancel_of_emod_eq_zero hmod).symm

namespace Binary64

variable {a b negative : Bool} {units x y : Nat}

/-- A finite number has the units of a whole number if it is whole and
that is its whole part. -/
theorem wholeUnits_eq_iff {h : Representable units} {n : Int} :
    Number.wholeUnits n = (finite negative units h).signedUnits ↔
      (finite negative units h).isWhole ∧
        (finite negative units h).truncate? = some n := by
  have hpos : (unitsPerOne : Int) ≠ 0 := by
    have := unitsPerOne_pos
    omega
  have hmod : (units : Int) % unitsPerOne = (units % unitsPerOne : Nat) :=
    (Int.natCast_emod units unitsPerOne).symm
  have hdiv : (units : Int) / unitsPerOne = (units / unitsPerOne : Nat) :=
    (Int.natCast_ediv units unitsPerOne).symm
  simp only [Number.wholeUnits, signedUnits, isWhole, truncate?, beq_iff_eq,
    Option.some.injEq]
  cases negative with
  | false =>
      have hiff := eq_mul_iff_emod_ediv (a := units) (n := n) hpos
      rw [hmod, hdiv] at hiff
      simp only [Bool.false_eq_true, if_false]
      omega
  | true =>
      have hiff := eq_mul_iff_emod_ediv (a := units) (n := -n) hpos
      rw [hmod, hdiv, Int.neg_mul] at hiff
      simp only [if_true]
      omega

@[simp] theorem natAbs_signedUnits {h : Representable units} :
    (finite negative units h).signedUnits.natAbs = units := by
  cases negative <;> simp [signedUnits]

/-- A number that is not whole is not zero, so its sign is
part of its exact value. -/
theorem eq_of_signedUnits_eq {hx : Representable x} {hy : Representable y}
    (hwhole : (finite a x hx).isWhole = false)
    (h : (finite a x hx).signedUnits = (finite b y hy).signedUnits) :
    finite a x hx = finite b y hy := by
  have hunits : x = y := by
    have habs := congrArg Int.natAbs h
    rwa [natAbs_signedUnits, natAbs_signedUnits] at habs
  subst hunits
  have hpos : x ≠ 0 := by
    rintro rfl
    simp [isWhole] at hwhole
  have hsign : a = b := by
    cases a <;> cases b <;> simp only [signedUnits, Bool.false_eq_true, if_false,
      if_true] at h ⊢ <;> omega
  rw [hsign]

end Binary64

/-- What a number is as a value: not a number, an infinity, or a count of units. -/
inductive ExactValue where
  | nan
  | infinite (negative : Bool)
  | units (n : Int)
  deriving DecidableEq

namespace Number

/-- The exact value of a number. -/
def exact : Number → ExactValue
  | whole n => .units (wholeUnits n)
  | float .nan => .nan
  | float (.infinite negative) => .infinite negative
  | float (.finite negative units h) => .units (Binary64.finite negative units h).signedUnits

theorem wholeUnits_inj {m n : Int} : wholeUnits m = wholeUnits n ↔ m = n := by
  have hpos := unitsPerOne_pos
  constructor
  · exact Int.eq_of_mul_eq_mul_right (by omega)
  · rintro rfl
    rfl

/-- Equality of numbers is equality of exact values; nothing equals a not-a-number. -/
theorem eq_iff_exact (m n : Number) :
    m.eq n ↔ m.exact = n.exact ∧ m.exact ≠ .nan := by
  cases m with
  | whole m =>
      cases n with
      | whole n => simp [Number.eq, compare?, exact, wholeUnits_inj]
      | float y =>
          rcases y with _ | ⟨_ | _⟩ | _ <;>
            simp [Number.eq, compare?, compareWhole, exact]
  | float x =>
      cases n with
      | whole n =>
          rcases x with _ | ⟨_ | _⟩ | ⟨negative, units, h⟩
          · simp [Number.eq, compare?, compareWhole, exact]
          · simp [Number.eq, compare?, compareWhole, exact]
          · simp [Number.eq, compare?, compareWhole, exact]
          · have hswap : (float (.finite negative units h)).compare? (whole n) =
                some (Ord.compare (Binary64.finite negative units h).signedUnits
                  (wholeUnits n)) := by
              simp only [compare?, compareWhole, Option.map_some, Int.compare_swap]
            simp [Number.eq, hswap, exact]
      | float y =>
          rcases x with _ | ⟨_ | _⟩ | _ <;> rcases y with _ | ⟨_ | _⟩ | _ <;>
            simp [Number.eq, compare?, Binary64.compare?, exact]

/-- The key of a number is that of a whole number of its exact value, or the number
itself, which is not whole then. -/
theorem key_cases (m : Number) :
    (∃ n, m.key = .whole n ∧ m.exact = .units (wholeUnits n)) ∨
      ∃ x, m = .float x ∧ x.isWhole = false ∧ m.key = .float x := by
  cases m with
  | whole n => exact .inl ⟨n, rfl, rfl⟩
  | float x =>
      cases hwhole : x.isWhole with
      | false => exact .inr ⟨x, rfl, hwhole, by simp [key, hwhole]⟩
      | true =>
          cases x with
          | nan => cases hwhole
          | infinite negative => cases hwhole
          | finite negative units h =>
              let n : Int := (units / unitsPerOne : Nat)
              refine .inl ⟨if negative then -n else n, ?_, ?_⟩
              · simp only [key, if_pos hwhole]
                rfl
              · rw [exact, Binary64.wholeUnits_eq_iff.2 ⟨hwhole, rfl⟩]

/-- A number that is not whole has the exact value of no whole number. -/
theorem exact_ne_wholeUnits {x : Binary64} (hwhole : x.isWhole = false) (n : Int) :
    (float x).exact ≠ .units (wholeUnits n) := by
  cases x with
  | nan => rintro ⟨⟩
  | infinite negative => rintro ⟨⟩
  | finite negative units h =>
      intro heq
      rw [exact, ExactValue.units.injEq] at heq
      have hcontra := (Binary64.wholeUnits_eq_iff.1 heq.symm).1
      rw [hwhole] at hcontra
      cases hcontra

/-- Numbers that are not whole are told apart by their exact values. -/
theorem exact_float_inj {x y : Binary64} (hx : x.isWhole = false) :
    x = y ↔ (float x).exact = (float y).exact := by
  constructor
  · rintro rfl
    rfl
  · cases x <;> cases y <;> simp only [exact, reduceCtorEq, imp_self,
      ExactValue.infinite.injEq, ExactValue.units.injEq]
    · rintro rfl
      rfl
    · exact Binary64.eq_of_signedUnits_eq hx

/-- Numbers have one key if they have one exact value. -/
theorem key_eq_key_iff (m n : Number) : m.key = n.key ↔ m.exact = n.exact := by
  rcases key_cases m with ⟨i, hm, hi⟩ | ⟨x, rfl, hx, hm⟩ <;>
    rcases key_cases n with ⟨j, hn, hj⟩ | ⟨y, rfl, hy, hn⟩
  · rw [hm, hn, hi, hj, ExactValue.units.injEq, wholeUnits_inj, Key.whole.injEq]
  · rw [hm, hn, hi]
    have hne := exact_ne_wholeUnits hy i
    simp [hne.symm]
  · rw [hm, hn, hj]
    simp [exact_ne_wholeUnits hx j]
  · rw [hm, hn, Key.float.injEq]
    exact exact_float_inj hx

end Number

/-! ## Values -/

namespace Value

/-- Whether a value can identify a record: neither a list nor an object can. -/
def isIdentifier : Value → Bool
  | list _ => false
  | object _ => false
  | _ => true

/-- The key of an identifier; any other value has the one of null. -/
def keyOf (v : Value) : Key := v.key.toOption.getD .null

theorem key_eq_ok_keyOf {v : Value} (h : v.isIdentifier) : v.key = .ok v.keyOf := by
  cases v with
  | list items => cases h
  | object members => cases h
  | _ => rfl

theorem key_eq (v : Value) :
    v.key = if v.isIdentifier then .ok v.keyOf else .error .notAKey := by
  cases v <;> rfl

theorem isIdentifier_of_key_eq_ok {v : Value} {key : Key} (h : v.key = .ok key) :
    v.isIdentifier := by
  cases v with
  | list items => cases h
  | object members => cases h
  | _ => rfl

theorem keyOf_eq_of_key_eq_ok {v : Value} {key : Key} (h : v.key = .ok key) :
    v.keyOf = key := by
  rw [keyOf, h]
  rfl

/-- A truth value has the key of the number that it counts as. -/
theorem keyOf_eq_of_number? {v : Value} {m : Number} (h : v.number? = some m) :
    v.keyOf = m.key := by
  cases v with
  | bool b =>
      cases h
      rfl
  | number n =>
      cases h
      rfl
  | _ => cases h

/-- What counts as a number is the identity of what counts as a
number of the same exact value. -/
theorem sameIdentity_iff_exact {v w : Value} {m n : Number} (hv : v.number? = some m)
    (hw : w.number? = some n) : v.sameIdentity w ↔ m.exact = n.exact := by
  have hsame : v.same w = m.eq n := by
    cases v <;> cases hv <;> simp [same, hw]
  have hnan {u : Value} {k : Number} (hu : u.number? = some k) :
      u.isNan ↔ k.exact = .nan := by
    cases u <;> cases hu
    · simp [isNan, Number.exact]
    · rcases k with _ | _ | _ | _ <;> simp [isNan, Number.exact]
  rw [sameIdentity, Bool.or_eq_true, Bool.and_eq_true, hsame, Number.eq_iff_exact,
    hnan hv, hnan hw]
  constructor
  · rintro (⟨heq, -⟩ | ⟨hm, hn⟩)
    · exact heq
    · rw [hm, hn]
  · intro heq
    by_cases hm : m.exact = .nan
    · exact .inr ⟨hm, heq ▸ hm⟩
    · exact .inl ⟨heq, hm⟩

/-- An identifier is null, a text, or counts as a number. -/
theorem isIdentifier_cases {v : Value} (h : v.isIdentifier) :
    v = null ∨ (∃ s, v = text s) ∨ ∃ m, v.number? = some m := by
  cases v <;> simp [number?, isIdentifier] at h ⊢

theorem keyOf_ne_of_number? {v : Value} {m : Number} (h : v.number? = some m) :
    v.keyOf ≠ .null ∧ ∀ s, v.keyOf ≠ .text s := by
  rw [keyOf_eq_of_number? h]
  rcases m.key_cases with ⟨i, hkey, -⟩ | ⟨x, -, -, hkey⟩ <;> simp [hkey]

/-- What counts as a number is the identity of neither null nor a text. -/
theorem sameIdentity_of_number? {v : Value} {m : Number} (h : v.number? = some m) :
    v.sameIdentity null = false ∧ null.sameIdentity v = false ∧
      ∀ s, v.sameIdentity (text s) = false ∧ (text s).sameIdentity v = false := by
  cases v <;> cases h <;> simp [sameIdentity, same, isNan, number?]

/-- Identifiers have one key if they are one identity. -/
theorem keyOf_eq_iff {v w : Value} (hv : v.isIdentifier) (hw : w.isIdentifier) :
    v.keyOf = w.keyOf ↔ v.sameIdentity w := by
  have hnull : null.keyOf = .null := rfl
  have htext (s : String) : (text s).keyOf = .text s := rfl
  rcases isIdentifier_cases hv with rfl | ⟨s, rfl⟩ | ⟨m, hm⟩ <;>
    rcases isIdentifier_cases hw with rfl | ⟨t, rfl⟩ | ⟨n, hn⟩
  · simp [sameIdentity, same]
  · simp [hnull, htext, sameIdentity, same, isNan]
  · simp [hnull, (keyOf_ne_of_number? hn).1.symm, sameIdentity_of_number? hn]
  · simp [hnull, htext, sameIdentity, same, isNan]
  · simp [htext, sameIdentity, same, isNan]
  · simp [htext, ((keyOf_ne_of_number? hn).2 s).symm, sameIdentity_of_number? hn]
  · simp [hnull, keyOf_ne_of_number? hm, sameIdentity_of_number? hm]
  · simp [htext, keyOf_ne_of_number? hm, sameIdentity_of_number? hm]
  · rw [keyOf_eq_of_number? hm, keyOf_eq_of_number? hn, Number.key_eq_key_iff,
      sameIdentity_iff_exact hm hn]

/-- Only a text equals a text. -/
theorem same_text_iff {v : Value} {s : String} : v.same (.text s) ↔ v = .text s := by
  cases v <;> simp [same, number?]

end Value

end InvoiceReadiness
