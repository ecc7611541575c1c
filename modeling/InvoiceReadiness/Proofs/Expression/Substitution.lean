import InvoiceReadiness.Proofs.Expression.References

/-!
# Substituting phrases for fields

A field stands for a value, and a value can be written out. This module writes
phrases in parentheses in the place of fields, in a token list and in a tree, and
shows that reading and evaluating commute with that.

The parentheses are what makes the parser insensitive to the exchange: both a field
and a group are read by the innermost level, which hands on the same tokens in both
cases, and neither a field nor an opening parenthesis joins or compares. So the two
runs of the parser stay side by side (`Simulates`) from the innermost level outward,
through every loop, and into every fault. They differ in the depth that they take.

## Main results

* `Parser.parse_substituted` — a list with phrases for its fields has the tree with
  their trees for its fields, or a fault of the same kind.
* `Expression.evaluateWith_withinDepth` — the depth budget matters only by running out.
* `Expression.evaluateWith_substitute` — a tree has the value of the tree with
  expressions for its fields, if each of those has the value of its field.
-/

namespace InvoiceReadiness

open Grammar

/-- An expression with expressions in the place of its fields. -/
def Expression.substitute (value : String → Expression) :
    Expression → Expression
  | literal v => literal v
  | field path => value path
  | signed sign operand => signed sign (operand.substitute value)
  | binary op left right =>
      binary op (left.substitute value) (right.substitute value)
  | and left right => and (left.substitute value) (right.substitute value)
  | or left right => or (left.substitute value) (right.substitute value)

/-- A token, or a phrase in parentheses in the place of a field. -/
def Token.substitute (image : String → List Token) : Token → List Token
  | field path => openParen :: (image path ++ [closeParen])
  | token => [token]

namespace Parser

/-- A token list with phrases in parentheses in the place of its fields. -/
def substituted (image : String → List Token) (tokens : List Token) :
    List Token :=
  tokens.flatMap (Token.substitute image)

variable {image : String → List Token} {value : String → Expression}

theorem substituted_field (path : String) (rest : List Token) :
    substituted image (.field path :: rest) =
      .openParen :: (image path ++ .closeParen :: substituted image rest) := by
  simp [substituted, Token.substitute]

theorem substituted_other {token : Token} (h : ∀ path, token ≠ .field path)
    (rest : List Token) :
    substituted image (token :: rest) = token :: substituted image rest := by
  cases token with
  | field path => exact absurd rfl (h path)
  | _ => rfl

theorem substituted_ne_nil {tokens : List Token} (h : tokens ≠ []) :
    substituted image tokens ≠ [] := by
  obtain ⟨token, rest, rfl⟩ := List.exists_cons_of_ne_nil h
  cases token <;> simp [substituted, Token.substitute]

/-! ## Reading -/

/-- What is read and what is left, before the substitution and after it. -/
def Matches (image : String → List Token) (value : String → Expression)
    (before after : Expression × List Token) : Prop :=
  after = (before.1.substitute value, substituted image before.2)

/-- Two parsers that match on every list, budgets aside. -/
def Simulates (image : String → List Token) (value : String → Expression)
    (item other : Reads) : Prop :=
  ∀ tokens, Agree (Matches image value) (item tokens)
    (other (substituted image tokens))

/-- A joining token is no field and no parenthesis, and joins trees as
it joins their images. -/
structure Respects (value : String → Expression)
    (join? : Token → Option (Expression → Expression → Expression)) : Prop where
  openParen : join? .openParen = none
  field : ∀ path, join? (.field path) = none
  substitute : ∀ {token join}, join? token = some join → ∀ l r : Expression,
    (join l r).substitute value = join (l.substitute value) (r.substitute value)

section Chain

variable {item other : Reads}
  {join? : Token → Option (Expression → Expression → Expression)}
  {phrase otherPhrase : List Token → Expression → Prop}

/-- The head of a list joins if the head of its image does,
and by the same token. -/
theorem Respects.stops (hjoin : Respects value join?) {tokens : List Token}
    (h : Stops join? tokens) : Stops join? (substituted image tokens) := by
  cases tokens with
  | nil => exact h
  | cons token rest =>
      by_cases hfield : ∃ path, token = .field path
      · obtain ⟨path, rfl⟩ := hfield
        rw [substituted_field]
        exact stops_cons hjoin.openParen _
      · rw [substituted_other (fun path htoken => hfield ⟨path, htoken⟩)]
        exact stops_cons (h token (by simp)) _

/-- The induction is on the tokens that are left, as every round
of the loop takes some. -/
theorem loop_simulates (hjoin : Respects value join?)
    (hfinds : Finds item phrase) (hother : Finds other otherPhrase)
    (hitem : Simulates image value item other)
    (left : Expression) (tokens : List Token) :
    Agree (Matches image value) (loop item join? left tokens)
      (loop other join? (left.substitute value)
        (substituted image tokens)) := by
  induction hlength : tokens.length using Nat.strongRecOn
    generalizing left tokens with
  | ind n ih =>
      have hstopped (hstops : Stops join? tokens) :
          Agree (Matches image value) (loop item join? left tokens)
            (loop other join? (left.substitute value)
              (substituted image tokens)) := by
        rw [loop_of_stops hstops, loop_of_stops (hjoin.stops hstops)]
        exact .ok rfl
      cases tokens with
      | nil => exact hstopped (by simp [Stops])
      | cons token rest =>
          cases htoken : join? token with
          | none => exact hstopped (stops_cons htoken rest)
          | some join =>
              have hother' : ∀ path, token ≠ .field path := by
                rintro path rfl
                rw [hjoin.field] at htoken
                cases htoken
              rw [substituted_other hother', loop_join hfinds htoken,
                loop_join hother htoken]
              refine (hitem rest).bind ?_
              rintro ⟨right, after⟩ _ hread rfl
              have hless := hfinds.length_le hread
              rw [List.length_cons] at hlength
              have hmore :=
                ih after.length (by omega) (join left right) after rfl
              rwa [hjoin.substitute htoken] at hmore

theorem chain_simulates (hjoin : Respects value join?)
    (hfinds : Finds item phrase) (hother : Finds other otherPhrase)
    (hitem : Simulates image value item other) :
    Simulates image value (chain item join?) (chain other join?) := by
  intro tokens
  refine (hitem tokens).bind ?_
  rintro ⟨first, rest⟩ _ - rfl
  exact loop_simulates hjoin hfinds hother hitem first rest

end Chain

theorem respects_productJoin? : Respects value productJoin? := by
  refine ⟨rfl, fun _ => rfl, fun htoken l r => ?_⟩
  obtain ⟨op, -, -, rfl⟩ := productJoin?_eq_some.1 htoken
  rfl

theorem respects_sumJoin? : Respects value sumJoin? := by
  refine ⟨rfl, fun _ => rfl, fun htoken l r => ?_⟩
  obtain ⟨op, -, -, rfl⟩ := sumJoin?_eq_some.1 htoken
  rfl

theorem respects_andJoin? : Respects value andJoin? := by
  refine ⟨rfl, fun _ => rfl, fun htoken l r => ?_⟩
  obtain ⟨-, rfl⟩ := andJoin?_eq_some.1 htoken
  rfl

theorem respects_orJoin? : Respects value orJoin? := by
  refine ⟨rfl, fun _ => rfl, fun htoken l r => ?_⟩
  obtain ⟨-, rfl⟩ := orJoin?_eq_some.1 htoken
  rfl

section Levels

variable {item other : Reads} (hitem : Finds item (Derives .signed))
  (hother : Finds other (Derives .signed))
  (hsim : Simulates image value item other)

include hitem hother hsim

theorem sum_simulates : Simulates image value (sum item) (sum other) :=
  chain_simulates respects_sumJoin? (product_finds hitem) (product_finds hother)
    (chain_simulates respects_productJoin? hitem hother hsim)

/-- A comparison looks at the token after its left side, and a field
there is as good as none. -/
theorem compare_simulates :
    Simulates image value (compare item) (compare other) := by
  intro tokens
  have hsum := sum_simulates hitem hother hsim
  refine (hsum tokens).bind ?_
  rintro ⟨left, rest⟩ _ - rfl
  cases rest with
  | nil => exact .ok rfl
  | cons token after =>
      by_cases hfield : ∃ path, token = .field path
      · obtain ⟨path, rfl⟩ := hfield
        simp only [substituted_field, comparison?]
        exact .ok (by rw [Matches, substituted_field])
      · have hplain : ∀ path, token ≠ .field path :=
          fun path htoken => hfield ⟨path, htoken⟩
        simp only [substituted_other hplain]
        cases htoken : comparison? token with
        | none => exact .ok (by rw [Matches, substituted_other hplain])
        | some op =>
            refine (hsum after).bind ?_
            rintro ⟨right, last⟩ _ - rfl
            exact .ok rfl

theorem disjunction_simulates :
    Simulates image value (disjunction item) (disjunction other) :=
  chain_simulates respects_orJoin?
    (conjunction_finds hitem) (conjunction_finds hother)
    (chain_simulates respects_andJoin?
      (compare_finds hitem) (compare_finds hother)
      (compare_simulates hitem hother hsim))

end Levels

/-- A closing parenthesis stays where it is. -/
theorem closed_simulates {r s : Result (Expression × List Token)}
    (h : Agree (Matches image value) r s) :
    Agree (Matches image value) (closed r) (closed s) := by
  refine h.bind ?_
  rintro ⟨e, rest⟩ _ - rfl
  cases rest with
  | nil => exact .error (Fault.sameKind_expression _ _)
  | cons token after =>
      cases token with
      | closeParen => exact .ok rfl
      | field path =>
          simp only [substituted_field]
          exact .error (Fault.sameKind_expression _ _)
      | _ => exact .error (Fault.sameKind_expression _ _)

/-- A field is read at no cost, and the group in its place within the
depth budget or not at all. -/
theorem field_simulates {path : String}
    (himage : Derives .disjunction (image path) (value path))
    (rest : List Token) (otherBudget : Nat) :
    Agree (Matches image value) (.ok (.field path, rest))
      (operand otherBudget (substituted image (.field path :: rest))) := by
  have hgroup : WithinDepth (operand otherBudget _)
      (.ok (value path, substituted image rest)) :=
    levelParser_of_derives (.group himage) otherBudget
      (substituted image rest) trivial
  have himageText : substituted image (.field path :: rest) =
      .openParen :: image path ++ [.closeParen] ++
        substituted image rest := by
    simp [substituted_field]
  rw [himageText]
  rcases hgroup with hread | hdeep
  · exact hread ▸ .ok rfl
  · exact .inr (.inl hdeep)

theorem group_simulates {budget : Nat}
    (hinner : ∀ b, Simulates image value (operand budget) (operand b))
    (rest : List Token) (otherBudget : Nat) :
    Agree (Matches image value) (closed (disjunction (operand budget) rest))
      (operand otherBudget (substituted image (.openParen :: rest))) := by
  rw [substituted_other (by simp)]
  by_cases hdeep : otherBudget < parenthesisDepth
  · exact .inr (.inl (operand_group_tooDeep hdeep _))
  · obtain ⟨b, rfl⟩ := Nat.exists_eq_add_of_le' (Nat.not_lt.1 hdeep)
    rw [operand_group]
    exact closed_simulates
      (disjunction_simulates (operand_finds budget) (operand_finds b)
        (hinner b) rest)

theorem signed_simulates {budget : Nat} {token : Token} {sign : Sign}
    {rest : List Token} (hsign : sign? token = some sign)
    (hrest : ∀ b, Agree (Matches image value) (operand budget rest)
      (operand b (substituted image rest))) (otherBudget : Nat) :
    Agree (Matches image value)
      (do
        let (e, after) ← operand budget rest
        return (.signed sign e, after))
      (operand otherBudget (substituted image (token :: rest))) := by
  have hplain : ∀ path, token ≠ .field path := by
    rintro path rfl
    cases hsign
  rw [substituted_other hplain]
  cases otherBudget with
  | zero => exact .inr (.inl (operand_sign_tooDeep hsign _))
  | succ b =>
      rw [operand_sign hsign]
      refine (hrest b).bind ?_
      rintro ⟨e, after⟩ _ - rfl
      exact .ok rfl

/-- Wherever the parser meets a field, it meets a group in the
image, and reads both. -/
theorem operand_simulates
    (himage : ∀ path, Derives .disjunction (image path) (value path))
    (budget otherBudget : Nat) :
    Simulates image value (operand budget) (operand otherBudget) := by
  intro tokens
  refine operand_induction
    (motive := fun _ tokens result => ∀ otherBudget,
      Agree (Matches image value) result
        (operand otherBudget (substituted image tokens)))
    ?nil ?literal ?field ?group ?groupTooDeep ?signed ?signedTooDeep ?refused
    budget tokens otherBudget
  case nil =>
    intro budget otherBudget
    exact (operand_nil otherBudget).symm ▸ .error (.refl _)
  case literal =>
    intro budget v rest otherBudget
    rw [substituted_other (by simp), operand_literal]
    exact .ok rfl
  case field =>
    intro budget path rest otherBudget
    exact field_simulates (himage path) rest otherBudget
  case group =>
    intro budget rest ih otherBudget
    exact group_simulates (fun b tokens => ih tokens b) rest otherBudget
  case groupTooDeep =>
    intro budget rest _ otherBudget
    exact .inl rfl
  case signed =>
    intro budget token sign rest hsign ih otherBudget
    exact signed_simulates hsign ih otherBudget
  case signedTooDeep =>
    intro token sign rest _ otherBudget
    exact .inl rfl
  case refused =>
    intro budget token rest hrefused otherBudget
    rw [substituted_other hrefused.2.2.2, operand_refused hrefused]
    cases hshown : token.shown with
    | ok shown => exact .error (.refl _)
    | error fault => exact .error (.refl _)

/-- A list with phrases for its fields reads like the list itself. -/
theorem parse_substituted
    (himage : ∀ path, Derives .disjunction (image path) (value path))
    (budget otherBudget : Nat) (tokens : List Token) :
    Agree (fun before after => after = before.substitute value)
      (parse budget tokens)
      (parse otherBudget (substituted image tokens)) := by
  have hread :=
    disjunction_simulates (operand_finds budget) (operand_finds otherBudget)
    (operand_simulates himage budget otherBudget) tokens
  refine hread.bind ?_
  rintro ⟨e, rest⟩ _ - rfl
  cases rest with
  | nil => exact .ok rfl
  | cons token after =>
      by_cases hfield : ∃ path, token = .field path
      · obtain ⟨path, rfl⟩ := hfield
        simp only [substituted_field]
        exact .error (Fault.sameKind_expression _ _)
      · simp only [substituted_other (fun path htoken => hfield ⟨path, htoken⟩)]
        cases hshown : token.shown with
        | ok shown => exact .error (.refl _)
        | error fault => exact .error (.refl _)

end Parser

namespace Expression

/-! ## Evaluating -/

/-- The levels of a tree. -/
def height : Expression → Nat
  | literal _ => 1
  | field _ => 1
  | signed _ operand => operand.height + 1
  | binary _ left right => max left.height right.height + 1
  | and left right => max left.height right.height + 1
  | or left right => max left.height right.height + 1

theorem height_pos (e : Expression) : 0 < e.height := by
  cases e <;> simp [height]

/-- A tree has no more levels than the phrase that it
is read from has tokens. -/
theorem height_le_length {level : Level} {tokens : List Token} {e : Expression}
    (h : Derives level tokens e) : e.height ≤ tokens.length := by
  induction h with
  | literal | field => exact Nat.le_refl _
  | group _ ih =>
      simp only [List.length_cons, List.length_append]
      omega
  | minus _ ih | plus _ ih | not _ ih =>
      simp only [height, List.length_cons]
      omega
  | primary _ ih | factor _ ih | term _ ih | side _ ih
  | conjunct _ ih | disjunct _ ih => exact ih
  | product _ _ _ ihl ihr | sum _ _ _ ihl ihr | comparison _ _ _ ihl ihr
  | conjunction _ _ ihl ihr | disjunction _ _ ihl ihr =>
      simp only [height, List.length_cons, List.length_append]
      omega

theorem exists_succ_of_height {e : Expression} {budget : Nat}
    (h : e.height ≤ budget) :
    ∃ b, budget = b + 1 :=
  Nat.exists_eq_add_of_le' (Nat.le_trans e.height_pos h)

/-- A budget that the two sides of a tree fit in, one level below the tree. -/
theorem exists_budget {m n budget : Nat} (h : max m n + 1 ≤ budget) :
    ∃ b, budget = b + 1 ∧ m ≤ b ∧ n ≤ b :=
  ⟨budget - 1, by omega, by omega, by omega⟩

/-- The depth budget matters only by running out: as many levels as
a tree has are enough. -/
theorem evaluateWith_withinDepth {lookup : Lookup} {e : Expression}
    {enough : Nat} (h : e.height ≤ enough) (budget : Nat) :
    WithinDepth (evaluateWith lookup budget e)
      (evaluateWith lookup enough e) := by
  induction e generalizing budget enough with
  | literal v | field path =>
      obtain ⟨n, rfl⟩ := exists_succ_of_height h
      cases budget with
      | zero => exact .tooDeep _
      | succ budget => exact .refl _
  | signed sign operand ih =>
      obtain ⟨n, rfl⟩ := exists_succ_of_height h
      cases budget with
      | zero => exact .tooDeep _
      | succ budget =>
          exact (ih (Nat.le_of_succ_le_succ h) budget).bind fun x => .refl _
  | binary op left right ihl ihr =>
      obtain ⟨n, rfl, hleft, hright⟩ := exists_budget h
      cases budget with
      | zero => exact .tooDeep _
      | succ budget =>
          exact (ihl hleft budget).bind fun x =>
            (ihr hright budget).bind fun y => .refl _
  | and left right ihl ihr =>
      obtain ⟨n, rfl, hleft, hright⟩ := exists_budget h
      cases budget with
      | zero => exact .tooDeep _
      | succ budget =>
          refine (ihl hleft budget).bind fun x =>
            (WithinDepth.refl x.isTruthy).bind fun b => ?_
          cases b with
          | true => exact ihr hright budget
          | false => exact .refl _
  | or left right ihl ihr =>
      obtain ⟨n, rfl, hleft, hright⟩ := exists_budget h
      cases budget with
      | zero => exact .tooDeep _
      | succ budget =>
          refine (ihl hleft budget).bind fun x =>
            (WithinDepth.refl x.isTruthy).bind fun b => ?_
          cases b with
          | true => exact .refl _
          | false => exact ihr hright budget

/-- A tree with expressions for its fields has the value that it
had, if they have theirs. -/
theorem evaluateWith_substitute {lookup other : Lookup}
    {value : String → Expression} {e : Expression}
    (hvalue : ∀ path ∈ e.fields, ∀ budget, (value path).height ≤ budget →
      evaluateWith other budget (value path) = lookup path)
    {budget otherBudget : Nat} (hbudget : e.height ≤ budget)
    (hother : (e.substitute value).height ≤ otherBudget) :
    evaluateWith other otherBudget (e.substitute value) =
      evaluateWith lookup budget e := by
  induction e generalizing budget otherBudget with
  | literal v =>
      obtain ⟨b, rfl⟩ := exists_succ_of_height hbudget
      obtain ⟨c, rfl⟩ := exists_succ_of_height hother
      rfl
  | field path =>
      obtain ⟨b, rfl⟩ := exists_succ_of_height hbudget
      exact hvalue path (by simp [fields]) otherBudget hother
  | signed sign operand ih =>
      obtain ⟨b, rfl⟩ := exists_succ_of_height hbudget
      obtain ⟨c, rfl⟩ := exists_succ_of_height hother
      have hoperand :=
        ih hvalue (Nat.le_of_succ_le_succ hbudget)
          (Nat.le_of_succ_le_succ hother)
      simp only [substitute, evaluateWith, hoperand]
  | binary op left right ihl ihr | and left right ihl ihr
  | or left right ihl ihr =>
      obtain ⟨b, rfl, hleft, hright⟩ := exists_budget hbudget
      obtain ⟨c, rfl, hotherLeft, hotherRight⟩ := exists_budget hother
      have hl :=
        ihl (fun path hpath => hvalue path (by simp [fields, hpath]))
          hleft hotherLeft
      have hr :=
        ihr (fun path hpath => hvalue path (by simp [fields, hpath]))
          hright hotherRight
      simp only [substitute, evaluateWith, hl, hr]

end Expression

end InvoiceReadiness
