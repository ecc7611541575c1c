import InvoiceReadiness.Expression.Parser
import InvoiceReadiness.Proofs.Outcome

/-!
# The grammar of expressions, and the reading of it

`Derives` is the grammar as rules: which token lists are phrases of a level, and
which tree a derivation builds. Operators of one level associate to the left, a
comparison stands at most once in a phrase of its level, and a pair of
parentheses leaves no node. The rules know no budget and no order of reading.

The parser is tied to them in both directions. **Soundness** follows the parser:
a level that succeeds has consumed a phrase and hands on exactly what comes
after it, so that the place of reading only moves forward inside the list.
**Completeness** follows the derivation: whatever stands after a phrase, the
parser of its level arrives behind it with the tree of the derivation. A chain
reads its first operand and then loops, so for a chain "arrives" means: is left
with the loop (`loop`) that starts from the tree.

## Main results

* `parse_decides_derivation` — reading succeeds on the token lists that the
  grammar derives, with the one tree of the derivation, and fails with a fault
  of the language on all others.
-/

namespace InvoiceReadiness

/-! ## The rules -/

namespace Grammar

/-- The levels of the grammar, loosest binding first. -/
inductive Level where
  | disjunction | conjunction | comparison | sum | product | signed | primary

/-- The tokens are a phrase of the level, and the expression is the
tree of its derivation. -/
inductive Derives : Level → List Token → Expression → Prop where
  | literal (value : Scalar) :
      Derives .primary [.literal value] (.literal value)
  | field (path : String) : Derives .primary [.field path] (.field path)
  | group {ts : List Token} {e : Expression}
      (inner : Derives .disjunction ts e) :
      Derives .primary (.openParen :: ts ++ [.closeParen]) e
  | primary {ts : List Token} {e : Expression} (inner : Derives .primary ts e) :
      Derives .signed ts e
  | minus {ts : List Token} {e : Expression} (inner : Derives .signed ts e) :
      Derives .signed (.operator .sub :: ts) (.signed .minus e)
  | plus {ts : List Token} {e : Expression} (inner : Derives .signed ts e) :
      Derives .signed (.operator .add :: ts) (.signed .plus e)
  | not {ts : List Token} {e : Expression} (inner : Derives .signed ts e) :
      Derives .signed (.not :: ts) (.signed .not e)
  | factor {ts : List Token} {e : Expression} (inner : Derives .signed ts e) :
      Derives .product ts e
  | product {op : Operator} {ts us : List Token} {l r : Expression}
      (hop : op ∈ [.mul, .div, .rem]) (left : Derives .product ts l)
      (right : Derives .signed us r) :
      Derives .product (ts ++ .operator op :: us) (.binary op l r)
  | term {ts : List Token} {e : Expression} (inner : Derives .product ts e) :
      Derives .sum ts e
  | sum {op : Operator} {ts us : List Token} {l r : Expression}
      (hop : op ∈ [.add, .sub])
      (left : Derives .sum ts l) (right : Derives .product us r) :
      Derives .sum (ts ++ .operator op :: us) (.binary op l r)
  | side {ts : List Token} {e : Expression} (inner : Derives .sum ts e) :
      Derives .comparison ts e
  | comparison {op : Operator} {ts us : List Token} {l r : Expression}
      (hop : op ∈ [.equal, .unequal, .identical, .distinct, .lt, .le, .gt, .ge])
      (left : Derives .sum ts l) (right : Derives .sum us r) :
      Derives .comparison (ts ++ .operator op :: us) (.binary op l r)
  | conjunct {ts : List Token} {e : Expression}
      (inner : Derives .comparison ts e) :
      Derives .conjunction ts e
  | conjunction {ts us : List Token} {l r : Expression}
      (left : Derives .conjunction ts l) (right : Derives .comparison us r) :
      Derives .conjunction (ts ++ .and :: us) (.and l r)
  | disjunct {ts : List Token} {e : Expression}
      (inner : Derives .conjunction ts e) :
      Derives .disjunction ts e
  | disjunction {ts us : List Token} {l r : Expression}
      (left : Derives .disjunction ts l) (right : Derives .conjunction us r) :
      Derives .disjunction (ts ++ .or :: us) (.or l r)

end Grammar

open Grammar

namespace Parser

/-! ## What joining tokens are -/

theorem productJoin?_eq_some {token : Token}
    {join : Expression → Expression → Expression} :
    productJoin? token = some join ↔
      ∃ op ∈ [Operator.mul, .div, .rem],
        token = .operator op ∧ join = .binary op := by
  unfold productJoin?
  split <;> simp_all [eq_comm]

theorem sumJoin?_eq_some {token : Token}
    {join : Expression → Expression → Expression} :
    sumJoin? token = some join ↔
      ∃ op ∈ [Operator.add, .sub],
        token = .operator op ∧ join = .binary op := by
  unfold sumJoin?
  split <;> simp_all [eq_comm]

theorem comparison?_eq_some {token : Token} {op : Operator} :
    comparison? token = some op ↔
      op ∈ [Operator.equal, .unequal, .identical, .distinct,
          .lt, .le, .gt, .ge] ∧
        token = .operator op := by
  constructor
  · intro h
    unfold comparison? at h
    split at h <;> simp_all
  · rintro ⟨hop, rfl⟩
    cases op <;> simp_all [comparison?]

theorem andJoin?_eq_some {token : Token}
    {join : Expression → Expression → Expression} :
    andJoin? token = some join ↔ token = .and ∧ join = .and := by
  unfold andJoin?
  split <;> simp_all [eq_comm]

theorem orJoin?_eq_some {token : Token}
    {join : Expression → Expression → Expression} :
    orJoin? token = some join ↔ token = .or ∧ join = .or := by
  unfold orJoin?
  split <;> simp_all [eq_comm]

/-! ## One induction for operands -/

/-- A token that starts no operand. -/
def Refused (token : Token) : Prop :=
  sign? token = none ∧ token ≠ .openParen ∧ (∀ value, token ≠ .literal value) ∧
    ∀ path, token ≠ .field path

theorem operand_nil (budget : Nat) :
    operand budget [] = fail .unexpectedEnd := by
  unfold operand
  rfl

theorem operand_literal (budget : Nat) (value : Scalar) (rest : List Token) :
    operand budget (.literal value :: rest) = .ok (.literal value, rest) := by
  unfold operand
  rfl

private theorem operand_field (budget : Nat) (path : String)
    (rest : List Token) :
    operand budget (.field path :: rest) = .ok (.field path, rest) := by
  unfold operand
  rfl

theorem operand_group (budget : Nat) (rest : List Token) :
    operand (budget + parenthesisDepth) (.openParen :: rest) =
      closed (disjunction (operand budget) rest) := by
  rw [parenthesisDepth, operand]

theorem operand_group_tooDeep {budget : Nat} (h : budget < parenthesisDepth)
    (rest : List Token) :
    operand budget (.openParen :: rest) = .error .tooDeep := by
  rw [operand]
  intro b hb
  simp only [parenthesisDepth] at h
  omega

theorem operand_sign {token : Token} {sign : Sign} (h : sign? token = some sign)
    (budget : Nat) (rest : List Token) :
    operand (budget + 1) (token :: rest) = (do
      let (e, after) ← operand budget rest
      return (.signed sign e, after)) := by
  unfold sign? at h
  split at h <;> cases h <;> rw [operand] <;> simp [sign?]

theorem operand_sign_tooDeep {token : Token} {sign : Sign}
    (h : sign? token = some sign)
    (rest : List Token) : operand 0 (token :: rest) = .error .tooDeep := by
  unfold sign? at h
  split at h <;> cases h <;> rfl

theorem operand_refused {token : Token} (h : Refused token) (budget : Nat)
    (rest : List Token) :
    operand budget (token :: rest) =
      (do fail (.unexpectedToken (← token.shown))) := by
  obtain ⟨hsign, hopen, hliteral, hfield⟩ := h
  rw [operand]
  · exact hliteral
  · exact hfield
  · exact hopen
  · exact hsign
  · exact fun _ _ => hopen

/--
All ways in which reading an operand goes. What is shown for each of them, the
deeper readings assumed, holds of every reading; the recursion of the parser and
its budget are met here and nowhere else.
-/
theorem operand_induction
    {motive : Nat → List Token → Result (Expression × List Token) → Prop}
    (nil : ∀ budget, motive budget [] (fail .unexpectedEnd))
    (literal : ∀ budget value rest,
      motive budget (.literal value :: rest) (.ok (.literal value, rest)))
    (field : ∀ budget path rest,
      motive budget (.field path :: rest) (.ok (.field path, rest)))
    (group : ∀ budget rest,
      (∀ tokens, motive budget tokens (operand budget tokens)) →
      motive (budget + parenthesisDepth) (.openParen :: rest)
        (closed (disjunction (operand budget) rest)))
    (groupTooDeep : ∀ budget rest, budget < parenthesisDepth →
      motive budget (.openParen :: rest) (.error .tooDeep))
    (signed : ∀ budget token sign rest, sign? token = some sign →
      motive budget rest (operand budget rest) →
      motive (budget + 1) (token :: rest) (do
        let (e, after) ← operand budget rest
        return (.signed sign e, after)))
    (signedTooDeep : ∀ token sign rest, sign? token = some sign →
      motive 0 (token :: rest) (.error .tooDeep))
    (refused : ∀ budget token rest, Refused token →
      motive budget (token :: rest)
        (do fail (.unexpectedToken (← token.shown))))
    (budget : Nat) (tokens : List Token) :
    motive budget tokens (operand budget tokens) := by
  induction budget using Nat.strongRecOn generalizing tokens with
  | ind budget ih =>
      cases tokens with
      | nil => exact operand_nil budget ▸ nil budget
      | cons token rest =>
          cases hsign : sign? token with
          | some sign =>
              cases budget with
              | zero =>
                  exact operand_sign_tooDeep hsign rest ▸
                    signedTooDeep token sign rest hsign
              | succ budget =>
                  rw [operand_sign hsign]
                  exact signed budget token sign rest hsign
                    (ih budget (by omega) rest)
          | none =>
              cases token with
              | literal value =>
                  exact operand_literal budget value rest ▸
                    literal budget value rest
              | field path =>
                  exact operand_field budget path rest ▸ field budget path rest
              | openParen =>
                  by_cases hdeep : budget < parenthesisDepth
                  · rw [operand_group_tooDeep hdeep]
                    exact groupTooDeep budget rest hdeep
                  · obtain ⟨b, rfl⟩ :=
                      Nat.exists_eq_add_of_le' (Nat.not_lt.1 hdeep)
                    rw [operand_group]
                    exact group b rest fun ts =>
                      ih b (by simp [parenthesisDepth]) ts
              | _ =>
                  rw [operand_refused ⟨hsign, by simp⟩]
                  exact refused budget _ rest ⟨hsign, by simp⟩

/-! ## Soundness: what is read is a phrase -/

/-- Whatever the parser reads is a phrase, and what it hands on
is all that comes after. -/
def Finds (item : Reads) (phrase : List Token → Expression → Prop) : Prop :=
  ∀ ⦃tokens e rest⦄, item tokens = .ok (e, rest) →
    ∃ used, tokens = used ++ rest ∧ phrase used e

/-- The place of reading never moves back, nor past the end of the list. -/
theorem Finds.length_le {item : Reads} {phrase : List Token → Expression → Prop}
    (h : Finds item phrase) {tokens rest : List Token} {e : Expression}
    (hread : item tokens = .ok (e, rest)) : rest.length ≤ tokens.length := by
  obtain ⟨used, rfl, -⟩ := h hread
  simp

section Chain

variable {item : Reads}
  {join? : Token → Option (Expression → Expression → Expression)}
  {part whole : List Token → Expression → Prop}

/-- The loop of a chain lengthens the phrase that it starts from. -/
private theorem chainFrom_finds (hitem : Finds item part)
    (hjoin : ∀ {ts us l r token join}, whole ts l →
      join? token = some join → part us r →
        whole (ts ++ token :: us) (join l r)) :
    ∀ {steps before left tokens e rest}, whole before left →
      chainFrom item join? steps left tokens = .ok (e, rest) →
      ∃ used, tokens = used ++ rest ∧ whole (before ++ used) e := by
  intro steps
  induction steps with
  | zero =>
      intro before left tokens e rest hbefore hread
      cases tokens <;> cases hread <;>
        exact ⟨[], by simp, by simpa using hbefore⟩
  | succ steps ih =>
      intro before left tokens e rest hbefore hread
      cases tokens with
      | nil =>
          cases hread
          exact ⟨[], by simp, by simpa using hbefore⟩
      | cons token tail =>
          rw [chainFrom] at hread
          split at hread
          · cases hread
            exact ⟨[], by simp, by simpa using hbefore⟩
          · rename_i join htoken
            obtain ⟨⟨right, after⟩, hright, hmore⟩ := Result.bind_eq_ok.1 hread
            obtain ⟨us, rfl, hus⟩ := hitem hright
            obtain ⟨vs, rfl, hvs⟩ := ih (hjoin hbefore htoken hus) hmore
            exact ⟨token :: us ++ vs, by simp, by simpa using hvs⟩

theorem chain_finds (hitem : Finds item part)
    (hone : ∀ ts e, part ts e → whole ts e)
    (hjoin : ∀ {ts us l r token join}, whole ts l →
      join? token = some join → part us r →
        whole (ts ++ token :: us) (join l r)) :
    Finds (chain item join?) whole := by
  intro tokens e rest hread
  obtain ⟨⟨first, after⟩, hfirst, hmore⟩ := Result.bind_eq_ok.1 hread
  obtain ⟨us, rfl, hus⟩ := hitem hfirst
  obtain ⟨vs, rfl, hvs⟩ := chainFrom_finds hitem hjoin (hone _ _ hus) hmore
  exact ⟨us ++ vs, by simp, hvs⟩

end Chain

section Levels

variable {item : Reads} (hitem : Finds item (Derives .signed))

include hitem

theorem product_finds : Finds (product item) (Derives .product) := by
  refine chain_finds hitem (fun _ _ => .factor) ?_
  intro ts us l r token join hl htoken hr
  obtain ⟨op, hop, rfl, rfl⟩ := productJoin?_eq_some.1 htoken
  exact .product hop hl hr

theorem sum_finds : Finds (sum item) (Derives .sum) := by
  refine chain_finds (product_finds hitem) (fun _ _ => .term) ?_
  intro ts us l r token join hl htoken hr
  obtain ⟨op, hop, rfl, rfl⟩ := sumJoin?_eq_some.1 htoken
  exact .sum hop hl hr

theorem compare_finds : Finds (compare item) (Derives .comparison) := by
  intro tokens e rest hread
  obtain ⟨⟨left, after⟩, hleft, hmore⟩ := Result.bind_eq_ok.1 hread
  obtain ⟨us, rfl, hus⟩ := sum_finds hitem hleft
  cases after with
  | nil =>
      cases hmore
      exact ⟨us, rfl, .side hus⟩
  | cons token tail =>
      dsimp only at hmore
      split at hmore
      · cases hmore
        exact ⟨us, rfl, .side hus⟩
      · rename_i op htoken
        obtain ⟨⟨right, last⟩, hright, hdone⟩ := Result.bind_eq_ok.1 hmore
        cases hdone
        obtain ⟨vs, rfl, hvs⟩ := sum_finds hitem hright
        obtain ⟨hop, rfl⟩ := comparison?_eq_some.1 htoken
        exact ⟨us ++ .operator op :: vs, by simp, .comparison hop hus hvs⟩

theorem conjunction_finds :
    Finds (conjunction item) (Derives .conjunction) := by
  refine chain_finds (compare_finds hitem) (fun _ _ => .conjunct) ?_
  intro ts us l r token join hl htoken hr
  obtain ⟨rfl, rfl⟩ := andJoin?_eq_some.1 htoken
  exact .conjunction hl hr

theorem disjunction_finds :
    Finds (disjunction item) (Derives .disjunction) := by
  refine chain_finds (conjunction_finds hitem) (fun _ _ => .disjunct) ?_
  intro ts us l r token join hl htoken hr
  obtain ⟨rfl, rfl⟩ := orJoin?_eq_some.1 htoken
  exact .disjunction hl hr

end Levels

theorem closed_eq_ok {inner : Result (Expression × List Token)} {e : Expression}
    {rest : List Token} :
    closed inner = .ok (e, rest) ↔ inner = .ok (e, .closeParen :: rest) := by
  rcases inner with fault | ⟨f, tokens⟩
  · simp [closed]
  · rcases tokens with _ | ⟨token, after⟩
    · simp [closed, fail]
    · cases token <;> simp [closed, fail, pure, Except.pure]

theorem closed_eq_error {inner : Result (Expression × List Token)}
    {fault : Fault} (h : closed inner = .error fault) :
    inner = .error fault ∨ fault = .expression .unclosedParenthesis := by
  rcases inner with f | ⟨e, tokens⟩
  · exact .inl h
  · rcases tokens with _ | ⟨token, after⟩
    · cases h
      exact .inr rfl
    · cases token <;> cases h <;> exact .inr rfl

/-- The three rules for signs as one. -/
theorem derives_of_sign {token : Token} {sign : Sign} {ts : List Token}
    {e : Expression}
    (hsign : sign? token = some sign) (inner : Derives .signed ts e) :
    Derives .signed (token :: ts) (.signed sign e) := by
  unfold sign? at hsign
  split at hsign <;> cases hsign
  · exact .minus inner
  · exact .plus inner
  · exact .not inner

theorem operand_finds (budget : Nat) :
    Finds (operand budget) (Derives .signed) := by
  intro tokens
  refine operand_induction
    (motive := fun _ tokens result => ∀ ⦃e rest⦄, result = .ok (e, rest) →
      ∃ used, tokens = used ++ rest ∧ Derives .signed used e)
    ?nil ?literal ?field ?group ?groupTooDeep ?signed ?signedTooDeep ?refused
      budget tokens
  case nil =>
    rintro budget e rest ⟨⟩
  case literal =>
    rintro budget value rest e after ⟨⟩
    exact ⟨[.literal value], rfl, .primary (.literal value)⟩
  case field =>
    rintro budget path rest e after ⟨⟩
    exact ⟨[.field path], rfl, .primary (.field path)⟩
  case group =>
    intro budget rest ih e after hread
    have hitem : Finds (operand budget) (Derives .signed) :=
      fun tokens => ih tokens
    obtain ⟨used, rfl, hused⟩ := disjunction_finds hitem (closed_eq_ok.1 hread)
    exact ⟨.openParen :: used ++ [.closeParen], by simp,
      .primary (.group hused)⟩
  case groupTooDeep =>
    rintro budget rest - e after ⟨⟩
  case signed =>
    intro budget token sign rest hsign ih e after hread
    obtain ⟨⟨inner, last⟩, hinner, hdone⟩ := Result.bind_eq_ok.1 hread
    cases hdone
    obtain ⟨used, rfl, hused⟩ := ih hinner
    exact ⟨token :: used, rfl, derives_of_sign hsign hused⟩
  case signedTooDeep =>
    rintro token sign rest - e after ⟨⟩
  case refused =>
    intro budget token rest _ e after hread
    obtain ⟨shown, -, hfail⟩ := Result.bind_eq_ok.1 hread
    cases hfail

/-! ## Completeness: every phrase is read -/

/-- No token stands next, or one that does not join. -/
def Stops {α : Type} (join? : Token → Option α) (tokens : List Token) : Prop :=
  ∀ token ∈ tokens.head?, join? token = none

/-- The loop of a chain, with the steps that it is started with. -/
def loop (item : Reads)
    (join? : Token → Option (Expression → Expression → Expression))
    (left : Expression) : Reads := fun tokens =>
  chainFrom item join? tokens.length left tokens

section Loop

variable {item : Reads}
  {join? : Token → Option (Expression → Expression → Expression)}
  {phrase : List Token → Expression → Prop}

theorem loop_of_stops {left : Expression} {tokens : List Token}
    (h : Stops join? tokens) :
    loop item join? left tokens = .ok (left, tokens) := by
  cases tokens with
  | nil => rfl
  | cons token rest =>
      have htoken : join? token = none := h token (by simp)
      simp [loop, chainFrom, htoken]

/-- As each round takes a token, steps beyond the number of
tokens change nothing. -/
private theorem chainFrom_steps (hitem : Finds item phrase) :
    ∀ {steps more : Nat} {left : Expression} {tokens : List Token},
      tokens.length ≤ steps →
      tokens.length ≤ more →
      chainFrom item join? steps left tokens =
        chainFrom item join? more left tokens := by
  intro steps
  induction steps with
  | zero =>
      intro more left tokens hsteps hmore
      obtain rfl : tokens = [] := by simpa using hsteps
      cases more <;> rfl
  | succ steps ih =>
      intro more left tokens hsteps hmore
      cases tokens with
      | nil => cases more <;> rfl
      | cons token rest =>
          simp only [List.length_cons] at hsteps hmore
          obtain ⟨more, rfl⟩ :=
            Nat.exists_eq_add_of_le' (show 1 ≤ more by omega)
          simp only [chainFrom]
          cases join? token with
          | none => rfl
          | some join =>
              cases hread : item rest with
              | error fault => rfl
              | ok read =>
                  have hlength := hitem.length_le hread
                  exact ih (by omega) (by omega)

/-- One round of the loop. -/
theorem loop_join (hitem : Finds item phrase) {token : Token}
    {join : Expression → Expression → Expression}
    (htoken : join? token = some join) (left : Expression) (rest : List Token) :
    loop item join? left (token :: rest) = (do
      let (right, after) ← item rest
      loop item join? (join left right) after) := by
  simp only [loop, List.length_cons, chainFrom, htoken]
  cases hread : item rest with
  | error fault => rfl
  | ok read =>
      exact chainFrom_steps hitem (hitem.length_le hread) (Nat.le_refl _)

/-- A loop that is not to go on has arrived. -/
theorem loop_arrives {r : Result (Expression × List Token)} {left : Expression}
    {tokens : List Token} (h : WithinDepth r (loop item join? left tokens))
    (hstops : Stops join? tokens) : WithinDepth r (.ok (left, tokens)) :=
  (loop_of_stops hstops : loop item join? left tokens = _) ▸ h

/-- After its first operand a chain is left with its loop. -/
theorem chain_first {first : Expression} {tokens rest : List Token}
    (hitem : WithinDepth (item tokens) (.ok (first, rest))) :
    WithinDepth (chain item join? tokens) (loop item join? first rest) :=
  hitem.bind_ok (.refl _)

/-- After one more operand a chain is left with the
loop from the joined tree. -/
theorem chain_next (hfinds : Finds item phrase) {token : Token}
    {join : Expression → Expression → Expression}
    (htoken : join? token = some join)
    {left right : Expression} {tokens middle rest : List Token}
    (hchain : WithinDepth (chain item join? tokens)
      (loop item join? left (token :: middle)))
    (hitem : WithinDepth (item middle) (.ok (right, rest))) :
    WithinDepth (chain item join? tokens)
      (loop item join? (join left right) rest) := by
  refine hchain.trans ?_
  rw [loop_join hfinds htoken]
  exact hitem.bind_ok (.refl _)

end Loop

/-- The parser of a level, over the parser for operands. -/
def levelParser (item : Reads) : Level → Reads
  | .primary => item
  | .signed => item
  | .product => product item
  | .sum => sum item
  | .comparison => compare item
  | .conjunction => conjunction item
  | .disjunction => disjunction item

/-- What the parser of a level still does when it stands behind
a phrase of the level. -/
def afterPhrase (item : Reads) : Level → Expression → Reads
  | .primary, e => fun rest => .ok (e, rest)
  | .signed, e => fun rest => .ok (e, rest)
  | .product, e => loop item productJoin? e
  | .sum, e => loop (product item) sumJoin? e
  | .comparison, e => fun rest => .ok (e, rest)
  | .conjunction, e => loop (compare item) andJoin? e
  | .disjunction, e => loop (conjunction item) orJoin? e

/-- The tokens that come next belong to no phrase of a tighter level. -/
def Ends : Level → List Token → Prop
  | .primary, _ => True
  | .signed, _ => True
  | .product, _ => True
  | .sum, rest => Stops productJoin? rest
  | .comparison, rest =>
      (Stops productJoin? rest ∧ Stops sumJoin? rest) ∧ Stops comparison? rest
  | .conjunction, rest =>
      (Stops productJoin? rest ∧ Stops sumJoin? rest) ∧ Stops comparison? rest
  | .disjunction, rest =>
    ((Stops productJoin? rest ∧ Stops sumJoin? rest) ∧ Stops comparison? rest) ∧
      Stops andJoin? rest

theorem stops_cons {α : Type} {join? : Token → Option α} {token : Token}
    (h : join? token = none) (rest : List Token) :
    Stops join? (token :: rest) := by
  simpa [Stops] using h

theorem compare_alone {item : Reads} {tokens rest : List Token} {e : Expression}
    (hside : WithinDepth (sum item tokens) (.ok (e, rest)))
    (hstops : Stops comparison? rest) :
    WithinDepth (compare item tokens) (.ok (e, rest)) := by
  refine hside.bind_ok ?_
  cases rest with
  | nil => exact .refl _
  | cons token after =>
      have htoken : comparison? token = none := hstops token (by simp)
      simp only [htoken]
      exact .refl _

theorem compare_both {item : Reads} {token : Token} {op : Operator}
    (htoken : comparison? token = some op) {tokens middle rest : List Token}
    {l r : Expression}
    (hleft : WithinDepth (sum item tokens) (.ok (l, token :: middle)))
    (hright : WithinDepth (sum item middle) (.ok (r, rest))) :
    WithinDepth (compare item tokens) (.ok (.binary op l r, rest)) := by
  refine hleft.bind_ok ?_
  simp only [htoken]
  exact hright.bind_ok (.refl _)

theorem sign_arrives {token : Token} {sign : Sign} {ts : List Token}
    {e : Expression} (hsign : sign? token = some sign)
    (ih : ∀ budget rest, Ends .signed rest →
      WithinDepth (operand budget (ts ++ rest)) (.ok (e, rest))) :
    ∀ budget rest, Ends .signed rest →
      WithinDepth (operand budget (token :: ts ++ rest))
        (.ok (.signed sign e, rest)) := by
  intro budget rest hends
  cases budget with
  | zero => exact .inr (operand_sign_tooDeep hsign _)
  | succ budget =>
      rw [List.cons_append, operand_sign hsign]
      exact (ih budget rest hends).bind_ok (.refl _)

/-- No operand or sum goes on with a comparison. -/
theorem joins_eq_none_of_comparison {op : Operator}
    (hop : op ∈ [Operator.equal, .unequal, .identical, .distinct, .lt, .le, .gt, .ge]) :
    productJoin? (.operator op) = none ∧ sumJoin? (.operator op) = none := by
  cases op <;> simp_all [productJoin?, sumJoin?]

theorem productJoin?_eq_none_of_sum {op : Operator} (hop : op ∈ [Operator.add, .sub]) :
    productJoin? (.operator op) = none := by
  cases op <;> simp_all [productJoin?]

/-- A connective or a closing parenthesis belongs to no comparison. -/
theorem ends_comparison {token : Token} (hproduct : productJoin? token = none)
    (hsum : sumJoin? token = none) (hcomparison : comparison? token = none)
    (rest : List Token) : Ends .comparison (token :: rest) :=
  ⟨⟨stops_cons hproduct rest, stops_cons hsum rest⟩, stops_cons hcomparison rest⟩

/-- A pair of parentheses takes its depth, and is left with the tree of the phrase in it. -/
theorem group_arrives {ts : List Token} {e : Expression}
    (ih : ∀ budget rest, Ends .disjunction rest →
      WithinDepth (disjunction (operand budget) (ts ++ rest))
        (loop (conjunction (operand budget)) orJoin? e rest))
    (budget : Nat) (rest : List Token) :
    WithinDepth (operand budget (.openParen :: ts ++ [.closeParen] ++ rest))
      (.ok (e, rest)) := by
  by_cases hdeep : budget < parenthesisDepth
  · exact .inr (operand_group_tooDeep hdeep _)
  · obtain ⟨b, rfl⟩ := Nat.exists_eq_add_of_le' (Nat.not_lt.1 hdeep)
    have hends : Ends .disjunction (.closeParen :: rest) :=
      ⟨ends_comparison rfl rfl rfl rest, stops_cons rfl rest⟩
    have hinner := loop_arrives (ih b (.closeParen :: rest) hends) (stops_cons rfl rest)
    have htokens : .openParen :: ts ++ [.closeParen] ++ rest =
        Token.openParen :: (ts ++ .closeParen :: rest) := by simp
    rw [htokens, operand_group]
    exact hinner.bind_ok (.refl _)

/-- Whatever comes after a phrase, the parser of its level
arrives there with its tree. -/
theorem levelParser_of_derives {level : Level} {ts : List Token}
    {e : Expression}
    (h : Derives level ts e) : ∀ budget rest, Ends level rest →
      WithinDepth (levelParser (operand budget) level (ts ++ rest))
        (afterPhrase (operand budget) level e rest) := by
  induction h with
  | literal value =>
      intro budget rest _
      exact .inl (operand_literal budget value rest)
  | field path =>
      intro budget rest _
      exact .inl (operand_field budget path rest)
  | group inner ih =>
      intro budget rest _
      exact group_arrives ih budget rest
  | primary inner ih => exact ih
  | minus inner ih => exact sign_arrives rfl ih
  | plus inner ih => exact sign_arrives rfl ih
  | not inner ih => exact sign_arrives rfl ih
  | factor inner ih =>
      intro budget rest _
      exact chain_first (ih budget rest trivial)
  | @product op ts us l r hop left right ihl ihr =>
      intro budget rest _
      have hchain := ihl budget (.operator op :: (us ++ rest)) trivial
      have hjoin := productJoin?_eq_some.2 ⟨op, hop, rfl, rfl⟩
      rw [List.append_assoc]
      exact chain_next (operand_finds budget) hjoin hchain
        (ihr budget rest trivial)
  | term inner ih =>
      intro budget rest hends
      exact chain_first (loop_arrives (ih budget rest trivial) hends)
  | @sum op ts us l r hop left right ihl ihr =>
      intro budget rest hends
      have hchain := ihl budget (.operator op :: (us ++ rest))
        (stops_cons (productJoin?_eq_none_of_sum hop) _)
      have hjoin := sumJoin?_eq_some.2 ⟨op, hop, rfl, rfl⟩
      rw [List.append_assoc]
      exact chain_next (product_finds (operand_finds budget)) hjoin hchain
        (loop_arrives (ihr budget rest trivial) hends)
  | side inner ih =>
      intro budget rest hends
      exact compare_alone
        (loop_arrives (ih budget rest hends.1.1) hends.1.2) hends.2
  | @comparison op ts us l r hop left right ihl ihr =>
      intro budget rest hends
      obtain ⟨hproduct, hsum⟩ := joins_eq_none_of_comparison hop
      have hphrase :=
        ihl budget (.operator op :: (us ++ rest)) (stops_cons hproduct _)
      have hleft := loop_arrives hphrase (stops_cons hsum _)
      rw [List.append_assoc]
      exact compare_both (comparison?_eq_some.2 ⟨hop, rfl⟩) hleft
        (loop_arrives (ihr budget rest hends.1.1) hends.1.2)
  | conjunct inner ih =>
      intro budget rest hends
      exact chain_first (ih budget rest hends)
  | @conjunction ts us l r left right ihl ihr =>
      intro budget rest hends
      have hchain := ihl budget (.and :: (us ++ rest)) (ends_comparison rfl rfl rfl _)
      rw [List.append_assoc]
      exact chain_next (compare_finds (operand_finds budget)) rfl hchain
        (ihr budget rest hends)
  | disjunct inner ih =>
      intro budget rest hends
      exact chain_first (loop_arrives (ih budget rest hends.1) hends.2)
  | @disjunction ts us l r left right ihl ihr =>
      intro budget rest hends
      have hchain := ihl budget (.or :: (us ++ rest))
        ⟨ends_comparison rfl rfl rfl _, stops_cons rfl _⟩
      rw [List.append_assoc]
      exact chain_next (conjunction_finds (operand_finds budget)) rfl hchain
        (loop_arrives (ihr budget rest hends.1) hends.2)

/-! ## How reading fails -/

/-- Only a whole number beyond the digit limit cannot be quoted in a message. -/
theorem shown_eq_error {token : Token} {fault : Fault}
    (h : token.shown = .error fault) :
    fault = .digitLimit ∧
      ∃ n : Int, token = .literal (.number (.whole n)) ∧
        tenPow maxWholeDigits ≤ n.natAbs := by
  cases token with
  | literal value =>
      cases value with
      | number n =>
          cases n with
          | whole n =>
              change wholeText? n = .error fault at h
              unfold wholeText? at h
              split at h
              · rename_i hlimit
                cases h
                exact ⟨rfl, n, rfl, hlimit⟩
              · cases h
          | float x => cases h
      | _ => cases h
  | _ => cases h

/--
The faults that reading tokens on a budget ends with: a fault of the language, the
budget used up by tokens that may well be too many for it, or a token that a
message cannot quote.
-/
def ReadingFault (budget : Nat) (tokens : List Token) (fault : Fault) : Prop :=
  (∃ cause, fault = .expression cause) ∨
    (fault = .tooDeep ∧ budget < parenthesisDepth * tokens.length) ∨
      ∃ token ∈ tokens, token.shown = .error fault

theorem ReadingFault.append {budget : Nat} {rest : List Token} {fault : Fault}
    (h : ReadingFault budget rest fault) (used : List Token) :
    ReadingFault budget (used ++ rest) fault := by
  rcases h with h | ⟨h, hbudget⟩ | ⟨token, hmem, h⟩
  · exact .inl h
  · refine .inr (.inl ⟨h, ?_⟩)
    simp only [parenthesisDepth, List.length_append] at hbudget ⊢
    omega
  · exact .inr (.inr ⟨token, by simp [hmem], h⟩)

/-- A reading one token further in, on a budget that is less by no more
than a parenthesis takes. -/
theorem ReadingFault.deeper {budget : Nat} {rest : List Token} {fault : Fault}
    (h : ReadingFault budget rest fault) (token : Token) {taken : Nat}
    (htaken : taken ≤ parenthesisDepth) :
    ReadingFault (budget + taken) (token :: rest) fault := by
  rcases h with h | ⟨h, hbudget⟩ | ⟨other, hmem, h⟩
  · exact .inl h
  · refine .inr (.inl ⟨h, ?_⟩)
    simp only [parenthesisDepth, List.length_cons] at hbudget htaken ⊢
    omega
  · exact .inr (.inr ⟨other, by simp [hmem], h⟩)

/-- Whatever the parser fails with is one of the
reading faults of the budget. -/
def Fails (budget : Nat) (item : Reads) : Prop :=
  ∀ ⦃tokens fault⦄, item tokens = .error fault →
    ReadingFault budget tokens fault

section Failure

variable {budget : Nat} {item : Reads}

theorem chainFrom_fails
    {join? : Token → Option (Expression → Expression → Expression)}
    {phrase : List Token → Expression → Prop} (hitem : Finds item phrase)
    (hfails : Fails budget item) (steps : Nat) (left : Expression) :
    Fails budget (chainFrom item join? steps left) := by
  induction steps generalizing left with
  | zero =>
      intro tokens fault h
      cases tokens <;> cases h
  | succ steps ih =>
      intro tokens fault h
      cases tokens with
      | nil => cases h
      | cons token rest =>
          rw [chainFrom] at h
          split at h
          · cases h
          · rcases Result.bind_eq_error.1 h with
              hright | ⟨⟨right, after⟩, hright, hmore⟩
            · exact (hfails hright).append [token]
            · obtain ⟨used, rfl, -⟩ := hitem hright
              exact (ih _ hmore).append (token :: used)

theorem chain_fails
    {join? : Token → Option (Expression → Expression → Expression)}
    {phrase : List Token → Expression → Prop} (hitem : Finds item phrase)
    (hfails : Fails budget item) : Fails budget (chain item join?) := by
  intro tokens fault h
  rcases Result.bind_eq_error.1 h with hfirst | ⟨⟨first, rest⟩, hfirst, hmore⟩
  · exact hfails hfirst
  · obtain ⟨used, rfl, -⟩ := hitem hfirst
    exact (chainFrom_fails hitem hfails _ _ hmore).append used

theorem compare_fails (hitem : Finds item (Derives .signed))
    (hfails : Fails budget (sum item)) :
    Fails budget (compare item) := by
  intro tokens fault h
  rcases Result.bind_eq_error.1 h with hleft | ⟨⟨left, rest⟩, hleft, hmore⟩
  · exact hfails hleft
  · obtain ⟨used, rfl, -⟩ := sum_finds hitem hleft
    cases rest with
    | nil => cases hmore
    | cons token after =>
        dsimp only at hmore
        split at hmore
        · cases hmore
        · rcases Result.bind_eq_error.1 hmore with hright | ⟨right, -, hdone⟩
          · exact ((hfails hright).append [token]).append used
          · cases hdone

theorem disjunction_fails (hitem : Finds item (Derives .signed))
    (hfails : Fails budget item) :
    Fails budget (disjunction item) := by
  have hsum : Fails budget (sum item) :=
    chain_fails (product_finds hitem) (chain_fails hitem hfails)
  exact chain_fails (conjunction_finds hitem)
    (chain_fails (compare_finds hitem) (compare_fails hitem hsum))

end Failure

theorem operand_fails (budget : Nat) : Fails budget (operand budget) := by
  intro tokens
  refine operand_induction
    (motive := fun budget tokens result => ∀ ⦃fault⦄, result = .error fault →
      ReadingFault budget tokens fault)
    ?nil ?literal ?field ?group ?groupTooDeep ?signed ?signedTooDeep ?refused
      budget tokens
  case nil =>
    rintro budget fault ⟨⟩
    exact .inl ⟨_, rfl⟩
  case literal =>
    rintro budget value rest fault ⟨⟩
  case field =>
    rintro budget path rest fault ⟨⟩
  case group =>
    intro budget rest ih fault h
    have hfails : Fails budget (operand budget) := fun tokens => ih tokens
    rcases closed_eq_error h with hinner | hunclosed
    · have hfault := disjunction_fails (operand_finds budget) hfails hinner
      exact hfault.deeper _ (Nat.le_refl _)
    · exact .inl ⟨_, hunclosed⟩
  case groupTooDeep =>
    rintro budget rest hbudget fault ⟨⟩
    refine .inr (.inl ⟨rfl, ?_⟩)
    simp only [List.length_cons, parenthesisDepth] at hbudget ⊢
    omega
  case signed =>
    intro budget token sign rest _ ih fault h
    rcases Result.bind_eq_error.1 h with hinner | ⟨inner, -, hdone⟩
    · exact (ih hinner).deeper token (by decide)
    · cases hdone
  case signedTooDeep =>
    rintro token sign rest - fault ⟨⟩
    refine .inr (.inl ⟨rfl, ?_⟩)
    simp only [List.length_cons, parenthesisDepth]
    omega
  case refused =>
    intro budget token rest _ fault h
    rcases Result.bind_eq_error.1 h with hshown | ⟨shown, -, hfail⟩
    · exact .inr (.inr ⟨token, by simp, hshown⟩)
    · cases hfail
      exact .inl ⟨_, rfl⟩

/-! ## Reading a whole list -/

theorem parse_eq_ok {budget : Nat} {tokens : List Token} {e : Expression} :
    parse budget tokens = .ok e ↔
    disjunction (operand budget) tokens = .ok (e, []) := by
  unfold parse
  rcases disjunction (operand budget) tokens with fault | ⟨f, rest⟩
  · simp
  · rcases rest with _ | ⟨token, after⟩
    · simp [pure, Except.pure]
    · cases hshown : token.shown <;> simp [hshown, fail]

theorem derives_of_parse {budget : Nat} {tokens : List Token} {e : Expression}
    (h : parse budget tokens = .ok e) : Derives .disjunction tokens e := by
  obtain ⟨used, rfl, hused⟩ :=
    disjunction_finds (operand_finds budget) (parse_eq_ok.1 h)
  simpa using hused

theorem parse_of_derives {tokens : List Token} {e : Expression}
    (h : Derives .disjunction tokens e) (budget : Nat) :
    WithinDepth (parse budget tokens) (.ok e) := by
  have hread := levelParser_of_derives h budget []
    ⟨⟨⟨by simp [Stops], by simp [Stops]⟩, by simp [Stops]⟩, by simp [Stops]⟩
  rw [List.append_nil] at hread
  have harrived := loop_arrives hread (by simp [Stops])
  exact harrived.bind_ok (.refl _)

theorem parse_fault {budget : Nat} {tokens : List Token} {fault : Fault}
    (h : parse budget tokens = .error fault) :
    ReadingFault budget tokens fault := by
  rcases Result.bind_eq_error.1 h with hread | ⟨⟨e, rest⟩, hread, hend⟩
  · exact disjunction_fails (operand_finds budget) (operand_fails budget) hread
  · obtain ⟨used, rfl, -⟩ := disjunction_finds (operand_finds budget) hread
    cases rest with
    | nil => cases hend
    | cons token after =>
        rcases Result.bind_eq_error.1 hend with hshown | ⟨shown, -, hfail⟩
        · exact .inr (.inr ⟨token, by simp, hshown⟩)
        · cases hfail
          exact .inl ⟨_, rfl⟩

/-- Seven levels of depth for each token are always enough. -/
theorem parse_ne_tooDeep {budget : Nat} {tokens : List Token}
    (h : parenthesisDepth * tokens.length ≤ budget) :
    parse budget tokens ≠ .error .tooDeep := by
  intro hdeep
  rcases parse_fault hdeep with
    ⟨cause, hcause⟩ | ⟨-, hbudget⟩ | ⟨token, -, hshown⟩
  · cases hcause
  · omega
  · cases (shown_eq_error hshown).1

/-- One token list has one tree. -/
theorem derives_unique {tokens : List Token} {e f : Expression}
    (he : Derives .disjunction tokens e) (hf : Derives .disjunction tokens f) :
    e = f := by
  have hdeep :=
    parse_ne_tooDeep (Nat.le_refl (parenthesisDepth * tokens.length))
  have hparse {g : Expression} (hg : Derives .disjunction tokens g) :
      parse (parenthesisDepth * tokens.length) tokens = .ok g :=
    (parse_of_derives hg _).resolve_right hdeep
  exact Except.ok.inj ((hparse he).symm.trans (hparse hf))

end Parser

/--
**Reading decides the grammar.** On every budget a tree that is read is the tree
of a derivation; a list that the grammar derives is read, and one that it does
not derive is refused with a fault of the language, unless the budget runs out
first. The third way to fail needs a whole number beyond the digit limit among the
tokens, which no text writes. The budget runs out for no list that it grants the
depth of a parenthesis for each token. There is one tree at most, and what any
reading consumes is a phrase at the head of the list.
-/
theorem parse_decides_derivation (tokens : List Token) (budget : Nat) :
    (∀ e, Parser.parse budget tokens = .ok e → Derives .disjunction tokens e) ∧
    (∀ e, Derives .disjunction tokens e →
      Parser.parse budget tokens = .ok e ∨
      Parser.parse budget tokens = .error .tooDeep) ∧
    ((∀ e, ¬ Derives .disjunction tokens e) →
      (∃ cause, Parser.parse budget tokens = .error (.expression cause)) ∨
        Parser.parse budget tokens = .error .tooDeep ∨
          Parser.parse budget tokens = .error .digitLimit ∧
            ∃ n : Int, .literal (.number (.whole n)) ∈ tokens ∧
              tenPow maxWholeDigits ≤ n.natAbs) ∧
    (Parser.parenthesisDepth * tokens.length ≤ budget →
      Parser.parse budget tokens ≠ .error .tooDeep) ∧
    (∀ e f, Derives .disjunction tokens e →
      Derives .disjunction tokens f → e = f) ∧
    (∀ e rest,
      Parser.disjunction (Parser.operand budget) tokens = .ok (e, rest) →
      ∃ used, tokens = used ++ rest ∧ Derives .disjunction used e) := by
  refine ⟨fun e => Parser.derives_of_parse,
    fun e h => Parser.parse_of_derives h budget, ?_,
    Parser.parse_ne_tooDeep, fun e f => Parser.derives_unique,
    fun e rest h => Parser.disjunction_finds (Parser.operand_finds budget) h⟩
  intro hnone
  cases hparse : Parser.parse budget tokens with
  | ok e => exact absurd (Parser.derives_of_parse hparse) (hnone e)
  | error fault =>
      rcases Parser.parse_fault hparse with
        ⟨cause, rfl⟩ | ⟨rfl, -⟩ | ⟨token, hmem, hshown⟩
      · exact .inl ⟨cause, rfl⟩
      · exact .inr (.inl rfl)
      · obtain ⟨rfl, n, rfl, hlimit⟩ := Parser.shown_eq_error hshown
        exact .inr (.inr ⟨rfl, n, hmem, hlimit⟩)

end InvoiceReadiness
