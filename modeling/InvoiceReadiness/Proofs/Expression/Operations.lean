import InvoiceReadiness.Proofs.Expression.Faults

/-!
# Expressions of one operation

The text of a field is its path in braces, and the text of an operation is those of two
fields with the operator between them. Whatever the paths are, as long as they can stand
in braces at all, the text is read as that operation on those fields. So its value is
known from the values of the fields.

## Main results

* `Lexer.longest_field`, `Lexer.longest_operator` — where the lexemes end.
* `Expression.ofValue_fieldText`, `Expression.ofValue_operationText` — what is read.
* `Expression.amount_fieldText`, `Expression.truth_order` — the amount of a field, and
  the truth of a comparison of two fields.
-/

namespace InvoiceReadiness

/-- A path can stand in braces: it is not empty and has none itself. -/
def FitsBraces (path : String) : Prop := path.toList ≠ [] ∧ Lexer.Unbraced path.toList

-- Looked for among the characters of the path, not among all that there are.
instance (path : String) : Decidable (FitsBraces path) :=
  haveI : Decidable (Lexer.Unbraced path.toList) := List.decidableBAll _ _
  inferInstanceAs (Decidable (path.toList ≠ [] ∧ Lexer.Unbraced path.toList))

/-- The text of a field. -/
def fieldText (path : String) : String := "\x7b" ++ path ++ "\x7d"

/-- The text of an operation on two fields. -/
def operationText (op : Operator) (left right : String) : String :=
  fieldText left ++ " " ++ op.spelling ++ " " ++ fieldText right

theorem toList_fieldText (path : String) :
    (fieldText path).toList = '\x7b' :: (path.toList ++ ['\x7d']) := by
  simp [fieldText]

theorem toList_operationText (op : Operator) (left right : String) :
    (operationText op left right).toList =
      (fieldText left).toList ++ ([' '] ++ (op.spelling.toList ++
        ([' '] ++ ((fieldText right).toList ++ [])))) := by
  simp [operationText]

namespace Lexer

variable {body rest : List Char}

/-! ## Where the lexemes end -/

/-- A field ends at the brace that closes it, whatever comes after it. -/
theorem longest_field (hne : body ≠ []) (hbody : Unbraced body) (rest : List Char) :
    Longest ('\x7b' :: (body ++ ['\x7d']) ++ rest) .field ('\x7b' :: (body ++ ['\x7d'])) := by
  refine .of_no_longer ⟨body, hne, hbody, rfl⟩ ?_
  rintro more hmore - ⟨inner, -, hinner, htext⟩
  -- both fields end at the first brace after the opening one
  have hinside : body ++ '\x7d' :: more = inner ++ ['\x7d'] := by simpa using htext
  have hrun : (body ++ '\x7d' :: more).takeWhile isUnbraced = body :=
    takeWhile_append_stop (unbraced_iff.1 hbody) (by simp [isUnbraced])
  rw [hinside, takeWhile_append_stop (unbraced_iff.1 hinner) (by simp [isUnbraced])] at hrun
  rw [hrun] at hinside
  exact hmore (by simpa using List.append_cancel_left hinside)

/-- A single space in front of anything else. -/
theorem longest_space (hrest : ∀ c ∈ rest.head?, isBlankChar c = false) :
    Longest ([' '] ++ rest) .space [' '] := by
  refine .of_no_longer ⟨by simp, by simp [isBlankChar]⟩ ?_
  intro more hmore hhead hclass
  obtain ⟨c, cs, rfl⟩ := List.exists_cons_of_ne_nil hmore
  obtain ⟨tail, rfl⟩ := hhead
  have hblank : isBlankChar c := hclass.2 c (by simp)
  rw [hrest c (by simp)] at hblank
  contradiction

theorem operator_mem_symbols (op : Operator) : (op.spelling, .operator op) ∈ symbols := by
  cases op <;> simp [symbols, Operator.spelling]

/-- An operator in front of a space: no symbol has a space in it. -/
theorem longest_operator (op : Operator) (rest : List Char) :
    Longest (op.spelling.toList ++ ([' '] ++ rest)) .operator op.spelling.toList := by
  refine .of_no_longer ⟨_, operator_mem_symbols op, rfl⟩ ?_
  rintro more hmore hhead ⟨symbol, hsymbol, htext⟩
  obtain ⟨c, cs, rfl⟩ := List.exists_cons_of_ne_nil hmore
  obtain ⟨rfl, -⟩ := List.cons_prefix_cons.1 hhead
  have hspaceless : ∀ symbol ∈ symbols, ' ' ∉ symbol.1.toList := by decide
  exact hspaceless symbol hsymbol (by simp [← htext])

theorem not_isBlankChar_operator (op : Operator) (rest : List Char) :
    ∀ c ∈ (op.spelling.toList ++ rest).head?, isBlankChar c = false := by
  cases op <;> simp [Operator.spelling] <;> decide

/-! ## The tokens -/

variable {path left right : String}

/-- A field is cut off, whatever comes after it. -/
theorem cut_field (hpath : FitsBraces path) (rest : List Char) :
    Cut ((fieldText path).toList ++ rest) [(.field, (fieldText path).toList)] rest := by
  rw [toList_fieldText]
  exact .piece (longest_field hpath.1 hpath.2 rest) (.done rest)

theorem means_field (path : String) :
    Means .field (fieldText path).toList (.field (trim path)) := by
  rw [toList_fieldText]
  exact .field path.toList

theorem tokenize_fieldText (hpath : FitsBraces path) :
    tokenize (fieldText path) = .ok [.field (trim path)] := by
  refine tokenize_eq_ok.2 ⟨_, ?_, .token (means_field path) .nil⟩
  have hcut := cut_field hpath []
  rwa [List.append_nil] at hcut

theorem tokenize_operationText (op : Operator) (hleft : FitsBraces left)
    (hright : FitsBraces right) :
    tokenize (operationText op left right) =
      .ok [.field (trim left), .operator op, .field (trim right)] := by
  have hblank : ∀ c ∈ ((fieldText right).toList ++ []).head?, isBlankChar c = false := by
    simp [toList_fieldText]
    decide
  have hcut := (cut_field hleft _).append (.piece
    (longest_space (not_isBlankChar_operator op _)) (.piece (longest_operator op _)
      (.piece (longest_space hblank) (cut_field hright []))))
  rw [← toList_operationText] at hcut
  have hoperator : Means .operator op.spelling.toList (.operator op) :=
    .operator (operator_mem_symbols op)
  exact tokenize_eq_ok.2 ⟨_, hcut, .token (means_field left) (.space (.token hoperator
    (.space (.token (means_field right) .nil))))⟩

end Lexer

/-! ## Comparisons by order -/

namespace Operator

/-- The operators that compare by order. -/
def isOrder : Operator → Bool
  | lt => true
  | le => true
  | gt => true
  | ge => true
  | _ => false

/-- Whether an operator holds of two operands in a given order. -/
def admits : Operator → Ordering → Bool
  | lt, order => order == .lt
  | le, order => order != .gt
  | gt, order => order == .gt
  | ge, order => order != .lt
  | _, _ => false

end Operator

namespace Expression

variable {path left right : String} {record : Value}

/-! ## What is read -/

theorem ofValue_of_tokenize {s : String} {tokens : List Token} (h : tokenize s = .ok tokens)
    (hne : tokens ≠ []) : ofValue (.text s) = Parser.parse depthBudget tokens := by
  have hs : s ≠ "" := by
    rintro rfl
    exact hne (Except.ok.inj h).symm
  have hread : ofValue (.text s) = ofTextWithin depthBudget s := by
    simp [ofValue, Value.isFilled, hs, Value.asText, ofText, ofTextWithin]
  rw [hread, ofTextWithin_of_ne_nil h hne]

theorem ofValue_fieldText (hpath : FitsBraces path) :
    ofValue (.text (fieldText path)) = .ok (.field (trim path)) := by
  rw [ofValue_of_tokenize (Lexer.tokenize_fieldText hpath) nofun]
  rfl

theorem ofValue_operationText (op : Operator) (hleft : FitsBraces left)
    (hright : FitsBraces right) :
    ofValue (.text (operationText op left right)) =
      .ok (.binary op (.field (trim left)) (.field (trim right))) := by
  rw [ofValue_of_tokenize (Lexer.tokenize_operationText op hleft hright) nofun]
  cases op <;> rfl

/-! ## What it comes to -/

theorem amount_fieldText (hpath : FitsBraces path) (record : Value) :
    amount (fieldText path) record = amountLookup record (trim path) := by
  have hbudget : depthBudget = 959 + 1 := rfl
  rw [amount, ofValue_fieldText hpath, Result.ok_bind, hbudget, evaluateWith]

theorem evaluate_operationText (op : Operator) (hleft : FitsBraces left)
    (hright : FitsBraces right) (record : Value) :
    evaluate (.text (operationText op left right)) record = (do
      let x ← plainLookup record (trim left)
      let y ← plainLookup record (trim right)
      applyOperator op x y) := by
  have hbudget : depthBudget = 958 + 1 + 1 := rfl
  rw [evaluate, ofValue_operationText op hleft hright, Result.ok_bind, hbudget, evaluateWith,
    evaluateWith, evaluateWith]

theorem applyOperator_order {op : Operator} (hop : op.isOrder) (x y : Scalar) :
    applyOperator op x y =
      .ok (.bool (!x.isNull && !y.isNull && (x.compare? y).any op.admits)) := by
  cases op <;> first | rfl | contradiction

/-- A comparison of two fields by order holds if neither of them is null and they are in
the order that is asked for. -/
theorem truth_order {op : Operator} (hop : op.isOrder) (hleft : FitsBraces left)
    (hright : FitsBraces right) {x y : Scalar}
    (hx : plainLookup record (trim left) = .ok x)
    (hy : plainLookup record (trim right) = .ok y) :
    truth (operationText op left right) record =
      .ok (!x.isNull && !y.isNull && (x.compare? y).any op.admits) := by
  rw [truth, evaluate_operationText op hleft hright, hx, Result.ok_bind, hy, Result.ok_bind,
    applyOperator_order hop]
  rfl

end Expression

end InvoiceReadiness
