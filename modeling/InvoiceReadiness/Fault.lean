import InvoiceReadiness.Text.Quoted

/-!
# Faults

Everything that can go wrong in the library is a value of `Fault`, named for
its cause. Three families carry a message that users see: an expression that
cannot be read or evaluated, a check configuration with an unusable shape, and
a field registry that cannot be loaded. The others say which operation met a
value that it does not take; a run that isolates its checks drops the check, and
every other caller passes the fault on.
-/

namespace InvoiceReadiness

/-- Why an expression cannot be read or evaluated. -/
inductive ExpressionFault where
  /-- Nothing but blanks. -/
  | empty
  /-- No token starts with this character. -/
  | unexpectedCharacter (c : Char) (position : Nat)
  /-- A word that is no keyword; fields are written in braces. -/
  | unknownIdentifier (name : String)
  /-- A token where the grammar has no place for it, as messages quote it. -/
  | unexpectedToken (shown : String)
  | unclosedParenthesis
  | unexpectedEnd
  /-- An arithmetic operator and the text of an operand that is no number. -/
  | notNumeric (operator operand : String)
  /-- Null cannot be joined to a text. -/
  | nullText
  | divisionByZero
  /-- A field that holds a value of a kind that expressions do not know. -/
  | unsupportedField (kind : String)
  /-- A field of an amount that has no value. -/
  | missingField (path : String)
  /-- A formula nested beyond the depth budget. -/
  | nestedTooDeeply (formula : String)
  deriving DecidableEq

/-- The message of an expression fault. -/
def ExpressionFault.message : ExpressionFault → String
  | empty => "Empty expression"
  | unexpectedCharacter c position =>
    s!"Unexpected character {quoted c.toString} at position {position}"
  | unknownIdentifier name =>
    s!"Unknown identifier {quoted name}; wrap field names in braces"
  | unexpectedToken shown => s!"Unexpected token {shown}"
  | unclosedParenthesis => "Missing closing parenthesis"
  | unexpectedEnd => "Unexpected end of expression"
  | notNumeric operator operand =>
    s!"Operator {quoted operator} needs numbers, got {quoted operand}"
  | nullText => "Cannot concatenate null"
  | divisionByZero => "Division by zero"
  | unsupportedField kind => s!"Unsupported field value type: {kind}"
  | missingField path => s!"Field without a value: {path}"
  | nestedTooDeeply formula => s!"Formula too deeply nested: {quoted formula}"

/-- Why a check configuration has an unusable shape. -/
inductive ConfigFault where
  | notAnObject
  /-- The check's label and the rule type given, as messages quote it. -/
  | ruleType (label shown : String)
  /-- The check's label and the dataset scope given, as messages quote it. -/
  | datasetScope (label shown : String)
  | parameters (label : String)
  /-- The tolerance given, as messages quote it. -/
  | tolerance (shown : String)
  deriving DecidableEq

/-- The message of a configuration fault. -/
def ConfigFault.message : ConfigFault → String
  | notAnObject => "Check configuration must be an object"
  | ruleType label shown =>
    s!"Check '{label}': unsupported rule_type {shown} " ++
      "(expected one of missing, duplicate, math, regex, custom_formula)"
  | datasetScope label shown =>
    s!"Check '{label}': unsupported dataset_scope {shown} " ++
      "(expected one of buyers, header, lines, cross-file)"
  | parameters label => s!"Check '{label}': parameters must be an object"
  | tolerance shown => s!"math tolerance must be a number, got {shown}"

/-- Why a field registry cannot be loaded. -/
inductive RegistryFault where
  /-- The file cannot be read. -/
  | unreadable
  | notJson
  | noFields
  /-- The field at this position lacks its identifier or its business term. -/
  | incompleteField (position : Nat)
  deriving DecidableEq

/-- The message of a registry fault, for a registry kept at `path`. -/
def RegistryFault.message (path : String) : RegistryFault → String
  | unreadable => s!"Cannot read spec registry {path}"
  | notJson => s!"Spec registry {path} is not valid JSON"
  | noFields => s!"Spec registry {path} has no 'fields' list"
  | incompleteField position =>
    s!"Spec registry {path}: field #{position} lacks dr_id/business_term"

/-- Why an operation has no result. -/
inductive Fault where
  | expression (cause : ExpressionFault)
  | config (cause : ConfigFault)
  | registry (cause : RegistryFault)
  /-- A strictness that names no profile, as messages quote it. -/
  | unknownStrictness (shown : String)
  /-- A dataset kind that is none of the three. -/
  | unknownKind (shown : String)
  /-- A member was asked of a value that is not an object. -/
  | notAnObject
  /-- A text operation on a value that is not text. -/
  | notText
  /-- A value that holds no sequence of values was walked through. -/
  | notASequence
  /-- An operation on values of kinds that it does not take. -/
  | operandKind
  /-- A list or an object cannot identify a record. -/
  | notAKey
  /-- A required attribute was not given. -/
  | missingAttribute
  /-- An object lacks a member that has to be there. -/
  | missingMember
  /-- A text that is not a numeral where a number is needed. -/
  | notANumeral
  /-- A whole number of more digits than texts may have. -/
  | digitLimit
  /-- An infinite dividend has no remainder. -/
  | infiniteDividend
  /-- A not-a-number has no whole part. -/
  | noWholePart
  /-- A pattern that asks for both character repertoires. -/
  | conflictingFlags
  /-- A number beyond the largest finite binary64 number. -/
  | numberTooLarge
  /-- Nesting beyond the depth budget. -/
  | tooDeep
  | malformedJson
  | malformedUtf8
  deriving DecidableEq

/-- The message about a strictness that names no profile. -/
def Fault.strictnessMessage (shown : String) : String :=
  s!"Unknown strictness {shown} (expected one of strict, balanced, loose)"

/-- The message of a fault that has a text of its own. -/
def Fault.message? (path : String) : Fault → Option String
  | expression cause => some cause.message
  | config cause => some cause.message
  | registry cause => some (cause.message path)
  | unknownStrictness shown => some (strictnessMessage shown)
  | unknownKind shown => some s!"Unknown dataset kind: {shown}"
  | _ => none

/-- A computation that may end in a fault. -/
abbrev Result := Except Fault

end InvoiceReadiness
