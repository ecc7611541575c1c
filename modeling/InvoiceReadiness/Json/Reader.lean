import InvoiceReadiness.Value

/-!
# Reading JSON text

A text is read strictly as one JSON value with nothing but white space around
it, with two extensions: the words `NaN`, `Infinity` and `-Infinity` are
numbers. A number written with a point or an exponent is a binary64 number,
any other a whole number. If an object names a member twice, the last value
counts, in the place of the first.

A reader has limits on the digits of a whole number and on nesting, since
registries and datasets come from outside. The recursion is on a step count
that starts above the length of the text; every step consumes a character.
-/

namespace InvoiceReadiness.Json

/-- What a reader accepts before it gives up. -/
structure Limits where
  digits : Nat
  depth : Nat

/-- The limits for files. -/
def fileLimits : Limits := ⟨maxWholeDigits, 990⟩

def isSpace (c : Char) : Bool :=
  c == ' ' || c == '\t' || c == '\n' || c == '\r'

def skipSpace (cs : List Char) : List Char :=
  cs.dropWhile isSpace

/-! ## Texts -/

def hexValue? (c : Char) : Option Nat :=
  if '0' ≤ c ∧ c ≤ '9' then some (c.toNat - 48)
  else if 'a' ≤ c ∧ c ≤ 'f' then some (c.toNat - 87)
  else if 'A' ≤ c ∧ c ≤ 'F' then some (c.toNat - 55)
  else none

/-- The code unit that four hexadecimal digits write, and the text after them. -/
def takeUnit? : List Char → Option (Nat × List Char)
  | a :: b :: c :: d :: rest => do
    let a ← hexValue? a
    let b ← hexValue? b
    let c ← hexValue? c
    let d ← hexValue? d
    return (((a * 16 + b) * 16 + c) * 16 + d, rest)
  | _ => none

/-- The character that an escape of one letter stands for. -/
def shortEscape? : Char → Option Char
  | '"' => some '"'
  | '\\' => some '\\'
  | '/' => some '/'
  | 'b' => some '\x08'
  | 'f' => some '\x0c'
  | 'n' => some '\n'
  | 'r' => some '\r'
  | 't' => some '\t'
  | _ => none

/--
The character of an escape by code, and the text after it. Two units that form
a surrogate pair are one character; a unit without its partner is replaced.
-/
def takeCoded? (cs : List Char) : Option (Char × List Char) := do
  let (unit, rest) ← takeUnit? cs
  if 0xD800 ≤ unit ∧ unit < 0xDC00 then
    match rest with
    | '\\' :: 'u' :: more =>
      match takeUnit? more with
      | some (low, after) =>
        if 0xDC00 ≤ low ∧ low < 0xE000 then
          return (Char.ofNat (0x10000 + (unit - 0xD800) * 0x400 + (low - 0xDC00)), after)
        else return ('\uFFFD', rest)
      | none => return ('\uFFFD', rest)
    | _ => return ('\uFFFD', rest)
  else if 0xDC00 ≤ unit ∧ unit < 0xE000 then return ('\uFFFD', rest)
  else return (Char.ofNat unit, rest)

/-- The text up to the closing quote, given the characters read so far in reverse. -/
def takeText? : Nat → List Char → List Char → Option (String × List Char)
  | 0, _, _ => none
  | _ + 1, _, [] => none
  | steps + 1, taken, c :: rest =>
    if c == '"' then some (String.ofList taken.reverse, rest)
    else if c == '\\' then
      match rest with
      | [] => none
      | 'u' :: digits => do
        let (coded, after) ← takeCoded? digits
        takeText? steps (coded :: taken) after
      | letter :: after => do
        let escaped ← shortEscape? letter
        takeText? steps (escaped :: taken) after
    else if c.toNat < 0x20 then none
    else takeText? steps (c :: taken) rest

/-! ## Numbers -/

private def digitValues (cs : List Char) : List Nat := cs.map fun c => c.toNat - 48

/-- A fraction part: its digits and the text after them. -/
def takeFraction (cs : List Char) : Option (List Char) × List Char :=
  match cs with
  | '.' :: rest =>
    let digits := rest.takeWhile isAsciiDigit
    if digits.isEmpty then (none, cs) else (some digits, rest.dropWhile isAsciiDigit)
  | _ => (none, cs)

/-- An exponent part: its value and the text after it. -/
def takeExponent (cs : List Char) : Option Int × List Char :=
  match cs with
  | c :: rest =>
    if c == 'e' || c == 'E' then
      let (negative, unsigned) := takeSign rest
      let digits := unsigned.takeWhile isAsciiDigit
      if digits.isEmpty then (none, cs)
      else
        let n : Int := (numberOfDigits (digitValues digits) : Nat)
        (some (if negative then -n else n), unsigned.dropWhile isAsciiDigit)
    else (none, cs)
  | [] => (none, cs)

/-- Whether a text starts with a minus, and the text after it. -/
def takeMinus (cs : List Char) : Bool × List Char :=
  match cs with
  | '-' :: rest => (true, rest)
  | _ => (false, cs)

/-- The digits at the head of a text before a point or an exponent. A zero stands alone. -/
def wholeDigits (cs : List Char) : List Char :=
  match cs with
  | '0' :: _ => ['0']
  | _ => cs.takeWhile isAsciiDigit

/-- The number at the head of a text, and the text after it. -/
def takeNumber (limits : Limits) (cs : List Char) : Result (Number × List Char) :=
  let (negative, unsigned) := takeMinus cs
  let digits := wholeDigits unsigned
  if digits.isEmpty then .error .malformedJson
  else
    let (fraction, afterFraction) := takeFraction (unsigned.drop digits.length)
    let (exponent, rest) := takeExponent afterFraction
    if fraction.isNone && exponent.isNone then
      if limits.digits < digits.length then .error .digitLimit
      else
        let n : Int := (numberOfDigits (digitValues digits) : Nat)
        .ok (.whole (if negative then -n else n), rest)
    else
      let places := fraction.getD []
      .ok (.float (Binary64.ofDecimal negative (numberOfDigits (digitValues (digits ++ places)))
        (exponent.getD 0 - places.length)), rest)

/-! ## Values -/

/-- The text after a word, if it starts with it. -/
def after? (word : String) (cs : List Char) : Option (List Char) :=
  if word.toList.isPrefixOf cs then some (cs.drop word.length) else none

/-- A value written as one word. -/
def takeWord? (cs : List Char) : Option (Value × List Char) :=
  ([("null", Value.null), ("true", .bool true), ("false", .bool false),
    ("NaN", .ofFloat .nan), ("Infinity", .ofFloat (.infinite false)),
    ("-Infinity", .ofFloat (.infinite true))] : List (String × Value)).findSome?
      fun (word, value) => (after? word cs).map fun rest => (value, rest)

mutual

/-- The value at the head of a text that starts with no space. -/
def takeValue (limits : Limits) : Nat → Nat → List Char → Result (Value × List Char)
  | 0, _, _ => .error .malformedJson
  | _ + 1, _, [] => .error .malformedJson
  | steps + 1, depth, c :: rest =>
    if c == '"' then
      match takeText? steps [] rest with
      | some (s, after) => .ok (.text s, after)
      | none => .error .malformedJson
    else if c == '[' then
      if limits.depth ≤ depth then .error .tooDeep
      else
        match skipSpace rest with
        | ']' :: after => .ok (.list [], after)
        | inner => takeItems limits steps (depth + 1) [] inner
    else if c == '\x7b' then
      if limits.depth ≤ depth then .error .tooDeep
      else
        match skipSpace rest with
        | '\x7d' :: after => .ok (.object [], after)
        | inner => takeMembers limits steps (depth + 1) [] inner
    else
      match takeWord? (c :: rest) with
      | some found => .ok found
      | none => do
        let (n, after) ← takeNumber limits (c :: rest)
        return (.number n, after)

/-- The items of a list up to its end, given those before them in reverse. -/
def takeItems (limits : Limits) :
    Nat → Nat → List Value → List Char → Result (Value × List Char)
  | 0, _, _, _ => .error .malformedJson
  | steps + 1, depth, taken, cs => do
    let (item, rest) ← takeValue limits steps depth cs
    match skipSpace rest with
    | ',' :: after => takeItems limits steps depth (item :: taken) (skipSpace after)
    | ']' :: after => return (.list (item :: taken).reverse, after)
    | _ => throw .malformedJson

/-- The members of an object up to its end, given those before them. -/
def takeMembers (limits : Limits) :
    Nat → Nat → Members → List Char → Result (Value × List Char)
  | 0, _, _, _ => .error .malformedJson
  | steps + 1, depth, taken, cs =>
    match cs with
    | '"' :: nameText =>
      match takeText? steps [] nameText with
      | none => .error .malformedJson
      | some (name, rest) =>
        match skipSpace rest with
        | ':' :: after => do
          let (value, rest) ← takeValue limits steps depth (skipSpace after)
          let members := (name, value) :: taken
          match skipSpace rest with
          | ',' :: more => takeMembers limits steps depth members (skipSpace more)
          | '\x7d' :: more => return (.object (distinct members.reverse), more)
          | _ => throw .malformedJson
        | _ => .error .malformedJson
    | _ => .error .malformedJson
where
  /-- One member for each name: the place of the first, the value of the last. -/
  distinct (members : Members) : Members :=
    members.foldl (fun known member => known.set member.1 member.2) []

end

/-- The value that a whole text writes. -/
def read (limits : Limits) (s : String) : Result Value := do
  let cs := skipSpace s.toList
  let (value, rest) ← takeValue limits (2 * cs.length + 2) 0 cs
  if (skipSpace rest).isEmpty then return value else throw .malformedJson

end InvoiceReadiness.Json
