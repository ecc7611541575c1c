import InvoiceReadiness.Fault
import InvoiceReadiness.Numeric.NumberReading
import InvoiceReadiness.Pattern.Basic

/-!
# Reading patterns

A pattern's text is cut into symbols first: a character, or a backslash with
the character after it. The symbols are read by descent: alternatives, sequences
of items, repetitions of the item before them, groups, sets.

While reading, the reader keeps what the text has said so far: the flags, the
groups with their widths (none while a group is open), their names, and whether
it is inside a look-behind, which must not refer to groups of its own.

A text that is no pattern is `invalid`, which callers treat as a check that does
not apply. A few texts are refused with a fault instead: a repetition count that
is too large, and a demand for both character repertoires at once.
-/

namespace InvoiceReadiness

/-- Why a text is not read as a pattern. -/
inductive PatternFault where
  | invalid
  | fault (cause : Fault)

/-! ## Widths -/

/-- The least and the greatest number of characters that a pattern takes. -/
structure Width where
  least : Nat
  greatest : Nat
  deriving DecidableEq

/-- A width beyond which no difference is made. -/
def widthLimit : Nat := twoPow 64

namespace Width

def zero : Width := ⟨0, 0⟩

def one : Width := ⟨1, 1⟩

def cap (w : Width) : Width := ⟨min w.least widthLimit, min w.greatest widthLimit⟩

def add (v w : Width) : Width := cap ⟨v.least + w.least, v.greatest + w.greatest⟩

def union (v w : Width) : Width := ⟨min v.least w.least, max v.greatest w.greatest⟩

def times (w : Width) (least : Nat) (greatest : Option Nat) : Width :=
  cap ⟨w.least * least,
    match greatest with
    | some n => w.greatest * n
    | none => if w.greatest = 0 then 0 else widthLimit⟩

end Width

/-- The width of a pattern, given the widths of the captured groups. -/
def Pattern.width (groups : Nat → Width) : Pattern → Width
  | .empty => .zero
  | .any _ => .one
  | .set _ => .one
  | .anchor _ => .zero
  | .seq first second => (first.width groups).add (second.width groups)
  | .alt first second => (first.width groups).union (second.width groups)
  | .repeated _ least greatest body => (body.width groups).times least greatest
  | .group _ body => body.width groups
  | .captured index _ _ => groups index
  | .ahead _ _ => .zero
  | .behind _ _ _ => .zero
  | .atomic body => body.width groups
  | .ifCaptured _ yes no => (yes.width groups).union (no.width groups)

namespace PatternReader

/-- A character, or a backslash with the character after it. -/
structure Symbol where
  escaped : Bool
  char : Char
  deriving DecidableEq

/-- The symbols of a text; none if it ends in a backslash that escapes nothing. -/
def symbols? : List Char → Option (List Symbol)
  | [] => some []
  | [c] => if c == '\\' then none else some [⟨false, c⟩]
  | c :: d :: rest =>
    if c == '\\' then (symbols? rest).map (⟨true, d⟩ :: ·)
    else (symbols? (d :: rest)).map (⟨false, c⟩ :: ·)

/-- The flags that change what the leaves of a pattern take. -/
structure Flags where
  caseless : Bool := false
  multiline : Bool := false
  dotAll : Bool := false
  verbose : Bool := false
  ascii : Bool := false
  wide : Bool := false
  single : Bool := false
  deriving DecidableEq

namespace Flags

/-- The flags that are on in either. -/
def union (f g : Flags) : Flags where
  caseless := f.caseless || g.caseless
  multiline := f.multiline || g.multiline
  dotAll := f.dotAll || g.dotAll
  verbose := f.verbose || g.verbose
  ascii := f.ascii || g.ascii
  wide := f.wide || g.wide
  single := f.single || g.single

/-- Flags inside a group that turns some on and some off. -/
def within (f on off : Flags) : Flags where
  caseless := (f.caseless || on.caseless) && !off.caseless
  multiline := (f.multiline || on.multiline) && !off.multiline
  dotAll := (f.dotAll || on.dotAll) && !off.dotAll
  verbose := (f.verbose || on.verbose) && !off.verbose
  ascii := if on.ascii || on.wide then on.ascii else f.ascii
  wide := f.wide
  single := f.single

/-- Whether some flag is on in both. -/
def meets (f g : Flags) : Bool :=
  (f.caseless && g.caseless) || (f.multiline && g.multiline) || (f.dotAll && g.dotAll) ||
    (f.verbose && g.verbose)

/-- The flags with the one that a letter names turned on. -/
def withLetter? (f : Flags) (letter : Char) : Option Flags :=
  if letter == 'i' then some { f with caseless := true }
  else if letter == 'm' then some { f with multiline := true }
  else if letter == 's' then some { f with dotAll := true }
  else if letter == 'x' then some { f with verbose := true }
  else if letter == 'a' then if f.wide then none else some { f with ascii := true }
  else if letter == 'u' then if f.ascii then none else some { f with wide := true }
  else if letter == 't' then some { f with single := true }
  else none

end Flags

/-- What the text has said so far. -/
structure State where
  rest : List Symbol
  flags : Flags
  /-- The width of each group from the first on; none while the group is open. -/
  groups : List (Option Width)
  names : List (String × Nat)
  /-- Inside a look-behind: the number of groups that were opened before it. -/
  behind : Option Nat
  /-- Groups that conditions ask for, which must exist in the end. -/
  asked : List Nat
  /-- Something was met that makes a pattern useless once all of it can be read. -/
  useless : Bool

/-- A reading step: it may look at and change the state, and it may fail. -/
abbrev Reads := StateT State (Except PatternFault)

def invalid {α : Type} : Reads α := throw .invalid

/-- The next symbol, left in place. -/
def peek : Reads (Option Symbol) := return (← get).rest.head?

/-- The next symbol, taken. -/
def next : Reads (Option Symbol) := do
  let state ← get
  set { state with rest := state.rest.drop 1 }
  return state.rest.head?

/-- The next symbol, taken; there must be one. -/
def require : Reads Symbol := do
  match ← next with
  | some symbol => return symbol
  | none => invalid

/-- Whether the next symbol is the given character; then it is taken. -/
def accept (c : Char) : Reads Bool := do
  if (← peek) == some ⟨false, c⟩ then
    let _ ← next
    return true
  else return false

/-- The next symbol must be the given character. -/
def expect (c : Char) : Reads Unit := do
  if ← accept c then return () else invalid

/-- At most `count` characters of a class, taken as long as they last. -/
def takeChars (holds : Char → Bool) : Nat → Reads (List Char)
  | 0 => return []
  | count + 1 => do
    match ← peek with
    | some ⟨false, c⟩ =>
      if holds c then
        let _ ← next
        return c :: (← takeChars holds count)
      else return []
    | _ => return []

/-- The characters that a symbol is written with. -/
def Symbol.source (symbol : Symbol) : List Char :=
  if symbol.escaped then ['\\', symbol.char] else [symbol.char]

/-- A name up to a terminator, which is taken; it must not be empty. -/
def takeName (terminator : Char) : Reads (List Char) := do
  let symbols := (← get).rest
  let isEnd (symbol : Symbol) : Bool := symbol == ⟨false, terminator⟩
  let name := symbols.takeWhile fun symbol => !isEnd symbol
  let after := symbols.drop name.length
  if name.isEmpty || after.isEmpty then invalid
  else
    modify fun state => { state with rest := after.drop 1 }
    return name.flatMap Symbol.source

/-- Names of groups start with a letter or an underscore. -/
def isName (name : List Char) : Bool :=
  match name with
  | [] => false
  | c :: rest => isWordChar c && !isDigitLike c && rest.all isWordChar

/-! ## Escapes -/

def isOctal (c : Char) : Bool := '0' ≤ c && c ≤ '7'

def isHex (c : Char) : Bool :=
  isAsciiDigit c || ('a' ≤ c && c ≤ 'f') || ('A' ≤ c && c ≤ 'F')

/-- The number that digits of a base write. -/
def numeral (base : Nat) (digits : List Char) : Nat :=
  digits.foldl (fun n c =>
    base * n + (if isAsciiDigit c then c.toNat - 48 else c.toLower.toNat - 87)) 0

/-- The code of an escape with exactly `count` hexadecimal digits. -/
def hexCode (count : Nat) : Reads Nat := do
  let digits ← takeChars isHex count
  if digits.length = count then return numeral 16 digits else invalid

/-- The code that a letter after a backslash stands for. -/
def controlCode? (c : Char) : Option Nat :=
  if c == 'a' then some 7
  else if c == 'f' then some 12
  else if c == 'n' then some 10
  else if c == 'r' then some 13
  else if c == 't' then some 9
  else if c == 'v' then some 11
  else if c == '\\' then some 92
  else none

/-- The class that a letter after a backslash stands for, and whether it is negated. -/
def classOf? (c : Char) : Option (CharClass × Bool) :=
  if c == 'd' then some (.digit, false)
  else if c == 'D' then some (.digit, true)
  else if c == 's' then some (.blank, false)
  else if c == 'S' then some (.blank, true)
  else if c == 'w' then some (.word, false)
  else if c == 'W' then some (.word, true)
  else none

/-- The code of an escape of a character that is neither a class nor a reference. -/
def codeOf (c : Char) : Reads Nat :=
  if c == 'x' then hexCode 2
  else if c == 'u' then hexCode 4
  else if c == 'U' then do
    let code ← hexCode 8
    if code < 0x110000 then return code else invalid
  else if c.isAlpha then invalid
  else return c.toNat

/-- An octal escape that starts with `c` and has at most two more digits. -/
def octalCode (c : Char) : Reads Nat := do
  let more ← takeChars isOctal 2
  let code := numeral 8 (c :: more)
  if code ≤ 0o377 then return code else invalid

/-- An item of a set that starts with an escape. -/
def setEscape (c : Char) : Reads SetItem := do
  match classOf? c with
  | some (kind, negated) => return .kind kind negated
  | none =>
    let code ←
      if c == 'b' then pure 8
      else
        match controlCode? c with
        | some code => pure code
        | none =>
          if isOctal c then octalCode c
          else if isAsciiDigit c then invalid
          else codeOf c
    return .range code code

/-! ## Leaves -/

def leaf (flags : Flags) (negated : Bool) (items : List SetItem) : Pattern :=
  .set ⟨negated, items, flags.caseless, flags.ascii⟩

def literal (flags : Flags) (code : Nat) : Pattern :=
  leaf flags false [.range code code]

/-- The width of a group; none unless it is closed. -/
def groupWidth? (state : State) (index : Nat) : Option Width :=
  (state.groups[index - 1]?).join

/-- A look-behind may refer to closed groups before it only. -/
def checkBehind (index : Nat) : Reads Unit := do
  let state ← get
  match state.behind with
  | none => return ()
  | some opened =>
    if (groupWidth? state index).isNone || opened < index then invalid else return ()

/-- A reference to the text of a closed group. -/
def reference (flags : Flags) (index : Nat) : Reads Pattern := do
  if (groupWidth? (← get) index).isNone then invalid
  else
    checkBehind index
    return .captured index flags.caseless flags.ascii

/-- An escape that starts with a digit other than zero: an octal code or a reference. -/
def digitEscape (flags : Flags) (c : Char) : Reads Pattern := do
  match ← peek with
  | some ⟨false, d⟩ =>
    if isAsciiDigit d then
      let _ ← next
      match ← peek with
      | some ⟨false, e⟩ =>
        if isOctal c && isOctal d && isOctal e then
          let _ ← next
          let code := numeral 8 [c, d, e]
          if code ≤ 0o377 then return literal flags code else invalid
        else reference flags (numeral 10 [c, d])
      | _ => reference flags (numeral 10 [c, d])
    else reference flags (numeral 10 [c])
  | _ => reference flags (numeral 10 [c])

/-- An escape outside of a set. -/
def escape (flags : Flags) (c : Char) : Reads Pattern := do
  if c == 'A' then return .anchor .textStart
  else if c == 'Z' then return .anchor .textEnd
  else if c == 'b' then return .anchor (.wordEdge flags.ascii false)
  else if c == 'B' then return .anchor (.wordEdge flags.ascii true)
  else
    match classOf? c with
    | some (kind, negated) => return leaf flags false [.kind kind negated]
    | none =>
      match controlCode? c with
      | some code => return literal flags code
      | none =>
        if c == '0' then return literal flags (← octalCode c)
        else if isAsciiDigit c then digitEscape flags c
        else return literal flags (← codeOf c)

/-- The code of an item that is a single character. -/
def codeOfItem? : SetItem → Option Nat
  | .range first last => if first = last then some first else none
  | .kind _ _ => none

/-- The item at the next symbol of a set. -/
def setItem (symbol : Symbol) : Reads SetItem :=
  if symbol.escaped then setEscape symbol.char
  else return .range symbol.char.toNat symbol.char.toNat

/-- The items of a set up to its closing bracket, given those before them. -/
def setItems : Nat → List SetItem → Reads (List SetItem)
  | 0, _ => invalid
  | steps + 1, items => do
    let symbol ← require
    if symbol == ⟨false, ']'⟩ && !items.isEmpty then return items
    else
      let first ← setItem symbol
      if ← accept '-' then
        let symbol ← require
        if symbol == ⟨false, ']'⟩ then return items ++ [first, .range 45 45]
        else
          let last ← setItem symbol
          match codeOfItem? first, codeOfItem? last with
          | some lo, some hi =>
            if hi < lo then invalid else setItems steps (items ++ [.range lo hi])
          | _, _ => invalid
      else setItems steps (items ++ [first])

/-! ## Repetitions -/

/-- A repetition count, where one is written. -/
def count? (digits : List Char) : Reads (Option Nat) :=
  if digits.isEmpty then return none
  else if 4300 < digits.length then throw (.fault .digitLimit)
  else
    let n := numeral 10 digits
    if 4294967295 ≤ n then throw (.fault .numberTooLarge) else return some n

/-- The counts in braces after an opening brace; none if there are no counts. -/
def braceCounts? : Reads (Option (Nat × Option Nat)) := do
  let start ← get
  if (← peek) == some ⟨false, '\x7d'⟩ then return none
  let low ← takeChars isAsciiDigit start.rest.length
  let ranged ← accept ','
  let high ← if ranged then takeChars isAsciiDigit start.rest.length else pure low
  if ← accept '\x7d' then
    let least ← count? low
    let greatest ← count? high
    if greatest.any (· < least.getD 0) then invalid
    else return some (least.getD 0, greatest)
  else
    set start
    return none

/-- The mode of a repetition, by the symbol after its count. -/
def repeatMode : Reads RepeatMode := do
  if ← accept '?' then return .lazy
  else if ← accept '+' then return .possessive
  else return .greedy

/-- The repetition of the last item; there must be one that can be repeated. -/
def repeatLast (flags : Flags) (least : Nat) (greatest : Option Nat) (items : List Pattern) :
    Reads (List Pattern) := do
  match items with
  | [] => invalid
  | .anchor _ :: _ => invalid
  | .repeated .. :: _ => invalid
  | item :: before =>
    if flags.single then modify fun state => { state with useless := true }
    return .repeated (← repeatMode) least greatest item :: before

/-! ## Groups -/

/-- Open a group, with a name if it has one. -/
def openGroup (name : Option (List Char)) : Reads Nat := do
  let state ← get
  let index := state.groups.length + 1
  let names ← match name with
    | none => pure state.names
    | some cs =>
      let name := String.ofList cs
      if state.names.any fun known => known.1 == name then invalid
      else pure ((name, index) :: state.names)
  set { state with groups := state.groups ++ [none], names }
  return index

/-- The widths of the groups, as far as they are closed. -/
def widths (state : State) (index : Nat) : Width :=
  (groupWidth? state index).getD .zero

/-- Close a group whose body has been read. -/
def closeGroup (index : Nat) (body : Pattern) : Reads Unit :=
  modify fun state =>
    { state with groups := state.groups.set (index - 1) (some (body.width (widths state))) }

/-- The letters of a group's flags, the first of which has been read, and what ends them. -/
def flagLetters : Nat → Flags → Char → Reads (Flags × Char)
  | 0, _, _ => invalid
  | steps + 1, flags, letter => do
    match flags.withLetter? letter with
    | none => invalid
    | some flags =>
      match ← require with
      | ⟨true, _⟩ => invalid
      | ⟨false, c⟩ =>
        if c == ')' || c == '-' || c == ':' then return (flags, c)
        else flagLetters steps flags c

/-- Flags that a group turns on and off; none for flags of the whole pattern. -/
def groupFlags (letter : Char) : Reads (Option (Flags × Flags)) := do
  let steps := (← get).rest.length + 1
  let (on, ending) ← if letter == '-' then pure (({} : Flags), '-')
    else flagLetters steps {} letter
  if ending == ')' then
    modify fun state => { state with flags := state.flags.union on }
    return none
  if on.single then invalid
  if ending == ':' then return some (on, {})
  match ← require with
  | ⟨true, _⟩ => invalid
  | ⟨false, c⟩ =>
    let (off, ending) ← flagLetters steps {} c
    if ending != ':' || off.ascii || off.wide || off.single || on.meets off then invalid
    else return some (on, off)

/-- The group that a condition asks about. -/
def conditionGroup : Reads Nat := do
  let name ← takeName ')'
  let index ←
    if isName name then
      match (← get).names.find? fun known => known.1 == String.ofList name with
      | some (_, index) => pure index
      | none => invalid
    else
      let trimmed := trimChars isNumberMargin name
      let unsigned := match trimmed with
        | '+' :: rest => rest
        | _ => trimmed
      match (withoutSeparators? false unsigned).bind (·.mapM decimalDigit?) with
      | some digits =>
        let index := numberOfDigits digits
        if digits.isEmpty || index = 0 || 1073741823 ≤ index then invalid
        else
          modify fun state => { state with asked := index :: state.asked }
          pure index
      | none => invalid
  checkBehind index
  return index

/-- Take the symbols of a comment up to its closing parenthesis. -/
def skipComment : Reads Unit := do
  let symbols := (← get).rest
  let isEnd (symbol : Symbol) : Bool := symbol == ⟨false, ')'⟩
  let after := symbols.dropWhile fun symbol => !isEnd symbol
  if after.isEmpty then invalid
  else modify fun state => { state with rest := after.drop 1 }

/-- Take the symbols up to the end of the line. -/
def skipLine : Reads Unit :=
  modify fun state =>
    { state with rest := (state.rest.dropWhile fun symbol => symbol != ⟨false, '\n'⟩).drop 1 }

def isVerboseSpace (symbol : Symbol) : Bool :=
  !symbol.escaped && (symbol.char == ' ' || (9 ≤ symbol.char.toNat && symbol.char.toNat ≤ 13))

/-- Items in reverse as one pattern. -/
def sequence (items : List Pattern) : Pattern :=
  items.foldl (fun rest item => match rest with
    | .empty => item
    | _ => .seq item rest) .empty

mutual

/--
The alternatives at the head of the rest. `outer` says that they are those of
the whole pattern, where the flags that it turns on for all of itself count.
-/
def alternatives : Nat → Bool → Flags → Reads Pattern
  | 0, _, _ => throw (.fault .tooDeep)
  | steps + 1, outer, flags => do
    let first ← items steps outer outer flags []
    if ← accept '|' then moreAlternatives steps outer flags first else return first

/-- The alternatives after a bar, given those before it. -/
def moreAlternatives : Nat → Bool → Flags → Pattern → Reads Pattern
  | 0, _, _, _ => throw (.fault .tooDeep)
  | steps + 1, outer, flags, before => do
    let state ← get
    let flags := if outer then state.flags else flags
    let second ← items steps outer false flags []
    if ← accept '|' then
      return .alt before (← moreAlternatives steps outer flags second)
    else return .alt before second

/--
The items at the head of the rest, up to a bar or a closing parenthesis, given
those before them in reverse. `leading` says that flags for the whole pattern may
still be turned on.
-/
def items : Nat → Bool → Bool → Flags → List Pattern → Reads Pattern
  | 0, _, _, _, _ => throw (.fault .tooDeep)
  | steps + 1, outer, leading, flags, before => do
    match ← peek with
    | none => return sequence before
    | some symbol =>
      if symbol == ⟨false, '|'⟩ || symbol == ⟨false, ')'⟩ then return sequence before
      let _ ← next
      if flags.verbose && isVerboseSpace symbol then items steps outer leading flags before
      else if flags.verbose && symbol == ⟨false, '#'⟩ then
        skipLine
        items steps outer leading flags before
      else if symbol.escaped then
        let item ← escape flags symbol.char
        items steps outer leading flags (item :: before)
      else
        let c := symbol.char
        if c == '.' then items steps outer leading flags (.any flags.dotAll :: before)
        else if c == '^' then
          let place := if flags.multiline then Anchor.lineStart else .textStart
          items steps outer leading flags (.anchor place :: before)
        else if c == '$' then
          let place := if flags.multiline then Anchor.lineEnd else .lastLineEnd
          items steps outer leading flags (.anchor place :: before)
        else if c == '[' then
          let negated ← accept '^'
          let found ← setItems ((← get).rest.length + 1) []
          items steps outer leading flags (leaf flags negated found :: before)
        else if c == '*' then
          items steps outer leading flags (← repeatLast flags 0 none before)
        else if c == '+' then
          items steps outer leading flags (← repeatLast flags 1 none before)
        else if c == '?' then
          items steps outer leading flags (← repeatLast flags 0 (some 1) before)
        else if c == '\x7b' then
          match ← braceCounts? with
          | some (least, greatest) =>
            items steps outer leading flags (← repeatLast flags least greatest before)
          | none => items steps outer leading flags (literal flags c.toNat :: before)
        else if c == '(' then
          match ← group steps (leading && before.isEmpty) flags with
          | some item => items steps outer leading flags (item :: before)
          | none =>
            let state ← get
            let flags := if outer then state.flags else flags
            items steps outer leading flags before
        else items steps outer leading flags (literal flags c.toNat :: before)

/--
What follows an opening parenthesis: a group, an assertion, a reference, or
nothing that takes part in matching, such as a comment.
-/
def group : Nat → Bool → Flags → Reads (Option Pattern)
  | 0, _, _ => throw (.fault .tooDeep)
  | steps + 1, leading, flags => do
    if !(← accept '?') then
      return some (← capturing steps none flags)
    match ← require with
    | ⟨true, _⟩ => invalid
    | ⟨false, c⟩ =>
      if c == 'P' then
        if ← accept '<' then
          let name ← takeName '>'
          if isName name then return some (← capturing steps (some name) flags) else invalid
        else if ← accept '=' then
          let name ← takeName ')'
          match (← get).names.find? fun known => known.1 == String.ofList name with
          | some (_, index) => return some (← reference flags index)
          | none => invalid
        else invalid
      else if c == ':' then
        let body ← alternatives steps false flags
        expect ')'
        return some (.group none body)
      else if c == '#' then
        skipComment
        return none
      else if c == '=' || c == '!' then
        let body ← alternatives steps false flags
        expect ')'
        return some (.ahead (c == '!') body)
      else if c == '<' then
        let symbol ← require
        if symbol == ⟨false, '='⟩ || symbol == ⟨false, '!'⟩ then
          lookBehind steps (symbol.char == '!') flags
        else invalid
      else if c == '(' then
        let index ← conditionGroup
        let yes ← items steps false false flags []
        let no ← if ← accept '|' then items steps false false flags [] else pure .empty
        expect ')'
        return some (.ifCaptured index yes no)
      else if c == '>' then
        let body ← alternatives steps false flags
        expect ')'
        return some (.atomic body)
      else
        match ← groupFlags c with
        | none => if leading then return none else invalid
        | some (on, off) =>
          let body ← alternatives steps false (flags.within on off)
          expect ')'
          return some (.group none body)

/-- A captured group up to its closing parenthesis. -/
def capturing : Nat → Option (List Char) → Flags → Reads Pattern
  | 0, _, _ => throw (.fault .tooDeep)
  | steps + 1, name, flags => do
    let index ← openGroup name
    let body ← alternatives steps false flags
    expect ')'
    closeGroup index body
    return .group (some index) body

/-- A look-behind up to its closing parenthesis; what it looks for has one width. -/
def lookBehind : Nat → Bool → Flags → Reads (Option Pattern)
  | 0, _, _ => throw (.fault .tooDeep)
  | steps + 1, negated, flags => do
    let outside := (← get).behind
    if outside.isNone then
      modify fun state => { state with behind := some state.groups.length }
    let body ← alternatives steps false flags
    modify fun state => { state with behind := outside }
    expect ')'
    let width := body.width (widths (← get))
    if width.least != width.greatest then
      modify fun state => { state with useless := true }
    return some (.behind width.least negated body)

end

/-- The pattern that the whole rest is. -/
def whole (steps : Nat) : Reads Pattern := do
  let pattern ← alternatives steps true {}
  let state ← get
  if state.flags.ascii && state.flags.wide then throw (.fault .conflictingFlags)
  if !state.rest.isEmpty || state.asked.any (state.groups.length < ·) || state.useless then
    invalid
  else return pattern

end PatternReader

/-- The pattern that a text writes. -/
def Pattern.ofText (s : String) : Except PatternFault Pattern :=
  match PatternReader.symbols? s.toList with
  | none => .error .invalid
  | some symbols =>
    ((PatternReader.whole (6 * symbols.length + 6)).run
      { rest := symbols, flags := {}, groups := [], names := [], behind := none, asked := [],
        useless := false }).map
      Prod.fst

end InvoiceReadiness
