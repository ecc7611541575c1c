import InvoiceReadiness.Text.Blank
import InvoiceReadiness.Text.Digit
import InvoiceReadiness.Text.Word
import InvoiceReadiness.Text.Caseless

/-!
# Text patterns

A pattern is a regular expression with captured groups, references to them,
assertions about the text on either side, and repetition that takes as much or
as little as it can. `Pattern` is its tree, with all flags already worked into
the leaves: which characters a leaf takes depends on the leaf alone.
-/

namespace InvoiceReadiness

/-- Classes of characters that patterns name by an escape. -/
inductive CharClass where
  | digit | blank | word
  deriving DecidableEq

/-- Whether a character is in a class; `ascii` restricts the class to ASCII. -/
def CharClass.holds (ascii : Bool) (c : Char) : CharClass → Bool
  | digit => if ascii then isAsciiDigit c else isDecimalDigit c
  | blank =>
    if ascii then c == ' ' || (9 ≤ c.toNat && c.toNat ≤ 13) else isBlankChar c
  | word => if ascii then isAsciiWordChar c else isWordChar c

/-- An item of a set of characters. -/
inductive SetItem where
  | range (first last : Nat)
  | kind (kind : CharClass) (negated : Bool)
  deriving DecidableEq

/-- A set of characters by its items. -/
structure CharSet where
  negated : Bool
  items : List SetItem
  caseless : Bool
  ascii : Bool
  deriving DecidableEq

namespace CharSet

/-- The forms of a character that a set looks for. -/
def forms (set : CharSet) (c : Char) : List Char :=
  if set.caseless then
    if set.ascii then [c, c.toLower, c.toUpper] else caselessForms c
  else [c]

def itemHolds (set : CharSet) (c : Char) : SetItem → Bool
  | .range first last =>
    (set.forms c).any fun form => first ≤ form.toNat && form.toNat ≤ last
  | .kind kind negated => kind.holds set.ascii c != negated

/-- Whether the set takes a character. -/
def takes (set : CharSet) (c : Char) : Bool :=
  set.items.any (set.itemHolds c) != set.negated

end CharSet

/-- A place between characters. -/
inductive Anchor where
  /-- Before the first character. -/
  | textStart
  /-- Before the first character of a line. -/
  | lineStart
  /-- After the last character, or before a line feed that is the last character. -/
  | lastLineEnd
  /-- Before a line feed, or after the last character. -/
  | lineEnd
  /-- After the last character. -/
  | textEnd
  /-- Between a word character and a character or end that is none, or not so. -/
  | wordEdge (ascii negated : Bool)
  deriving DecidableEq

/-- How a repetition tries its counts. -/
inductive RepeatMode where
  /-- As often as possible first. -/
  | greedy
  /-- As seldom as possible first. -/
  | lazy
  /-- As often as possible, and never less often. -/
  | possessive
  deriving DecidableEq

/-- A pattern as a tree. -/
inductive Pattern where
  | empty
  /-- Any character, the line feed only if asked for. -/
  | any (lineFeeds : Bool)
  | set (set : CharSet)
  | anchor (place : Anchor)
  | seq (first second : Pattern)
  | alt (first second : Pattern)
  | repeated (mode : RepeatMode) (min : Nat) (max : Option Nat) (body : Pattern)
  /-- A group of parts, captured if it has an index. -/
  | group (index : Option Nat) (body : Pattern)
  /-- The text that a group has captured. -/
  | captured (index : Nat) (caseless ascii : Bool)
  /-- The body matches, or does not match, ahead. -/
  | ahead (negated : Bool) (body : Pattern)
  /-- The body matches, or does not match, the `width` characters behind. -/
  | behind (width : Nat) (negated : Bool) (body : Pattern)
  /-- The body's first match and no other. -/
  | atomic (body : Pattern)
  /-- One of two bodies, by whether a group has captured a text. -/
  | ifCaptured (index : Nat) (yes no : Pattern)
  deriving DecidableEq

end InvoiceReadiness
