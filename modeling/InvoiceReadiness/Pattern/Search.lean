import InvoiceReadiness.Pattern.Basic

/-!
# Searching a text for a pattern

Matching follows the pattern from left to right and tries the alternatives of
each choice in order, with what comes after the choice as a continuation: the
first way in which everything matches wins. The recursion is on the pattern.

A repetition runs in a loop of its own. Beyond its least count it starts another
round only if the round before has moved, so the number of rounds is at most the
least count and two more than the characters left, and that bounds the loop.
-/

namespace InvoiceReadiness

/-- A place in a text: the characters before it, nearest first, and those after it. -/
structure Place where
  before : List Char
  after : List Char
  /-- The number of characters before. -/
  index : Nat

/-- A place in the text and what the groups have captured. -/
structure MatchState where
  place : Place
  captures : List (Nat × List Char)

namespace MatchState

/-- The text that a group has captured last. -/
def capture? (state : MatchState) (index : Nat) : Option (List Char) :=
  (state.captures.find? fun capture => capture.1 == index).map Prod.snd

/-- The state after one character that `takes` accepts. -/
def step? (takes : Char → Bool) (state : MatchState) : Option MatchState :=
  match state.place.after with
  | [] => none
  | c :: rest =>
    if takes c then
      some { state with place := ⟨c :: state.place.before, rest, state.place.index + 1⟩ }
    else none

/-- The state after a text, whose characters are compared by `equal`. -/
def takeText? (equal : Char → Char → Bool) : List Char → MatchState → Option MatchState
  | [], state => some state
  | c :: rest, state =>
    match state.step? (equal c) with
    | some next => takeText? equal rest next
    | none => none

/-- The state some characters earlier. -/
def back? (state : MatchState) : Nat → Option MatchState
  | 0 => some state
  | width + 1 =>
    match state.place.before with
    | [] => none
    | c :: rest =>
      back? { state with place := ⟨rest, c :: state.place.after, state.place.index - 1⟩ } width

end MatchState

/-- Whether a place is the one that an anchor asks for. -/
def Anchor.holds (place : Place) : Anchor → Bool
  | textStart => place.before.isEmpty
  | lineStart => place.before.head?.all (· == '\n')
  | lastLineEnd => place.after.isEmpty || place.after == ['\n']
  | lineEnd => place.after.head?.all (· == '\n')
  | textEnd => place.after.isEmpty
  | wordEdge ascii negated =>
    let word (c : Char) := CharClass.word.holds ascii c
    let edge := place.before.head?.any word != place.after.head?.any word
    !(place.before.isEmpty && place.after.isEmpty) && edge != negated

namespace Pattern

/-- What remains to be matched. -/
abbrev Continue := MatchState → Option MatchState

/-- A way to match a part of a pattern before what remains. -/
abbrev Step := MatchState → Continue → Option MatchState

/-- Whether another round may start: the last one has moved, and the count allows it. -/
private def mayRepeat (max : Option Nat) (count : Nat) (last : Option Nat)
    (state : MatchState) : Bool :=
  max.all (count < ·) && last != some state.place.index

/-- Rounds of a repetition that takes as much as it can. -/
def repeatGreedy (body : Step) (min : Nat) (max : Option Nat) (rest : Continue) :
    Nat → Nat → Option Nat → Continue
  | 0, _, _, _ => none
  | rounds + 1, count, last, state =>
    if count < min then
      body state fun next => repeatGreedy body min max rest rounds (count + 1) last next
    else
      let more :=
        if mayRepeat max count last state then
          body state fun next =>
            repeatGreedy body min max rest rounds (count + 1) (some state.place.index) next
        else none
      match more with
      | some done => some done
      | none => rest state

theorem repeatGreedy_of_lt {body : Step} {min count : Nat} {max last : Option Nat}
    {rest : Continue} {state : MatchState} (rounds : Nat) (h : count < min) :
    repeatGreedy body min max rest (rounds + 1) count last state =
      body state fun next => repeatGreedy body min max rest rounds (count + 1) last next :=
  if_pos h

/-- A repetition that has reached its greatest count is over. -/
theorem repeatGreedy_of_max {body : Step} {count : Nat} {last : Option Nat} {rest : Continue}
    {state : MatchState} (rounds : Nat) :
    repeatGreedy body count (some count) rest (rounds + 1) count last state = rest state := by
  have hover : mayRepeat (some count) count last state = false := by simp [mayRepeat]
  rw [repeatGreedy, if_neg (Nat.lt_irrefl count), hover]
  rfl

/-- Rounds of a repetition that takes as little as it can. -/
def repeatLazy (body : Step) (min : Nat) (max : Option Nat) (rest : Continue) :
    Nat → Nat → Option Nat → Continue
  | 0, _, _, _ => none
  | rounds + 1, count, last, state =>
    if count < min then
      body state fun next => repeatLazy body min max rest rounds (count + 1) last next
    else
      match rest state with
      | some done => some done
      | none =>
        if mayRepeat max count last state then
          body state fun next =>
            repeatLazy body min max rest rounds (count + 1) (some state.place.index) next
        else none

/-- Rounds of a repetition that never gives back what it has taken. -/
def repeatPossessive (body : Step) (min : Nat) (max : Option Nat) :
    Nat → Nat → Option Nat → Continue
  | 0, _, _, _ => none
  | rounds + 1, count, last, state =>
    if count < min then
      match body state some with
      | some next => repeatPossessive body min max rounds (count + 1) last next
      | none => none
    else if mayRepeat max count last state then
      match body state some with
      | some next =>
        repeatPossessive body min max rounds (count + 1) (some state.place.index) next
      | none => some state
    else some state

/-- The state with the text since `start` captured by a group. -/
def captureSince (start : Place) (index : Nat) (state : MatchState) : MatchState :=
  let text := start.after.take (state.place.index - start.index)
  { state with captures := (index, text) :: state.captures.filter fun capture =>
      capture.1 != index }

/-- Match a pattern at a state and then what remains. -/
def run : Pattern → Step
  | empty, state, rest => rest state
  | any lineFeeds, state, rest =>
    (state.step? fun c => lineFeeds || c != '\n').bind rest
  | set s, state, rest => (state.step? s.takes).bind rest
  | anchor place, state, rest => if place.holds state.place then rest state else none
  | seq first second, state, rest => first.run state fun next => second.run next rest
  | alt first second, state, rest =>
    match first.run state rest with
    | some done => some done
    | none => second.run state rest
  | repeated mode min max body, state, rest =>
    let rounds := min + state.place.after.length + 3
    match mode with
    | .greedy => repeatGreedy body.run min max rest rounds 0 none state
    | .lazy => repeatLazy body.run min max rest rounds 0 none state
    | .possessive => (repeatPossessive body.run min max rounds 0 none state).bind rest
  | group none body, state, rest => body.run state rest
  | group (some index) body, state, rest =>
    body.run state fun next => rest (captureSince state.place index next)
  | captured index caseless ascii, state, rest =>
    match state.capture? index with
    | none => none
    | some text =>
      let form (c : Char) : Char :=
        if caseless then (if ascii then c.toLower else lowerChar c) else c
      (state.takeText? (fun c d => form c == form d) text).bind rest
  | ahead negated body, state, rest =>
    match body.run state some with
    | some found => if negated then none else rest { state with captures := found.captures }
    | none => if negated then rest state else none
  | behind width negated body, state, rest =>
    match (state.back? width).bind fun earlier => body.run earlier some with
    | some found => if negated then none else rest { state with captures := found.captures }
    | none => if negated then rest state else none
  | atomic body, state, rest => (body.run state some).bind rest
  | ifCaptured index yes no, state, rest =>
    if (state.capture? index).isSome then yes.run state rest else no.run state rest

/-- Whether a pattern matches from some place on. -/
def foundFrom (p : Pattern) (before : List Char) (index : Nat) : List Char → Bool
  | [] => (p.run ⟨⟨before, [], index⟩, []⟩ some).isSome
  | c :: rest =>
    (p.run ⟨⟨before, c :: rest, index⟩, []⟩ some).isSome ||
      foundFrom p (c :: before) (index + 1) rest

/-- Whether a pattern matches somewhere in a text. -/
def foundIn (p : Pattern) (s : String) : Bool :=
  p.foundFrom [] 0 s.toList

end Pattern

end InvoiceReadiness
