import InvoiceReadiness.Numeric.Number

/-!
# Values of records

Records come from spreadsheets and JSON files, so a cell may hold anything that
JSON can write. `Value` is that data, with whole numbers told apart from
binary64 numbers and with the members of an object in the order in which they
were written. A `Record` is an object: the one kind of value whose members can
be asked for.

Asking for a member that is not there gives null, so a missing cell and an
empty one are treated alike everywhere.
-/

namespace InvoiceReadiness

/-- Any JSON data. -/
inductive Value where
  | null
  | bool (b : Bool)
  | number (n : Number)
  | text (s : String)
  | list (items : List Value)
  | object (members : List (String × Value))

instance : Inhabited Value := ⟨.null⟩

/-- The members of an object, in the order in which they were written. -/
abbrev Members := List (String × Value)

/-- The value of a member; null if there is none. -/
def Members.get (members : Members) (name : String) : Value :=
  ((members.find? fun member => member.1 == name).map Prod.snd).getD .null

/-- Whether there is a member of that name. -/
def Members.has (members : Members) (name : String) : Bool :=
  members.any fun member => member.1 == name

/-- Give a member a value: in its place if it is there, at the end if it is not. -/
def Members.set (members : Members) (name : String) (value : Value) : Members :=
  match members with
  | [] => [(name, value)]
  | member :: rest =>
    if member.1 == name then (member.1, value) :: rest else member :: Members.set rest name value

namespace Members

theorem get_set_self (members : Members) (name : String) (v : Value) :
    (members.set name v).get name = v := by
  induction members with
  | nil => simp [Members.set, Members.get]
  | cons member rest ih =>
      by_cases hname : member.1 == name
      · simp [Members.set, Members.get, hname]
      · simpa [Members.set, Members.get, hname] using ih

theorem get_set_ne (members : Members) {name other : String} (hne : other ≠ name)
    (v : Value) : (members.set name v).get other = members.get other := by
  induction members with
  | nil => simp [Members.set, Members.get, Ne.symm hne]
  | cons member rest ih =>
      by_cases hname : member.1 == name
      · have hother : (member.1 == other) = false := by
          rw [beq_iff_eq] at hname
          simp [hname, Ne.symm hne]
        simp [Members.set, Members.get, hname, hother]
      · by_cases hother : member.1 == other
        · simp [Members.set, Members.get, hname, hother]
        · simpa [Members.set, Members.get, hname, hother] using ih

theorem has_set_ne (members : Members) {name other : String} (hne : other ≠ name)
    (v : Value) : (members.set name v).has other = members.has other := by
  induction members with
  | nil => simp [Members.set, Members.has, Ne.symm hne]
  | cons member rest ih =>
      rw [Members.set]
      split
      · rfl
      · exact congrArg _ ih

end Members

/-- A buyer, an invoice header, an invoice line, or any other object of named cells. -/
structure Record where
  members : Members

namespace Record

/-- The value of a cell; null if the record has none of that name. -/
def get (r : Record) (name : String) : Value := r.members.get name

/-- Whether the record has a cell of that name. -/
def has (r : Record) (name : String) : Bool := r.members.has name

def value (r : Record) : Value := .object r.members

/-- The record without cells. -/
def empty : Record := ⟨[]⟩

instance : Inhabited Record := ⟨empty⟩

end Record

namespace Value

def ofInt (n : Int) : Value := .number (.whole n)

def ofNat (n : Nat) : Value := .number (.whole n)

def ofFloat (x : Binary64) : Value := .number (.float x)

/-- The text, or null. -/
def ofText? (s : Option String) : Value :=
  match s with
  | some s => .text s
  | none => .null

/-- The record that a value is. -/
def record : Value → Result Record
  | object members => .ok ⟨members⟩
  | _ => .error .notAnObject

/-- The value of a member of an object; null if there is none. -/
def member (v : Value) (name : String) : Result Value :=
  v.record.map fun r => r.get name

/-- The text that a value is. -/
def asText : Value → Result String
  | text s => .ok s
  | _ => .error .notText

def isNull : Value → Bool
  | null => true
  | _ => false

/-- Neither null, false, zero, nor empty. -/
def isFilled : Value → Bool
  | null => false
  | bool b => b
  | number n => n.isNonzero
  | text s => s != ""
  | list items => !items.isEmpty
  | object members => !members.isEmpty

/-- The value itself if it is filled, another one otherwise. -/
def orElse (v fallback : Value) : Value :=
  if v.isFilled then v else fallback

/-- The number that a truth value or a number counts as. -/
def number? : Value → Option Number
  | bool b => some (.whole (if b then 1 else 0))
  | number n => some n
  | _ => none

/--
The values that a walk through a value meets: the items of a list, the names of
an object's members, the characters of a text.
-/
def elements : Value → Result (List Value)
  | list items => .ok items
  | object members => .ok (members.map fun member => .text member.1)
  | text s => .ok (s.toList.map fun c => .text c.toString)
  | _ => .error .notASequence

mutual

/--
Equality of data: truth values count as zero and one, numbers are compared by
exact value, and the members of objects in any order.
-/
def same : Value → Value → Bool
  | null, null => true
  | text s, text t => s == t
  | list xs, list ys => sameItems xs ys
  | object xs, object ys => xs.length == ys.length && sameMembers xs ys
  | bool b, y => (y.number?).any (Number.eq (.whole (if b then 1 else 0)))
  | number m, y => (y.number?).any (Number.eq m)
  | _, _ => false

/-- Equality of lists, item by item. -/
def sameItems : List Value → List Value → Bool
  | [], [] => true
  | x :: xs, y :: ys => same x y && sameItems xs ys
  | _, _ => false

/-- Whether every member on the left has an equal one of its name on the right. -/
def sameMembers : List (String × Value) → List (String × Value) → Bool
  | [], _ => true
  | (name, x) :: xs, ys =>
    (match ys.find? fun member => member.1 == name with
      | some (_, y) => same x y
      | none => false) && sameMembers xs ys

end

instance : BEq Value := ⟨same⟩

end Value

end InvoiceReadiness
