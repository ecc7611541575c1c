import InvoiceReadiness.Text.Occurrence
import InvoiceReadiness.Value

/-!
# Keys and indices

Records are found by a cell that identifies them. Identifiers are compared as
data: `1`, `1.0` and true are one identifier, and so is the not-a-number, which is
equal to nothing as data. `Value.key` gives the normal form under which they are one,
and refuses lists and objects, which cannot identify anything. `Value.holds` asks for
one value in another under equality of data.

An `Index` files values under keys, in the order in which the keys first came.
Each entry remembers the value that first gave its key.

## Main results

* `get?_alter_self`, `get?_alter_ne` — altering a key changes what is found under
  that key and nothing else.
-/

namespace InvoiceReadiness

/-- The normal form of an identifier. -/
inductive Key where
  | null
  | whole (n : Int)
  | float (x : Binary64)
  | text (s : String)
  deriving DecidableEq

/-- Whole numbers are one key however they are written. -/
def Number.key : Number → Key
  | .whole n => .whole n
  | .float x =>
    if x.isWhole then .whole (x.truncate?.getD 0) else .float x

/-- The key that a value gives. -/
def Value.key : Value → Result Key
  | null => .ok .null
  | bool b => .ok (.whole (if b then 1 else 0))
  | number n => .ok n.key
  | text s => .ok (.text s)
  | _ => .error .notAKey

def Value.isNan : Value → Bool
  | number (.float .nan) => true
  | _ => false

/-- Equality of identifiers: equality of data, and the not-a-number is one of them. -/
def Value.sameIdentity (v w : Value) : Bool := v.same w || (v.isNan && w.isNan)

/--
Whether a value holds another one: a text its parts, a list its items, an object
the names of its members. No other value holds anything.
-/
def Value.holds (whole part : Value) : Result Bool :=
  match whole, part with
  | text s, text t => .ok (textOccursIn t s)
  | list items, part => .ok (items.any fun item => item.same part)
  | object members, part => do
    let _ ← part.key
    return members.any fun member => part.same (text member.1)
  | _, _ => .error .operandKind

/-- A value filed under a key, with the value that first gave the key. -/
structure Entry (α : Type) where
  key : Key
  shown : Value
  value : α

/-- Values filed under keys, in the order in which the keys first came. -/
structure Index (α : Type) where
  entries : List (Entry α)

namespace Index

variable {α : Type}

/-- The index without entries. -/
def empty : Index α := ⟨[]⟩

instance : Inhabited (Index α) := ⟨empty⟩

/-- The value filed under a key. -/
def get? (index : Index α) (key : Key) : Option α :=
  (index.entries.find? fun entry => entry.key == key).map Entry.value

def has (index : Index α) (key : Key) : Bool :=
  index.entries.any fun entry => entry.key == key

/-- Entries with the one under `key` altered, or a new one at the end. -/
def alterEntries (key : Key) (shown : Value) (f : Option α → α) :
    List (Entry α) → List (Entry α)
  | [] => [⟨key, shown, f none⟩]
  | entry :: rest =>
    if entry.key == key then { entry with value := f (some entry.value) } :: rest
    else entry :: alterEntries key shown f rest

/-- The index with what is filed under a key altered by `f`. -/
def alter (index : Index α) (key : Key) (shown : Value) (f : Option α → α) : Index α :=
  ⟨alterEntries key shown f index.entries⟩

/-- The index with a value filed under a key, in the place of any other one. -/
def insert (index : Index α) (key : Key) (shown : Value) (value : α) : Index α :=
  index.alter key shown fun _ => value

/-- The keys, in the order in which they first came. -/
def keys (index : Index α) : List Key :=
  index.entries.map Entry.key

private theorem find?_alterEntries_self (key : Key) (shown : Value) (f : Option α → α)
    (entries : List (Entry α)) :
    ((alterEntries key shown f entries).find? fun entry => entry.key == key).map Entry.value =
      some (f ((entries.find? fun entry => entry.key == key).map Entry.value)) := by
  induction entries with
  | nil => simp [alterEntries]
  | cons entry rest ih =>
      by_cases h : entry.key == key
      · simp [alterEntries, h]
      · simpa [alterEntries, h] using ih

private theorem find?_alterEntries_ne {key other : Key} (hne : other ≠ key) (shown : Value)
    (f : Option α → α) (entries : List (Entry α)) :
    ((alterEntries key shown f entries).find? fun entry => entry.key == other).map Entry.value =
      (entries.find? fun entry => entry.key == other).map Entry.value := by
  induction entries with
  | nil => simp [alterEntries, Ne.symm hne]
  | cons entry rest ih =>
      by_cases h : entry.key == key
      · have hkey : entry.key = key := by simpa using h
        have hother : (entry.key == other) = false := by
          simpa [hkey] using fun heq => hne heq.symm
        simp [alterEntries, h, hother]
      · by_cases ho : entry.key == other
        · simp [alterEntries, h, ho]
        · simpa [alterEntries, h, ho] using ih

/-- What is found under an altered key. -/
@[simp] theorem get?_alter_self (index : Index α) (key : Key) (shown : Value)
    (f : Option α → α) : (index.alter key shown f).get? key = some (f (index.get? key)) :=
  find?_alterEntries_self key shown f index.entries

/-- What is found under another key than the altered one. -/
@[simp] theorem get?_alter_ne (index : Index α) {key other : Key} (hne : other ≠ key)
    (shown : Value) (f : Option α → α) :
    (index.alter key shown f).get? other = index.get? other :=
  find?_alterEntries_ne hne shown f index.entries

end Index

end InvoiceReadiness
