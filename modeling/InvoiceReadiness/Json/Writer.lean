import InvoiceReadiness.Value

/-!
# Writing JSON text

Values are written in two forms. The compact one has no spaces and leaves
characters as they are, controls apart. The indented one is for readers: every
item stands on a line of its own, and only ASCII characters are used. Members
keep their order. Numbers that are not finite are written as words, which
`Json.read` reads again.
-/

namespace InvoiceReadiness.Json

/-- The form of one character inside a text. -/
def escaped (c : Char) : List Char :=
  if c == '"' then ['\\', '"']
  else if c == '\\' then ['\\', '\\']
  else if c == '\n' then ['\\', 'n']
  else if c == '\r' then ['\\', 'r']
  else if c == '\t' then ['\\', 't']
  else if c == '\x08' then ['\\', 'b']
  else if c == '\x0c' then ['\\', 'f']
  else if c.toNat < 0x20 then '\\' :: 'u' :: hexDigits 4 c.toNat
  else [c]

def writeText (s : String) : String :=
  String.ofList ('"' :: s.toList.flatMap escaped ++ ['"'])

def writeNumber : Number → String
  | .whole n => wholeText n
  | .float .nan => "NaN"
  | .float (.infinite negative) => if negative then "-Infinity" else "Infinity"
  | .float x => x.text

mutual

def write : Value → String
  | .null => "null"
  | .bool b => if b then "true" else "false"
  | .number n => writeNumber n
  | .text s => writeText s
  | .list items => "[" ++ ",".intercalate (writeItems items) ++ "]"
  | .object members => "\x7b" ++ ",".intercalate (writeMembers members) ++ "\x7d"

def writeItems : List Value → List String
  | [] => []
  | item :: rest => write item :: writeItems rest

def writeMembers : List (String × Value) → List String
  | [] => []
  | (name, value) :: rest => (writeText name ++ ":" ++ write value) :: writeMembers rest

end

/-! ## The indented form -/

/-- The escape of one code unit. -/
def escapedUnit (unit : Nat) : List Char :=
  '\\' :: 'u' :: hexDigits 4 unit

/-- The form of one character inside a text of ASCII characters. -/
def asciiEscaped (c : Char) : List Char :=
  if c.toNat < 0x80 then escaped c
  else if c.toNat < 0x10000 then escapedUnit c.toNat
  else
    let offset := c.toNat - 0x10000
    escapedUnit (0xD800 + offset / 0x400) ++ escapedUnit (0xDC00 + offset % 0x400)

def writeAsciiText (s : String) : String :=
  String.ofList ('"' :: s.toList.flatMap asciiEscaped ++ ['"'])

/-- A new line at a depth. -/
def newLine (depth : Nat) : String :=
  String.ofList ('\n' :: List.replicate (2 * depth) ' ')

/-- Parts between brackets, each on a line of its own. -/
def enclosed (left right : String) (depth : Nat) (parts : List String) : String :=
  if parts.isEmpty then left ++ right
  else
    left ++ newLine (depth + 1) ++ ("," ++ newLine (depth + 1)).intercalate parts ++
      newLine depth ++ right

mutual

/-- The indented form of a value at a depth. -/
def writeIndented (depth : Nat) : Value → String
  | .text s => writeAsciiText s
  | .list items => enclosed "[" "]" depth (indentedItems (depth + 1) items)
  | .object members => enclosed "\x7b" "\x7d" depth (indentedMembers (depth + 1) members)
  | v => write v

def indentedItems (depth : Nat) : List Value → List String
  | [] => []
  | item :: rest => writeIndented depth item :: indentedItems depth rest

def indentedMembers (depth : Nat) : List (String × Value) → List String
  | [] => []
  | (name, value) :: rest =>
    (writeAsciiText name ++ ": " ++ writeIndented depth value) :: indentedMembers depth rest

end

end InvoiceReadiness.Json
