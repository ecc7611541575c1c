/-!
# Tables of separated values

A table is written line by line, fields separated by commas. A field is quoted if
it holds a comma, a quote or a line feed; a quote inside it is written twice. A
carriage return does not call for quotes.
-/

namespace InvoiceReadiness.Separated

/-- Whether a character calls for quotes around its field. -/
def needsQuotes (c : Char) : Bool :=
  c == ',' || c == '"' || c == '\n'

/-- The characters of a field with every quote written twice. -/
def doubled : List Char → List Char
  | [] => []
  | c :: rest => if c == '"' then '"' :: '"' :: doubled rest else c :: doubled rest

/-- A field as it is written. -/
def field (s : String) : String :=
  if s.toList.any needsQuotes then String.ofList ('"' :: doubled s.toList ++ ['"']) else s

/-- A line of fields. -/
def line (fields : List String) : String :=
  ",".intercalate (fields.map field) ++ "\n"

/-- A table as it is written. -/
def table (lines : List (List String)) : String :=
  String.join (lines.map line)

end InvoiceReadiness.Separated
