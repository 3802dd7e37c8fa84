/-!
# Writing comma-separated records

Fields are written as they are unless they contain a comma, a quote or a line end; those are put
between quotes, with every quote in them doubled. A record ends with a line feed. A record of one
empty field would be an empty line, which is no record, so that field is put between quotes too.
-/

set_option autoImplicit false

namespace DutyRoster.Csv

/-- A field that could not be read back as it is. -/
def needsQuotes (field : List Char) : Bool :=
  field.any fun c => c == ',' || c == '"' || c == '\n' || c == '\r'

/-- A field between quotes. -/
def quoteField (field : List Char) : List Char :=
  '"' :: (field.flatMap (fun c => if c = '"' then ['"', '"'] else [c]) ++ ['"'])

/-- A field as it is written. -/
def fieldText (field : List Char) : List Char :=
  if needsQuotes field then quoteField field else field

/-- Fields with commas between them. -/
def fieldsText : List (List Char) → List Char
  | [] => []
  | [field] => fieldText field
  | field :: rest => fieldText field ++ ',' :: fieldsText rest

/-- A record as it is written. -/
def recordText (fields : List (List Char)) : List Char :=
  if fields = [[]] then quoteField [] ++ ['\n'] else fieldsText fields ++ ['\n']

/-- A file of records. -/
def fileText (rows : List (List (List Char))) : List Char :=
  rows.flatMap recordText

end DutyRoster.Csv
