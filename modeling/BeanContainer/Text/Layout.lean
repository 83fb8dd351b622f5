/-!
# Layout of descriptions

A description is a tree of records, lists and mappings. It is laid out on one line, or with every
field and element on a line of its own, indented by four blanks and ended by a comma. A record may be
left open: two dots then stand for the fields that are not shown.
-/

namespace BeanContainer.Text

/-- A description in both of its layouts. -/
structure Layout where
  inline : String
  lines : List String

namespace Layout

/-- A word, laid out alike in both ways. -/
def word (text : String) : Layout :=
  ⟨text, [text]⟩

/-- The lines of an entry inside brackets: indented, its last line ended by a comma. -/
def entryLines : List String → List String
  | [] => []
  | [last] => ["    " ++ last ++ ","]
  | line :: rest => ("    " ++ line) :: entryLines rest

/-- The label written in front of the first line. -/
def labelled (label : String) (layout : Layout) : Layout where
  inline := label ++ layout.inline
  lines := match layout.lines with
    | [] => [label]
    | line :: rest => (label ++ line) :: rest

/-- The dots that stand for fields not shown. -/
private def dots (isOpen : Bool) : List String :=
  if isOpen then [".."] else []

/-- A record with named fields. -/
def record (name : String) (fields : List (String × Layout)) (isOpen : Bool) : Layout :=
  let entries := fields.map fun field => field.2.labelled (field.1 ++ ": ")
  match entries, isOpen with
  | [], false => word name
  | [], true => word (name ++ " \x7b .. \x7d")
  | entries, isOpen =>
    { inline := name ++ " \x7b " ++ ", ".intercalate (entries.map (·.inline) ++ dots isOpen) ++ " \x7d"
      lines := [name ++ " \x7b"] ++ entries.flatMap (fun entry => entryLines entry.lines) ++
        (dots isOpen).map ("    " ++ ·) ++ ["\x7d"] }

/-- Entries between two brackets. -/
def bracketed (left right : String) : List Layout → Layout
  | [] => word (left ++ right)
  | entries =>
    { inline := left ++ ", ".intercalate (entries.map (·.inline)) ++ right
      lines := [left] ++ entries.flatMap (fun entry => entryLines entry.lines) ++ [right] }

/-- A list of elements. -/
def list (elements : List Layout) : Layout :=
  bracketed "[" "]" elements

/-- A mapping from words to descriptions. -/
def mapping (entries : List (String × Layout)) : Layout :=
  bracketed "\x7b" "\x7d" (entries.map fun entry => entry.2.labelled (entry.1 ++ ": "))

/-- The text of the description, on one line or spread over many. -/
def text (layout : Layout) (spread : Bool) : String :=
  if spread then "\n".intercalate layout.lines else layout.inline

end Layout

end BeanContainer.Text
