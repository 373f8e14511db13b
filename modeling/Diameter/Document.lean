/-!
Documents: texts, lists and maps inside each other.
-/

namespace Diameter

inductive Document where
  /-- A text; a plain one is written without quotes. -/
  | scalar (plain : Bool) (text : String)
  | list (items : List Document)
  /-- Entries in the order of the text; nothing keeps keys apart. -/
  | map (entries : List (Document × Document))
  deriving Repr, Inhabited

namespace Document

/-- What stands where nothing is written. -/
def absent : Document := .scalar true ""

/-- The entries of a map whose keys are texts; nothing written is a map without entries. -/
def fields? : Document → Option (List (String × Document))
  | .map entries => entries.mapM fun
    | (.scalar _ name, value) => some (name, value)
    | _ => none
  | .scalar true "" => some []
  | _ => none

/-- The items of a list; nothing written is a list without items. -/
def items? : Document → Option (List Document)
  | .list items => some items
  | .scalar true "" => some []
  | _ => none

def text? : Document → Option String
  | .scalar _ s => some s
  | _ => none

end Document

end Diameter
