/-!
Names of nodes and realms: dot-separated labels, compared without regard to ASCII case.
-/

namespace Diameter

namespace Identity

/-- ASCII letters in lower case, all else kept. -/
def lower (s : String) : String := s.toLower

/-- Equality up to ASCII case. -/
def same (a b : String) : Bool := lower a == lower b

def isLabelChar (c : Char) : Bool := c.isAlphanum || c = '-' || c = '_'

/-- Letters, digits, underscores and inner hyphens, at most 63 of them. -/
def isLabel (l : List Char) : Bool :=
  l ≠ [] && l.length ≤ 63 && l.head? ≠ some '-' && l.getLast? ≠ some '-' && l.all isLabelChar

/-- The pieces between dots; there is always at least one. -/
def labels : List Char → List (List Char)
  | [] => [[]]
  | c :: cs =>
    if c = '.' then [] :: labels cs
    else match labels cs with
      | l :: ls => (c :: l) :: ls
      | [] => [[c]]

/-- One dot at the very end is no separator. -/
def dropRootDot (cs : List Char) : List Char :=
  if cs.getLast? = some '.' then cs.dropLast else cs

/-- At most 255 octets of labels, possibly with a dot at the end. -/
def isValid (s : String) : Bool :=
  s ≠ "" && s.utf8ByteSize ≤ 255 && (labels (dropRootDot s.toList)).all isLabel

end Identity

end Diameter
