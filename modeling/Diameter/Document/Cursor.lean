import Diameter.Document

/-!
Places in the text of a document, and the gaps between words.
-/

namespace Diameter

namespace Document

def isBlank (c : Char) : Bool := c = ' ' || c = '\t'

def isBreak (c : Char) : Bool := c = '\n' || c = '\u2028' || c = '\u2029'

/-- A text that begins with blank space, or is at its end. -/
def startsBlank : List Char → Bool
  | [] => true
  | c :: _ => isBlank c || isBreak c

/-- One way to end a line. -/
def unifyBreaks : List Char → List Char
  | '\r' :: '\n' :: cs => '\n' :: unifyBreaks cs
  | '\r' :: cs => '\n' :: unifyBreaks cs
  | '\u0085' :: cs => '\n' :: unifyBreaks cs
  | c :: cs => c :: unifyBreaks cs
  | [] => []

/-- Neither a control character nor unfit for text. -/
def isPrintable (c : Char) : Bool :=
  isBlank c || isBreak c || (' ' ≤ c && c ≤ '~') || 0x10000 ≤ c.toNat ||
    (0xA0 ≤ c.toNat && c.toNat ≤ 0xFFFD)

/-- A place in a text. -/
structure Cursor where
  /-- What is left of the text. -/
  rest : List Char
  line : Nat := 0
  column : Nat := 0
  /-- Characters before the place. -/
  offset : Nat := 0
  /-- A key or a dash may stand here. -/
  fresh : Bool := true
  deriving Repr

namespace Cursor

/-- Behind the next character. -/
def next (cur : Cursor) : Cursor :=
  match cur.rest with
  | [] => cur
  | c :: rest =>
    if isBreak c then { cur with rest, line := cur.line + 1, column := 0, offset := cur.offset + 1 }
    else { cur with rest, column := cur.column + 1, offset := cur.offset + 1 }

/-- Passes over blanks, comments and line breaks. In block form a line break makes the place
fresh, and no tab may stand in front of a fresh place. One byte order mark may begin a line; it
takes up a column. -/
def skipFrom (flow : Bool) : (rest : List Char) → (comment : Bool) → Cursor → Cursor
  | [], _, cur => cur
  | c :: rest, comment, cur =>
    if isBreak c then skipFrom flow rest false { cur.next with fresh := cur.fresh || !flow }
    else if c = '\uFEFF' && cur.column = 0 then skipFrom flow rest false cur.next
    else if comment || c = '#' then skipFrom flow rest true cur.next
    else if c = ' ' || (c = '\t' && (flow || !cur.fresh)) then skipFrom flow rest false cur.next
    else cur

def skip (flow : Bool) (cur : Cursor) : Cursor := skipFrom flow cur.rest false cur

/-- Three dashes at the beginning of a line. -/
def atHead (cur : Cursor) : Bool :=
  cur.column = 0 && match cur.rest with
    | '-' :: '-' :: '-' :: rest => startsBlank rest
    | _ => false

/-- Three dots at the beginning of a line. -/
def atFoot (cur : Cursor) : Bool :=
  cur.column = 0 && match cur.rest with
    | '.' :: '.' :: '.' :: rest => startsBlank rest
    | _ => false

/-- Where a document ends at the latest. -/
def atEnd (cur : Cursor) : Bool := cur.rest.isEmpty || cur.atHead || cur.atFoot

/-- The dash in front of a list item. -/
def atDash (cur : Cursor) : Bool :=
  match cur.rest with
  | '-' :: rest => startsBlank rest
  | _ => false

/-- The question mark in front of a key; in flow form no blank has to follow. -/
def atQuery (flow : Bool) (cur : Cursor) : Bool :=
  match cur.rest with
  | '?' :: rest => flow || startsBlank rest
  | _ => false

/-- The colon behind a key; in flow form no blank has to follow. -/
def atColon (flow : Bool) (cur : Cursor) : Bool :=
  match cur.rest with
  | ':' :: rest => flow || startsBlank rest
  | _ => false

/-- What begins here and has its colon there may be a key: one line, and not too long. -/
def spansKey (start stop : Cursor) : Bool :=
  start.line = stop.line && stop.offset ≤ start.offset + 1024

end Cursor

/-! ### Gaps -/

/-- What lies between two words of a scalar. -/
inductive Gap where
  | blanks (cs : List Char)
  /-- The end of a line, and further empty lines. -/
  | lines (first : Char) (more : List Char)
  /-- The end of a line that does not count, and empty lines. -/
  | joint (more : List Char)
  deriving Repr

namespace Gap

def none : Gap := .blanks []

def isNone : Gap → Bool
  | .blanks [] => true
  | _ => false

/-- A gap with the end of a line in it. -/
def isLines : Gap → Bool
  | .blanks _ => false
  | _ => true

/-- A gap grows by a blank; at the beginning of a line blanks do not count. -/
def blank (c : Char) : Gap → Gap
  | .blanks cs => .blanks (cs ++ [c])
  | g => g

/-- A gap grows by a line break; blanks before it do not count. -/
def line (c : Char) : Gap → Gap
  | .blanks _ => .lines c []
  | .lines first more => .lines first (more ++ [c])
  | .joint more => .joint (more ++ [c])

/-- What stands for the gap: one line break is a space, and of more the first does not count. -/
def text : Gap → List Char
  | .blanks cs => cs
  | .lines '\n' [] => [' ']
  | .lines '\n' more => more
  | .lines first more => first :: more
  | .joint more => more

end Gap

end Document

end Diameter
