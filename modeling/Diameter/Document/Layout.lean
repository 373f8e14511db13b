import Diameter.Document.Scalar

/-!
Lists and maps, in block form by indentation and in flow form by brackets, and whole documents.

A block stands at a column. What stands further left ends it; a value may take further lines as
long as they stand further right. Recursion is bounded by a number that every step counts down;
`Document.ofText?` starts it so high that the text runs out first.
-/

namespace Diameter

namespace Document

/-- What stands between two commas in flow form. -/
structure FlowPair where
  /-- A question mark stands in front. -/
  asked : Bool
  key : Option Document
  colon : Bool := false
  value : Option Document := none

/-- The entry of a map in braces. -/
def FlowPair.entry (p : FlowPair) : Document × Document := (p.key.getD absent, p.value.getD absent)

/-- The item of a list in brackets, which is a map if there is a question mark or a colon. No value
may stand there without a key, nor may a question mark stand alone. -/
def FlowPair.item? (p : FlowPair) : Option Document :=
  match p.key with
  | some k => some (if p.asked || p.colon then .map [p.entry] else k)
  | none => if p.colon && p.value.isNone then some (.map [p.entry]) else none

mutual

/-- A scalar or a flow collection. -/
def inlineNode (flow : Bool) (least : Nat) : Nat → Cursor → Option (Document × Cursor)
  | 0, _ => none
  | fuel + 1, cur =>
    if cur.atEnd then none
    else match cur.rest with
      | '[' :: _ => flowItems least fuel [] cur.next
      | '\x7b' :: _ => flowEntries least fuel [] cur.next
      | '\x22' :: _ => quoted true cur
      | '\x27' :: _ => quoted false cur
      | c :: rest => if startsPlain flow c rest then plain flow least cur else none
      | [] => none

/-- A node in flow form, if one stands before the end of the entry and before a colon. -/
def flowNode? (least : Nat) : Nat → Cursor → Option (Option Document × Cursor)
  | 0, _ => none
  | fuel + 1, cur => do
    let start := cur.skip true
    if start.atColon true || start.rest.head?.any endsEntry then return (none, start)
    let (node, after) ← inlineNode true least fuel start
    return (some node, after.skip true)

/-- A key or an item in flow form, and the value behind the colon if there is a colon. Only behind a
question mark may a key be missing, take several lines or be long. -/
def flowPair (least : Nat) : Nat → Cursor → Option (FlowPair × Cursor)
  | 0, _ => none
  | fuel + 1, cur => do
    let asked := cur.atQuery true
    let (key, stop) ← flowNode? least fuel (if asked then cur.next else cur)
    let colon := stop.atColon true
    if !asked && (key.isNone || colon && !cur.spansKey stop) then none
    if !colon then return ({ asked, key }, stop)
    let (value, after) ← flowNode? least fuel stop.next
    return ({ asked, key, colon, value }, after)

/-- The items of a list in brackets that follow those already read. -/
def flowItems (least : Nat) : Nat → List Document → Cursor → Option (Document × Cursor)
  | 0, _, _ => none
  | fuel + 1, items, cur => do
    let cur := cur.skip true
    if cur.rest.head? = some ']' then return (.list items, { cur.next with fresh := false })
    let (pair, after) ← flowPair least fuel cur
    let item ← pair.item?
    match after.rest with
    | ',' :: _ => flowItems least fuel (items ++ [item]) after.next
    | ']' :: _ => return (.list (items ++ [item]), { after.next with fresh := false })
    | _ => none

/-- The entries of a map in braces that follow those already read. -/
def flowEntries (least : Nat) :
    Nat → List (Document × Document) → Cursor → Option (Document × Cursor)
  | 0, _, _ => none
  | fuel + 1, entries, cur => do
    let cur := cur.skip true
    if cur.rest.head? = some '\x7d' then return (.map entries, { cur.next with fresh := false })
    let (pair, after) ← flowPair least fuel cur
    match after.rest with
    | ',' :: _ => flowEntries least fuel (entries ++ [pair.entry]) after.next
    | '\x7d' :: _ => return (.map (entries ++ [pair.entry]), { after.next with fresh := false })
    | _ => none

end

mutual

/-- A node in block form whose content stands at column `least` or further right. A key or the
value of an entry may also be a list whose dashes stand at the column of the entry. -/
def blockNode (least : Nat) (inEntry : Bool) : Nat → Cursor → Option (Document × Cursor)
  | 0, _ => none
  | fuel + 1, cur =>
    let cur := cur.skip false
    if cur.atEnd || cur.column < least then
      if inEntry && !cur.atEnd && cur.column + 1 = least && cur.atDash then
        blockItems cur.column false fuel [] cur
      else some (absent, cur)
    else if cur.atDash then if cur.fresh then blockItems cur.column true fuel [] cur else none
    else if cur.atQuery false then
      if cur.fresh then blockQuery cur.column fuel [] cur else none
    else do
      let (node, after) ← inlineNode false least fuel cur
      let stop := after.skip false
      if stop.atColon false && cur.fresh && cur.spansKey stop then
        blockValue cur.column fuel [] node { stop.next with fresh := false }
      else return (node, stop)
termination_by structural fuel => fuel

/-- The items of a list from a dash at `column` on. A list that does not stand in an entry ends
only where something stands further left. -/
def blockItems (column : Nat) (ownBlock : Bool) :
    Nat → List Document → Cursor → Option (Document × Cursor)
  | 0, _, _ => none
  | fuel + 1, before, cur => do
    let (item, after) ← blockNode (column + 1) false fuel { cur.next with fresh := true }
    let stop := after.skip false
    if stop.atEnd || stop.column < column then return (.list (before ++ [item]), stop)
    if stop.column > column || !stop.fresh then none
    if stop.atDash then blockItems column ownBlock fuel (before ++ [item]) stop
    else if ownBlock then none
    else return (.list (before ++ [item]), stop)
termination_by structural fuel => fuel

/-- The entries of a map at `column`, from a question mark on. -/
def blockQuery (column : Nat) :
    Nat → List (Document × Document) → Cursor → Option (Document × Cursor)
  | 0, _, _ => none
  | fuel + 1, before, cur => do
    let (key, after) ← blockNode (column + 1) true fuel { cur.next with fresh := true }
    let stop := after.skip false
    if !stop.atEnd && stop.column = column && stop.fresh && stop.atColon false then
      blockValue column fuel before key { stop.next with fresh := true }
    else blockEntries column fuel (before ++ [(key, absent)]) stop
termination_by structural fuel => fuel

/-- The entries of a map at `column`, from behind the colon of a key on. -/
def blockValue (column : Nat) :
    Nat → List (Document × Document) → Document → Cursor → Option (Document × Cursor)
  | 0, _, _, _ => none
  | fuel + 1, before, key, cur => do
    let (value, after) ← blockNode (column + 1) true fuel cur
    blockEntries column fuel (before ++ [(key, value)]) (after.skip false)
termination_by structural fuel => fuel

/-- The entries of a map at `column` that follow those already read. -/
def blockEntries (column : Nat) :
    Nat → List (Document × Document) → Cursor → Option (Document × Cursor)
  | 0, _, _ => none
  | fuel + 1, before, cur => do
    if cur.atEnd || cur.column < column then return (.map before, cur)
    if cur.column > column || !cur.fresh then none
    if cur.atQuery false then blockQuery column fuel before cur
    else
      let (key, after) ← inlineNode false (column + 1) fuel cur
      let colon := after.skip false
      if colon.atColon false && cur.spansKey colon then
        blockValue column fuel before key { colon.next with fresh := false }
      else none
termination_by structural fuel => fuel

end

/-- Behind the three characters of a head or a foot. -/
def behindMark (cur : Cursor) : Cursor := { cur.next.next.next with fresh := false }

/-- Behind any number of feet. -/
def skipFeet : Nat → Cursor → Cursor
  | 0, cur => cur
  | fuel + 1, cur =>
    let cur := cur.skip false
    if cur.atFoot then skipFeet fuel (behindMark cur) else cur

/-- The document that a text holds. Dashes may stand above it, and any number of dots below it; a
text without dashes must not begin with dots. -/
def ofText? (s : String) : Option Document := do
  let text := unifyBreaks s.toList
  if !text.all isPrintable then none
  let start := Cursor.skip false { rest := text }
  if start.atFoot then none
  let start := if start.atHead then behindMark start else start
  let (document, after) ← blockNode 0 false (4 * text.length + 8) start
  let stop := skipFeet text.length after
  if stop.rest.isEmpty then return document
  none

end Document

end Diameter
