import Diameter.Document.Cursor
import Diameter.Numeral

/-!
Scalars: plain ones, which end where something else begins, and quoted ones.

The words of a scalar may stand on several lines; the gaps between them shrink as `Gap.text` says.
-/

namespace Diameter

namespace Document

/-- A character that ends an entry in flow form. -/
def endsEntry (c : Char) : Bool := c = ',' || c = ']' || c = '\x7d'

/-- A character that ends a plain scalar in flow form. -/
def isFlowMark (c : Char) : Bool := endsEntry c || c = '[' || c = '\x7b'

/-- A character that begins something else than a plain scalar. -/
def isReserved (c : Char) : Bool :=
  ['#', '&', '*', '!', '|', '>', '\x27', '\x22', '%', '@', '\x60'].contains c

/-- A plain scalar may begin with the character, given what follows. -/
def startsPlain (flow : Bool) (c : Char) (rest : List Char) : Bool :=
  if c = '-' then !startsBlank rest
  else if c = '?' || c = ':' then !flow && !startsBlank rest
  else
    !isBlank c && !isBreak c && !isFlowMark c && !isReserved c

/-- The rest of a plain scalar whose content stands at column `least` or further right, after the
words so far and the gap behind them. -/
def plainFrom (flow : Bool) (least : Nat) :
    (rest : List Char) → (words : List Char) → Gap → Cursor → Option (List Char × Cursor)
  | [], words, gap, cur => some (words, { cur with fresh := gap.isLines })
  | c :: rest, words, gap, cur =>
    if isBlank c then
      if gap.isLines && cur.column < least && c = '\t' then none
      else plainFrom flow least rest words (gap.blank c) cur.next
    else if isBreak c then plainFrom flow least rest words (gap.line c) cur.next
    else if (!gap.isNone && (c = '#' || cur.atEnd)) ||
        (gap.isLines && !flow && cur.column < least) ||
        (c = ':' && startsBlank rest) || (flow && isFlowMark c) then
      some (words, { cur with fresh := gap.isLines })
    else if flow && c = ':' && rest.head?.any (fun d => d = '?' || isFlowMark d) then none
    else plainFrom flow least rest (words ++ gap.text ++ [c]) Gap.none cur.next

/-- A plain scalar. -/
def plain (flow : Bool) (least : Nat) (cur : Cursor) : Option (Document × Cursor) :=
  (plainFrom flow least cur.rest [] Gap.none cur).map fun (words, cur) =>
    (.scalar true (String.ofList words), cur)

/-! ### Quoted scalars -/

/-- What a character stands for behind a backslash. -/
def escaped? : Char → Option Char
  | '0' => some '\x00'
  | 'a' => some '\x07'
  | 'b' => some '\x08'
  | 't' | '\t' => some '\t'
  | 'n' => some '\n'
  | 'v' => some '\x0b'
  | 'f' => some '\x0c'
  | 'r' => some '\r'
  | 'e' => some '\x1b'
  | ' ' => some ' '
  | '\x22' => some '\x22'
  | '/' => some '/'
  | '\\' => some '\\'
  | 'N' => some '\u0085'
  | '_' => some '\u00a0'
  | 'L' => some '\u2028'
  | 'P' => some '\u2029'
  | _ => none

/-- Hexadecimal digits that follow a character behind a backslash. -/
def escapeWidth? : Char → Option Nat
  | 'x' => some 2
  | 'u' => some 4
  | 'U' => some 8
  | _ => none

/-- How far an escape has come. -/
inductive Escape where
  | none
  /-- Behind the first character of an escape: a backslash, or a single quote. -/
  | begun
  | digits (left value : Nat)
  deriving Repr

def quote (double : Bool) : Char := if double then '\x22' else '\x27'

/-- The rest of a quoted scalar. A single quote is written twice inside single quotes; inside
double quotes a backslash begins an escape. -/
def quotedFrom (double : Bool) :
    (rest : List Char) → (words : List Char) → Gap → Escape → Cursor →
      Option (List Char × Cursor)
  | [], _, _, _, _ => none
  | c :: rest, words, gap, .begun, cur =>
    if !double then quotedFrom double rest (words ++ [c]) gap .none cur.next
    else if isBreak c then quotedFrom double rest words (.joint []) .none cur.next
    else match escapeWidth? c, escaped? c with
      | some n, _ => quotedFrom double rest words gap (.digits n 0) cur.next
      | none, some d => quotedFrom double rest (words ++ [d]) gap .none cur.next
      | none, none => none
  | c :: rest, words, gap, .digits left value, cur =>
    match Numeral.digit? 16 c with
    | none => none
    | some d =>
      let value := 16 * value + d
      if left > 1 then quotedFrom double rest words gap (.digits (left - 1) value) cur.next
      else if value.isValidChar then
        quotedFrom double rest (words ++ [Char.ofNat value]) gap .none cur.next
      else none
  | c :: rest, words, gap, .none, cur =>
    if cur.atHead || cur.atFoot then none
    else if isBlank c then quotedFrom double rest words (gap.blank c) .none cur.next
    else if isBreak c then quotedFrom double rest words (gap.line c) .none cur.next
    else
      let words := words ++ gap.text
      if c = quote double then
        if !double && rest.head? = some c then
          quotedFrom double rest words Gap.none .begun cur.next
        else some (words, { cur.next with fresh := false })
      else if double && c = '\\' then quotedFrom double rest words Gap.none .begun cur.next
      else quotedFrom double rest (words ++ [c]) Gap.none .none cur.next

/-- A quoted scalar, from its opening quote. -/
def quoted (double : Bool) (cur : Cursor) : Option (Document × Cursor) :=
  (quotedFrom double cur.next.rest [] Gap.none .none cur.next).map fun (words, cur) =>
    (.scalar false (String.ofList words), cur)

end Document

end Diameter
