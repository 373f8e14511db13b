import Diameter.Address
import Diameter.Numeral

/-!
Addresses as text: four decimal numbers between dots, or eight groups of hexadecimal digits
between colons.

A double colon stands for one or more groups of zeros, and dotted decimals may stand for the last
two groups.
-/

namespace Diameter

namespace Address

/-- A number of at most `width` digits at the head of a text. -/
def numberAt (base width : Nat) (cs : List Char) : Option (List Nat × List Char) :=
  match Numeral.span base cs with
  | ([], _) => none
  | (ds, rest) => if ds.length ≤ width then some (ds, rest) else none

/-- A number up to 255, without zeros in front. -/
def decimalOctet? (cs : List Char) : Option (Nat × List Char) :=
  match numberAt 10 3 cs with
  | none => none
  | some (ds, rest) =>
    let v := Numeral.ofDigits 10 ds
    if (ds.head? = some 0 ∧ ds.length > 1) ∨ v > 255 then none else some (v, rest)

/-- `n` further octets, each after a dot; `v` is what has been read. -/
def dottedFrom : Nat → Nat → List Char → Option (Nat × List Char)
  | 0, v, cs => some (v, cs)
  | n + 1, v, '.' :: cs => match decimalOctet? cs with
    | none => none
    | some (x, rest) => dottedFrom n (256 * v + x) rest
  | _ + 1, _, _ => none

/-- Four octets with dots between them. -/
def dotted? (cs : List Char) : Option (Nat × List Char) :=
  match decimalOctet? cs with
  | none => none
  | some (x, rest) => dottedFrom 3 x rest

/-- What follows the separator; in front of the first group there is none. -/
def separated? : Bool → List Char → Option (List Char)
  | true, cs => some cs
  | false, ':' :: cs => some cs
  | false, _ => none

/-- At most `n` groups at the head of a text; whether dotted decimals ended them. -/
def groups : Nat → Bool → List Char → List Nat × Bool × List Char
  | 0, _, cs => ([], false, cs)
  | n + 1, first, cs =>
    match if n = 0 then none else (separated? first cs).bind dotted? with
    | some (v, rest) => ([v / 65536, v % 65536], true, rest)
    | none => match (separated? first cs).bind (numberAt 16 4) with
      | none => ([], false, cs)
      | some (ds, rest) =>
        let (gs, dotted, rest) := groups n false rest
        (Numeral.ofDigits 16 ds :: gs, dotted, rest)

def ofGroups (gs : List Nat) : Address :=
  .v6 (UInt64.ofNat (Numeral.ofDigits 65536 (gs.take 4)))
    (UInt64.ofNat (Numeral.ofDigits 65536 (gs.drop 4)))

/-- Eight groups, or fewer with a double colon for the rest. -/
def groups? (cs : List Char) : Option Address :=
  match groups 8 true cs with
  | (head, dotted, rest) =>
    if head.length = 8 then
      if rest = [] then some (ofGroups head) else none
    else if dotted then none
    else match rest with
      | ':' :: ':' :: rest =>
        match groups (7 - head.length) true rest with
        | (tail, _, []) =>
          some (ofGroups (head ++ List.replicate (8 - head.length - tail.length) 0 ++ tail))
        | _ => none
      | _ => none

/-- The address that a text spells. -/
def ofText? (s : String) : Option Address :=
  match dotted? s.toList with
  | some (v, []) => some (.v4 (UInt32.ofNat v))
  | some _ => none
  | none => groups? s.toList

end Address

end Diameter
