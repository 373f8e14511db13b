/-!
Numerals in bases up to 16, most significant digit first.
-/

namespace Diameter

namespace Numeral

/-- The value of a digit; letters count in either case. -/
def digit? (base : Nat) (c : Char) : Option Nat :=
  let value :=
    if '0' ≤ c ∧ c ≤ '9' then some (c.toNat - '0'.toNat)
    else if 'a' ≤ c ∧ c ≤ 'f' then some (c.toNat - 'a'.toNat + 10)
    else if 'A' ≤ c ∧ c ≤ 'F' then some (c.toNat - 'A'.toNat + 10)
    else none
  value.filter (· < base)

/-- The digits at the head of a text, and what follows them. -/
def span (base : Nat) : List Char → List Nat × List Char
  | [] => ([], [])
  | c :: cs => match digit? base c with
    | none => ([], c :: cs)
    | some d =>
      let (ds, rest) := span base cs
      (d :: ds, rest)

/-- The number that digits spell. -/
def ofDigits (base : Nat) (ds : List Nat) : Nat := ds.foldl (fun v d => base * v + d) 0

/-- The number that a whole text spells. -/
def read? (base : Nat) (cs : List Char) : Option Nat :=
  match span base cs with
  | (d :: ds, []) => some (ofDigits base (d :: ds))
  | _ => none

/-- A number without sign, in base ten or, after `0x`, `0o` or `0b`, in base 16, 8 or 2. A plus
may stand in front of it; in base ten there are no zeros in front. -/
def unsigned? (cs : List Char) : Option Nat :=
  let body := match cs with
    | '+' :: rest => rest
    | _ => cs
  match body with
  | '0' :: 'x' :: rest => read? 16 rest
  | '0' :: 'o' :: rest => read? 8 rest
  | '0' :: 'b' :: rest => read? 2 rest
  | '0' :: _ :: _ => none
  | _ => read? 10 body

end Numeral

end Diameter
