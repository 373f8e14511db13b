/-!
One-shot alarms on a clock that counts milliseconds.

Each alarm occupies a slot; arming a slot again replaces what was armed there. An alarm that
has rung is gone. Alarms ring in the order of their due times, and those due together in the
order in which they were armed.
-/

namespace Diameter

structure Alarm (σ ε : Type) where
  slot : σ
  due : Nat
  /-- When it was armed, among all armings on the same clock. -/
  serial : Nat
  event : ε

/-- Rings before. -/
def Alarm.before {σ ε : Type} (a b : Alarm σ ε) : Bool :=
  a.due < b.due || (a.due = b.due && a.serial < b.serial)

/-- Alarms in the order of arming. -/
structure Alarms (σ ε : Type) where
  armed : List (Alarm σ ε) := []

namespace Alarms

variable {σ ε : Type} [DecidableEq σ]

def cancel (s : Alarms σ ε) (slot : σ) : Alarms σ ε := ⟨s.armed.filter (·.slot ≠ slot)⟩

def arm (s : Alarms σ ε) (slot : σ) (due serial : Nat) (event : ε) : Alarms σ ε :=
  ⟨(s.cancel slot).armed ++ [⟨slot, due, serial, event⟩]⟩

def isArmed (s : Alarms σ ε) (slot : σ) : Bool := s.armed.any (·.slot = slot)

omit [DecidableEq σ] in
/-- The alarm that rings first. -/
def first? (s : Alarms σ ε) : Option (Alarm σ ε) :=
  s.armed.foldl
    (fun best a => match best with
      | none => some a
      | some b => if a.before b then some a else some b) none

/-- Rings the first alarm if it is due by `time`. -/
def ring? (s : Alarms σ ε) (time : Nat) : Option (Alarm σ ε × Alarms σ ε) :=
  match s.first? with
  | none => none
  | some a => if a.due ≤ time then some (a, s.cancel a.slot) else none

/-- Rings at most `n` alarms due by `time`. -/
def ringUpTo (time : Nat) : Nat → Alarms σ ε → List (Alarm σ ε) × Alarms σ ε
  | 0, s => ([], s)
  | n + 1, s => match s.ring? time with
    | none => ([], s)
    | some (a, s) =>
      let (as, s) := ringUpTo time n s
      (a :: as, s)

/-- Rings every alarm due by `time`, in order. -/
def ringAll (s : Alarms σ ε) (time : Nat) : List (Alarm σ ε) × Alarms σ ε :=
  s.ringUpTo time s.armed.length

end Alarms

end Diameter
