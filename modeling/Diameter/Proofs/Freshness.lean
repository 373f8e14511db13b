import Mathlib.Data.List.Infix
import Diameter.Proofs.World

/-!
Identifiers that a node hands out do not repeat.

Users draw identifiers one after the other, in any order. Each of the three kinds is told apart by
a counter of its own (`Identifiers.Told`), and a counter takes 2^32 steps to come back. A session
name tells its counter whatever host it begins with, since the host stands before it and no digit
is a semicolon. Main statement: `Identifiers.drawAll_distinct`.
-/

namespace Diameter

/-- Any so many consecutive entries are distinct. -/
def DistinctWithin {α : Type} (n : Nat) (as : List α) : Prop :=
  ∀ window, window <:+: as → window.length ≤ n → window.Nodup

/-- What may be asked for. -/
inductive Draw where
  | hopByHop
  | endToEnd
  | session (host : String)

/-- What is handed out. -/
inductive Handout where
  | hopByHop (id : UInt32)
  | endToEnd (id : UInt32)
  | session (name : String)

namespace Handout

def hopByHop? : Handout → Option UInt32
  | hopByHop id => some id
  | _ => none

def endToEnd? : Handout → Option UInt32
  | endToEnd id => some id
  | _ => none

def session? : Handout → Option String
  | session name => some name
  | _ => none

/-- It is what was asked for, of a generator with this number for its sessions. -/
inductive Meets (high : UInt32) : Draw → Handout → Prop
  | hopByHop (id : UInt32) : Meets high .hopByHop (hopByHop id)
  | endToEnd (id : UInt32) : Meets high .endToEnd (endToEnd id)
  | session (host : String) (low : UInt32) :
    Meets high (.session host) (session s!"{host};{high};{low};0")

end Handout

namespace Identifiers

def draw (ids : Identifiers) : Draw → Handout × Identifiers
  | .hopByHop => (.hopByHop ids.nextHopByHop.1, ids.nextHopByHop.2)
  | .endToEnd => (.endToEnd ids.nextEndToEnd.1, ids.nextEndToEnd.2)
  | .session host => (.session (ids.nextSession host).1, (ids.nextSession host).2)

/-- What users draw one after the other, each with the user who drew it. -/
def drawAll {υ : Type} (ids : Identifiers) : List (υ × Draw) → List (υ × Handout)
  | [] => []
  | (user, d) :: ds => (user, (ids.draw d).1) :: (ids.draw d).2.drawAll ds

/-! ### Counters -/

/-- Of what is handed out, some is told apart by a counter: it bears a mark of the number that the
counter comes to with it, and the counter stands still otherwise. -/
structure Told {α β : Type} (pick : Handout → Option α) (counter : Identifiers → UInt32)
    (mark : α → β) (ofNumber : UInt32 → β) : Prop where
  injective : Function.Injective ofNumber
  counts : ∀ ids d x, pick (draw ids d).1 = some x →
    counter (draw ids d).2 = counter ids + 1 ∧ mark x = ofNumber (counter ids + 1)
  stays : ∀ ids d, pick (draw ids d).1 = none → counter (draw ids d).2 = counter ids

namespace Told

variable {α β υ : Type} {pick : Handout → Option α} {counter : Identifiers → UInt32}
  {mark : α → β} {ofNumber : UInt32 → β}

lemma mark_eq (h : Told pick counter mark ofNumber) (ids : Identifiers) (ds : List (υ × Draw))
    {i : Nat} {x : α} (hx : ((ids.drawAll ds).filterMap fun y => pick y.2)[i]? = some x) :
    mark x = ofNumber (counter ids + UInt32.ofNat (i + 1)) := by
  induction ds generalizing ids i with
  | nil => simp [drawAll] at hx
  | cons d ds ih =>
    obtain ⟨user, d⟩ := d
    rw [drawAll, List.filterMap_cons] at hx
    cases hp : pick (ids.draw d).1 with
    | none =>
      simp only [hp] at hx
      rw [← h.stays ids d hp]
      exact ih _ hx
    | some y =>
      simp only [hp] at hx
      obtain ⟨hc, hm⟩ := h.counts ids d y hp
      cases i with
      | zero =>
        obtain rfl : y = x := by simpa using hx
        exact hm
      | succ i =>
        have hn : counter ids + 1 + UInt32.ofNat (i + 1) =
            counter ids + UInt32.ofNat (i + 1 + 1) := by
          rw [UInt32.ofNat_add (i + 1) 1, UInt32.add_comm (UInt32.ofNat (i + 1)),
            ← UInt32.add_assoc]
          rfl
        rw [List.getElem?_cons_succ] at hx
        rw [ih _ hx, hc, hn]

/-- It takes 2^32 of them for a number to come again. -/
lemma distinctWithin (h : Told pick counter mark ofNumber) (ids : Identifiers)
    (ds : List (υ × Draw)) :
    DistinctWithin (2 ^ 32) ((ids.drawAll ds).filterMap fun y => pick y.2) := by
  rintro window ⟨before, after, hl⟩ hn
  have hat {k : Nat} (hk : k < window.length) :
      mark window[k] = ofNumber (counter ids + UInt32.ofNat (before.length + k + 1)) := by
    refine h.mark_eq ids ds ?_
    rw [← hl, List.append_assoc, List.getElem?_append_right (Nat.le_add_right _ _),
      Nat.add_sub_cancel_left, List.getElem?_append_left hk, List.getElem?_eq_getElem hk]
  refine List.pairwise_iff_getElem.mpr fun i j hi hj hij he => ?_
  have hs := h.injective ((hat hi).symm.trans ((congrArg mark he).trans (hat hj)))
  exact UInt32.add_ofNat_ne (counter ids) (by omega) (by omega) hs

end Told

lemma told_hopByHop : Told Handout.hopByHop? Identifiers.hopByHop id id where
  injective := Function.injective_id
  counts ids d x hx := by
    cases d with
    | hopByHop => exact ⟨rfl, (Option.some.inj hx).symm⟩
    | _ => cases hx
  stays ids d hx := by
    cases d with
    | hopByHop => cases hx
    | _ => rfl

lemma told_endToEnd : Told Handout.endToEnd? Identifiers.endToEnd id id where
  injective := Function.injective_id
  counts ids d x hx := by
    cases d with
    | endToEnd => exact ⟨rfl, (Option.some.inj hx).symm⟩
    | _ => cases hx
  stays ids d hx := by
    cases d with
    | endToEnd => cases hx
    | _ => rfl

/-! ### Session names -/

/-- What stands between the last two semicolons of a name that ends as names of sessions do. -/
def lowDigits (name : String) : List Char :=
  ((name.toList.reverse.drop 2).takeWhile (· ≠ ';')).reverse

/-- The digits of a number. -/
def digits (n : UInt32) : List Char := Nat.toDigits 10 n.toNat

lemma digits_injective : Function.Injective digits := by
  intro m n h
  have hn := congrArg (Nat.ofDigitChars 10 · 0) h
  simp only [digits, Nat.ofDigitChars_ten_toDigits] at hn
  exact UInt32.toNat_inj.mp hn

lemma ne_semicolon_of_mem_digits {n : UInt32} {c : Char} (h : c ∈ digits n) : c ≠ ';' := by
  rintro rfl
  exact absurd (Nat.isDigit_of_mem_toDigits (by decide) (by decide) h) (by decide)

lemma toList_name (host : String) (high low : UInt32) : (s!"{host};{high};{low};0").toList =
    (host ++ ";" ++ toString high).toList ++ ';' :: (digits low ++ [';', '0']) := by
  have hs : s!"{host};{high};{low};0" =
      host ++ ";" ++ toString high ++ ";" ++ toString low ++ ";0" := rfl
  have hlow : (toString low).toList = digits low := Nat.toList_repr
  rw [hs, String.toList_append, String.toList_append, String.toList_append, hlow]
  simp

lemma lowDigits_name (host : String) (high low : UInt32) :
    lowDigits s!"{host};{high};{low};0" = digits low := by
  have hr (l : List Char) : (l ++ ';' :: (digits low ++ [';', '0'])).reverse =
      '0' :: ';' :: ((digits low).reverse ++ ';' :: l.reverse) := by
    simp
  have hd : ∀ c ∈ (digits low).reverse, (c ≠ ';') := fun c hc =>
    ne_semicolon_of_mem_digits (List.mem_reverse.mp hc)
  rw [lowDigits, toList_name, hr, List.drop_succ_cons, List.drop_succ_cons, List.drop_zero,
    List.takeWhile_append_of_pos fun c hc => decide_eq_true (hd c hc),
    List.takeWhile_cons_of_neg (by simp), List.append_nil, List.reverse_reverse]

lemma told_session : Told Handout.session? Identifiers.sessionLow lowDigits digits where
  injective := digits_injective
  counts ids d x hx := by
    cases d with
    | session host =>
      obtain rfl := Option.some.inj hx
      exact ⟨rfl, lowDigits_name host _ _⟩
    | _ => cases hx
  stays ids d hx := by
    cases d with
    | session => cases hx
    | _ => rfl

/-! ### Whatever is drawn -/

lemma forall₂_meets {υ : Type} (ids : Identifiers) (ds : List (υ × Draw)) :
    List.Forall₂ (fun d x => x.1 = d.1 ∧ Handout.Meets ids.sessionHigh d.2 x.2) ds
      (ids.drawAll ds) := by
  induction ds generalizing ids with
  | nil => exact .nil
  | cons d ds ih =>
    obtain ⟨user, d⟩ := d
    cases d with
    | hopByHop => exact .cons ⟨rfl, .hopByHop _⟩ (ih ids.nextHopByHop.2)
    | endToEnd => exact .cons ⟨rfl, .endToEnd _⟩ (ih ids.nextEndToEnd.2)
    | session host => exact .cons ⟨rfl, .session host _⟩ (ih (ids.nextSession host).2)

/-- **Identifiers do not repeat.** Whatever the seeds, whoever draws and in whatever order: everyone
gets what was asked for, and of each kind any 2^32 consecutive ones are distinct. -/
theorem drawAll_distinct {υ : Type} (hopByHop endToEnd session : UInt32) (ds : List (υ × Draw)) :
    let out := (seeded hopByHop endToEnd session).drawAll ds
    List.Forall₂ (fun d x => x.1 = d.1 ∧ Handout.Meets session d.2 x.2) ds out ∧
    DistinctWithin (2 ^ 32) (out.filterMap fun x => x.2.hopByHop?) ∧
    DistinctWithin (2 ^ 32) (out.filterMap fun x => x.2.endToEnd?) ∧
    DistinctWithin (2 ^ 32) (out.filterMap fun x => x.2.session?) := by
  refine ⟨?_, told_hopByHop.distinctWithin _ ds, told_endToEnd.distinctWithin _ ds,
    told_session.distinctWithin _ ds⟩
  exact forall₂_meets (seeded hopByHop endToEnd session) ds

/-- The counter of hop-by-hop identifiers wraps, and a host looks like the beginning of a session
name of another. -/
theorem drawAll_distinct_wrapping :
    let ds : List (Nat × Draw) := [(1, .session "a"), (2, .hopByHop), (1, .hopByHop),
      (2, .session "a;7;1;0"), (2, .session "a"), (1, .endToEnd)]
    let out := (seeded 0xffffffff 5 7).drawAll ds
    let names := out.filterMap fun x => x.2.session?
    names.length ≤ 2 ^ 32 ∧ names.Nodup ∧
      names = ["a;7;1;0", "a;7;1;0;7;2;0", "a;7;3;0"] ∧
      (out.filterMap fun x => x.2.hopByHop?) = [0, 1] := by
  intro ds out names
  obtain ⟨-, -, -, hs⟩ := drawAll_distinct 0xffffffff 5 7 ds
  have hl : names.length ≤ 2 ^ 32 := by decide +kernel
  exact ⟨hl, hs names List.infix_rfl hl, by decide +kernel, by decide +kernel⟩

end Identifiers

end Diameter
