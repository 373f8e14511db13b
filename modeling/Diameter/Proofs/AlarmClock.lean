import Mathlib.Data.List.Induction
import Diameter.Proofs.Ringing
import Diameter.Proofs.Run

/-!
Any number of alarms on one clock, through any history.

Alarms are armed, cancelled and let go of, and time goes by, a millisecond after the other; what is
due rings before the next one, and there is always room for what it rings for. Going by the history
alone, an arming rings once its delay has gone by, if nothing is done with its slot before
(`Elapses`), and its slot is armed until then. Main statement: `AlarmClock.ofHandlings_punctual`.
-/

namespace Diameter

/-- What is done with alarms, and time that goes by. -/
inductive Handling (σ ε : Type) where
  | arm (slot : σ) (delay : Nat) (event : ε)
  | cancel (slot : σ)
  /-- Whoever holds the slot lets go of it. -/
  | drop (slot : σ)
  | advance (ms : Nat)

namespace Handling

variable {σ ε : Type}

/-- The slot that something is done with. -/
def slot? : Handling σ ε → Option σ
  | arm slot _ _ | cancel slot | drop slot => some slot
  | advance _ => none

/-- The time that goes by. -/
def span : Handling σ ε → Nat
  | advance ms => ms
  | _ => 0

/-- It is done with this slot or with none. -/
def concerns [DecidableEq σ] (slot : σ) (h : Handling σ ε) : Bool := h.slot?.all (· = slot)

end Handling

/-- Alarms with their clock, and what has rung so far. -/
structure AlarmClock (σ ε : Type) where
  alarms : Alarms σ ε := {}
  now : Nat := 0
  /-- How much has been done. -/
  serial : Nat := 0
  /-- What has rung, and when. -/
  rung : List (Nat × Alarm σ ε) := []

namespace AlarmClock

variable {σ ε : Type}

section Operations

variable [DecidableEq σ]

/-- Everything rings that is due. -/
def ring (c : AlarmClock σ ε) : AlarmClock σ ε :=
  { c with
    alarms := (c.alarms.ringAll c.now).2
    rung := c.rung ++ (c.alarms.ringAll c.now).1.map (c.now, ·) }

/-- Time goes by, a millisecond after the other. -/
def advance (c : AlarmClock σ ε) : Nat → AlarmClock σ ε
  | 0 => c.ring
  | ms + 1 => { c.advance ms with now := (c.advance ms).now + 1 }.ring

def perform (c : AlarmClock σ ε) : Handling σ ε → AlarmClock σ ε
  | .arm slot delay event =>
    { c with
      alarms := c.alarms.arm slot (c.now + delay) c.serial event
      serial := c.serial + 1 }
  | .cancel slot | .drop slot =>
    { c with alarms := c.alarms.cancel slot, serial := c.serial + 1 }
  | .advance ms => { c.advance ms with serial := c.serial + 1 }

/-- The clock after all this, from the beginning. -/
def ofHandlings (hs : List (Handling σ ε)) : AlarmClock σ ε := hs.foldl perform {}

/-- What a slot has rung for, and when. -/
def heard (c : AlarmClock σ ε) (slot : σ) : List (Nat × ε) :=
  (c.rung.filter (·.2.slot = slot)).map fun x => (x.1, x.2.event)

end Operations

/-! ### What a history says -/

/-- The time that has gone by. -/
def elapsed : List (Handling σ ε) → Nat
  | [] => 0
  | h :: hs => h.span + elapsed hs

/-- Nothing is done with the slot. -/
def Untouched (slot : σ) (hs : List (Handling σ ε)) : Prop := ∀ h ∈ hs, h.slot? ≠ some slot

/-- The delay goes by, and nothing is done with the slot before. -/
def Elapses (slot : σ) (delay : Nat) (hs : List (Handling σ ε)) : Prop :=
  ∃ before ms after, hs = before ++ .advance ms :: after ∧ Untouched slot before ∧
    delay ≤ elapsed before + ms

/-- The alarm that is armed after this history. -/
def alarmAfter (hs : List (Handling σ ε)) (slot : σ) (delay : Nat) (event : ε) : Alarm σ ε :=
  ⟨slot, elapsed hs + delay, hs.length, event⟩

/-- It was armed, nothing has been done with its slot since, and its delay has not gone by. -/
def Stands (hs : List (Handling σ ε)) (a : Alarm σ ε) : Prop :=
  ∃ before delay after, hs = before ++ .arm a.slot delay a.event :: after ∧
    a = alarmAfter before a.slot delay a.event ∧ Untouched a.slot after ∧
    ¬ Elapses a.slot delay after

/-- It was armed, and its delay has gone by before anything was done with its slot. -/
def Rang (hs : List (Handling σ ε)) (a : Alarm σ ε) : Prop :=
  ∃ before delay after, hs = before ++ .arm a.slot delay a.event :: after ∧
    a = alarmAfter before a.slot delay a.event ∧ Elapses a.slot delay after

section History

variable {hs : List (Handling σ ε)} {h : Handling σ ε} {slot : σ} {delay : Nat} {a : Alarm σ ε}

@[simp] lemma elapsed_cons (h : Handling σ ε) (hs : List (Handling σ ε)) :
    elapsed (h :: hs) = h.span + elapsed hs := rfl

@[simp] lemma elapsed_nil : elapsed ([] : List (Handling σ ε)) = 0 := rfl

@[simp] lemma elapsed_append (hs hs' : List (Handling σ ε)) :
    elapsed (hs ++ hs') = elapsed hs + elapsed hs' := by
  induction hs with
  | nil => simp
  | cons h hs ih => rw [List.cons_append, elapsed_cons, elapsed_cons, ih, Nat.add_assoc]

lemma untouched_concat :
    Untouched slot (hs ++ [h]) ↔ Untouched slot hs ∧ h.slot? ≠ some slot := by
  simp [Untouched, or_imp, forall_and]

lemma elapses_concat : Elapses slot delay (hs ++ [h]) ↔ Elapses slot delay hs ∨
    Untouched slot hs ∧ ∃ ms, h = .advance ms ∧ delay ≤ elapsed hs + ms := by
  constructor
  · rintro ⟨before, ms, after, hs', hu, hd⟩
    rcases split_concat hs' with ⟨rfl, rfl, rfl⟩ | ⟨ds, rfl, rfl⟩
    · exact .inr ⟨hu, ms, rfl, hd⟩
    · exact .inl ⟨before, ms, ds, rfl, hu, hd⟩
  · rintro (⟨before, ms, after, rfl, hu, hd⟩ | ⟨hu, ms, rfl, hd⟩)
    · exact ⟨before, ms, after ++ [h], by simp, hu, hd⟩
    · exact ⟨hs, ms, [], rfl, hu, hd⟩

lemma not_elapses_nil : ¬ Elapses slot delay ([] : List (Handling σ ε)) := by
  rintro ⟨before, ms, after, hs, -⟩
  simp at hs

lemma stands_concat : Stands (hs ++ [h]) a ↔
    (Stands hs a ∧ h.slot? ≠ some a.slot ∧ ∀ ms, h = .advance ms → elapsed hs + ms < a.due) ∨
      ∃ delay, h = .arm a.slot delay a.event ∧ a = alarmAfter hs a.slot delay a.event := by
  constructor
  · rintro ⟨before, delay, after, hl, ha, hu, he⟩
    -- `h` is the very step that armed it
    rcases split_concat hl with ⟨rfl, rfl, rfl⟩ | ⟨ds, rfl, rfl⟩
    · exact .inr ⟨delay, rfl, ha⟩
    · -- it was armed before, and `h` neither touched its slot nor reached its time
      rw [untouched_concat] at hu
      rw [elapses_concat, not_or] at he
      refine .inl ⟨⟨before, delay, ds, rfl, ha, hu.1, he.1⟩, hu.2, fun ms hm => ?_⟩
      have hlt : ¬ delay ≤ elapsed ds + ms := fun hle => he.2 ⟨hu.1, ms, hm, hle⟩
      have hd : a.due = elapsed before + delay := congrArg Alarm.due ha
      simp only [elapsed_append, elapsed_cons, Handling.span]
      omega
  · rintro (⟨⟨before, delay, after, rfl, ha, hu, he⟩, ht, hd⟩ | ⟨delay, rfl, ha⟩)
    · -- an alarm that stood before outlasts `h`
      refine ⟨before, delay, after ++ [h], by simp, ha, untouched_concat.mpr ⟨hu, ht⟩, ?_⟩
      rw [elapses_concat]
      rintro (he' | ⟨-, ms, hm, hle⟩)
      · exact he he'
      · have hlt := hd ms hm
        have hdue : a.due = elapsed before + delay := congrArg Alarm.due ha
        simp only [elapsed_append, elapsed_cons, Handling.span] at hlt
        omega
    · -- an alarm that `h` arms stands at once
      exact ⟨hs, delay, [], rfl, ha, List.forall_mem_nil _, not_elapses_nil⟩

lemma rang_concat : Rang (hs ++ [h]) a ↔
    Rang hs a ∨ Stands hs a ∧ ∃ ms, h = .advance ms ∧ a.due ≤ elapsed hs + ms := by
  constructor
  · rintro ⟨before, delay, after, hl, ha, he⟩
    rcases split_concat hl with ⟨rfl, rfl, rfl⟩ | ⟨ds, rfl, rfl⟩
    · -- an alarm armed just now has had no time to elapse
      exact absurd he not_elapses_nil
    · by_cases hr : Elapses a.slot delay ds
      · -- it had rung before `h`
        exact .inl ⟨before, delay, ds, rfl, ha, hr⟩
      · -- otherwise `h` is the advance that brought its time
        obtain ⟨hu, ms, hm, hle⟩ := (elapses_concat.mp he).resolve_left hr
        refine .inr ⟨⟨before, delay, ds, rfl, ha, hu, hr⟩, ms, hm, ?_⟩
        have hdue : a.due = elapsed before + delay := congrArg Alarm.due ha
        simp only [elapsed_append, elapsed_cons, Handling.span]
        omega
  · rintro (⟨before, delay, after, rfl, ha, he⟩ | ⟨⟨before, delay, after, rfl, ha, hu, -⟩, hr⟩)
    · exact ⟨before, delay, after ++ [h], by simp, ha, elapses_concat.mpr (.inl he)⟩
    · obtain ⟨ms, hm, hd⟩ := hr
      refine ⟨before, delay, after ++ [h], by simp, ha, elapses_concat.mpr (.inr ⟨hu, ms, hm, ?_⟩)⟩
      have hdue : a.due = elapsed before + delay := congrArg Alarm.due ha
      simp only [elapsed_append, elapsed_cons, Handling.span] at hd
      omega

end History

/-! ### What the clock does -/

section Steps

variable [DecidableEq σ] {c : AlarmClock σ ε} {hs : List (Handling σ ε)} {slot : σ}

/-- Nothing armed is overdue: ringing a millisecond after the other is ringing at once what is due
by the end, each at its own time. -/
lemma advance_eq_ringAll (ho : c.alarms.Orderly)
    (hd : ∀ a ∈ c.alarms.armed, c.now ≤ a.due) (ms : Nat) : c.advance ms =
      { c with
        alarms := (c.alarms.ringAll (c.now + ms)).2
        now := c.now + ms
        rung := c.rung ++ (c.alarms.ringAll (c.now + ms)).1.map fun a => (a.due, a) } := by
  induction ms with
  | zero =>
    have hr : (c.alarms.ringAll c.now).1.map (c.now, ·) =
        (c.alarms.ringAll c.now).1.map fun a => (a.due, a) := by
      refine List.map_congr_left fun a ha => ?_
      obtain ⟨ha, hle⟩ := ho.mem_ringAll.mp ha
      rw [Nat.le_antisymm (hd a ha) hle]
    simp only [advance, ring, hr, Nat.add_zero]
  | succ ms ih =>
    have hnext : c.now + ms ≤ c.now + (ms + 1) := by omega
    have hr : (((c.alarms.ringAll (c.now + ms)).2.ringAll (c.now + (ms + 1))).1).map
          (c.now + (ms + 1), ·) =
        (((c.alarms.ringAll (c.now + ms)).2.ringAll (c.now + (ms + 1))).1).map
          fun a => (a.due, a) := by
      refine List.map_congr_left fun a ha => ?_
      obtain ⟨ha, hle⟩ := (ho.ringAll _).mem_ringAll.mp ha
      have hlt := (ho.mem_armed_ringAll.mp ha).2
      rw [show a.due = c.now + (ms + 1) by omega]
    rw [advance, ih, ho.ringAll_ringAll hnext]
    simp only [ring, Nat.add_assoc, hr, List.map_append, List.append_assoc]

/-- The clock shows what the history says. -/
structure Shows (hs : List (Handling σ ε)) (c : AlarmClock σ ε) : Prop where
  now : c.now = elapsed hs
  serial : c.serial = hs.length
  orderly : c.alarms.Orderly
  armed : ∀ a, a ∈ c.alarms.armed ↔ Stands hs a
  rung : ∀ x, x ∈ c.rung ↔ x.1 = x.2.due ∧ Rang hs x.2
  /-- Nothing armed is overdue, and nothing has rung before its time. -/
  ahead : ∀ a ∈ c.alarms.armed, c.now ≤ a.due ∧ a.serial < c.serial
  past : ∀ x ∈ c.rung, x.2.due ≤ c.now ∧ x.2.serial < c.serial
  /-- What has rung comes before what will. -/
  sooner : ∀ x ∈ c.rung, ∀ a ∈ c.alarms.armed, x.2.before a
  inOrder : (c.rung.map Prod.snd).Pairwise (·.before ·)

namespace Shows

omit [DecidableEq σ] in
lemma init : Shows [] ({} : AlarmClock σ ε) where
  now := rfl
  serial := rfl
  orderly := ⟨List.nodup_nil, .nil⟩
  armed a := by simp [Stands]
  rung x := by simp [Rang]
  ahead := List.forall_mem_nil _
  past := List.forall_mem_nil _
  sooner := List.forall_mem_nil _
  inOrder := .nil

lemma cancel (h : Shows hs c) {k : Handling σ ε} (hk : k = .cancel slot ∨ k = .drop slot) :
    Shows (hs ++ [k]) { c with alarms := c.alarms.cancel slot, serial := c.serial + 1 } where
  now := by rcases hk with rfl | rfl <;> simp [h.now, Handling.span]
  serial := by simp [h.serial]
  orderly := h.orderly.cancel slot
  armed a := by
    rw [Alarms.mem_cancel, h.armed, stands_concat]
    rcases hk with rfl | rfl <;> simp [Handling.slot?, eq_comm]
  rung x := by
    rw [h.rung, rang_concat]
    rcases hk with rfl | rfl <;> simp
  ahead a hma := by
    have hold := h.ahead a (Alarms.mem_cancel.mp hma).1
    exact ⟨hold.1, Nat.lt_succ_of_lt hold.2⟩
  past x hx := ⟨(h.past x hx).1, Nat.lt_succ_of_lt (h.past x hx).2⟩
  sooner x hx a hma := h.sooner x hx a (Alarms.mem_cancel.mp hma).1
  inOrder := h.inOrder

lemma arm (h : Shows hs c) (slot : σ) (delay : Nat) (event : ε) :
    Shows (hs ++ [.arm slot delay event])
      { c with
        alarms := c.alarms.arm slot (c.now + delay) c.serial event
        serial := c.serial + 1 } where
  now := by simp [h.now, Handling.span]
  serial := by simp [h.serial]
  orderly := h.orderly.arm (fun a ha => (h.ahead a ha).2) _ _
  armed a := by
    rw [Alarms.mem_arm, h.armed, stands_concat, h.now, h.serial]
    refine or_congr ?_ ?_
    · simp [Handling.slot?, eq_comm]
    · -- the alarm that is set is `alarmAfter` by definition
      constructor
      · rintro rfl
        exact ⟨delay, rfl, rfl⟩
      · rintro ⟨d, hk, ha⟩
        obtain ⟨rfl, rfl, rfl⟩ := Handling.arm.inj hk
        exact ha
  rung x := by
    rw [h.rung, rang_concat]
    simp
  ahead a ha := by
    rcases Alarms.mem_arm.mp ha with ⟨ha, -⟩ | rfl
    · have hold := h.ahead a ha
      exact ⟨hold.1, Nat.lt_succ_of_lt hold.2⟩
    · exact ⟨Nat.le_add_right _ _, Nat.lt_succ_self _⟩
  past x hx := ⟨(h.past x hx).1, Nat.lt_succ_of_lt (h.past x hx).2⟩
  sooner x hx a ha := by
    rcases Alarms.mem_arm.mp ha with ⟨ha, -⟩ | rfl
    · -- the alarms that were kept are still ahead of every one that rang
      exact h.sooner x hx a ha
    · -- the new alarm is due at `c.now` at the earliest, and its serial is the highest
      have hp := h.past x hx
      rw [Alarm.before_iff]
      dsimp only
      omega
  inOrder := h.inOrder

lemma advance_eq (h : Shows hs c) (ms : Nat) :
    c.advance ms =
      { c with
        alarms := (c.alarms.ringAll (c.now + ms)).2
        now := c.now + ms
        rung := c.rung ++ (c.alarms.ringAll (c.now + ms)).1.map fun a => (a.due, a) } :=
  advance_eq_ringAll h.orderly (fun a ha => (h.ahead a ha).1) ms

/-- What is due rings, and all else stays. -/
lemma advance (h : Shows hs c) (ms : Nat) :
    Shows (hs ++ [.advance ms]) { c.advance ms with serial := c.serial + 1 } := by
  rw [h.advance_eq]
  refine
    { now := by simp [h.now, Handling.span]
      serial := by simp [h.serial]
      orderly := h.orderly.ringAll _
      armed := fun a => ?armed
      rung := fun x => ?rung
      ahead := fun a ha => ?ahead
      past := fun x hx => ?past
      sooner := fun x hx a ha => ?sooner
      inOrder := ?inOrder }
  case armed =>
    rw [h.orderly.mem_armed_ringAll, h.armed, stands_concat, h.now]
    simp [Handling.slot?]
  case rung =>
    rw [List.mem_append, h.rung, rang_concat, and_or_left]
    refine or_congr_right ?_
    constructor
    · intro hx
      obtain ⟨a, ha, rfl⟩ := List.mem_map.mp hx
      obtain ⟨ha, hd⟩ := h.orderly.mem_ringAll.mp ha
      exact ⟨rfl, (h.armed a).mp ha, ms, rfl, h.now ▸ hd⟩
    · rintro ⟨hx, ha, m, hm, hd⟩
      obtain rfl := Handling.advance.inj hm
      refine List.mem_map.mpr ⟨x.2, h.orderly.mem_ringAll.mpr ⟨(h.armed x.2).mpr ha, ?_⟩, ?_⟩
      · exact h.now ▸ hd
      · exact Prod.ext hx.symm rfl
  case ahead =>
    obtain ⟨ha, hd⟩ := h.orderly.mem_armed_ringAll.mp ha
    exact ⟨Nat.le_of_lt hd, Nat.lt_succ_of_lt (h.ahead a ha).2⟩
  case past =>
    rcases List.mem_append.mp hx with hx | hx
    · -- what rang earlier, as the clock only moves on
      have hp := h.past x hx
      exact ⟨Nat.le_add_right_of_le hp.1, Nat.lt_succ_of_lt hp.2⟩
    · -- what rings now had fallen due by the time reached
      obtain ⟨a, ha, rfl⟩ := List.mem_map.mp hx
      obtain ⟨ha, hd⟩ := h.orderly.mem_ringAll.mp ha
      exact ⟨hd, Nat.lt_succ_of_lt (h.ahead a ha).2⟩
  case sooner =>
    obtain ⟨ha, hd⟩ := h.orderly.mem_armed_ringAll.mp ha
    rcases List.mem_append.mp hx with hx | hx
    · -- what rang earlier was ahead of all that was armed
      exact h.sooner x hx a ha
    · -- what rings now was due by the time reached, and what stays armed was not
      obtain ⟨b, hb, rfl⟩ := List.mem_map.mp hx
      have hle := (h.orderly.mem_ringAll.mp hb).2
      rw [Alarm.before_iff]
      dsimp only
      omega
  case inOrder =>
    have hmap : (c.rung ++ (c.alarms.ringAll (c.now + ms)).1.map fun a => (a.due, a)).map
        Prod.snd = c.rung.map Prod.snd ++ (c.alarms.ringAll (c.now + ms)).1 := by
      simp [Function.comp_def]
    rw [hmap, List.pairwise_append]
    refine ⟨h.inOrder, h.orderly.inOrder_ringAll _, fun a ha b hb => ?_⟩
    obtain ⟨x, hx, rfl⟩ := List.mem_map.mp ha
    exact h.sooner x hx b (h.orderly.mem_ringAll.mp hb).1

lemma perform (h : Shows hs c) (k : Handling σ ε) : Shows (hs ++ [k]) (c.perform k) := by
  cases k with
  | arm slot delay event => exact h.arm slot delay event
  | cancel slot => exact h.cancel (.inl rfl)
  | drop slot => exact h.cancel (.inr rfl)
  | advance ms => exact h.advance ms

end Shows

lemma ofHandlings_concat (hs : List (Handling σ ε)) (k : Handling σ ε) :
    ofHandlings (hs ++ [k]) = (ofHandlings hs).perform k :=
  List.foldl_concat perform {} k hs

lemma shows (hs : List (Handling σ ε)) : Shows hs (ofHandlings hs) := by
  induction hs using List.reverseRecOn with
  | nil => exact .init
  | append_singleton hs k ih =>
    rw [ofHandlings_concat]
    exact ih.perform k

lemma eq_of_serial {x y : Nat × Alarm σ ε} (hx : x ∈ (ofHandlings hs).rung)
    (hy : y ∈ (ofHandlings hs).rung) (h : x.2.serial = y.2.serial) : x = y := by
  have hs := shows hs
  obtain ⟨hxd, b, d, r, rfl, hxa, -⟩ := (hs.rung x).mp hx
  obtain ⟨hyd, b', d', r', hl, hya, -⟩ := (hs.rung y).mp hy
  have hlen : b.length = b'.length := by
    rw [hxa, hya] at h
    exact h
  obtain ⟨rfl, hc⟩ := List.append_inj hl hlen
  obtain ⟨hslot, rfl, hevent⟩ := Handling.arm.inj (List.head_eq_of_cons_eq hc)
  have ha : x.2 = y.2 := by rw [hxa, hya, hslot, hevent]
  exact Prod.ext (by rw [hxd, hyd, ha]) ha

end Steps

/-! ### One slot -/

section Slot

variable [DecidableEq σ] {c c' : AlarmClock σ ε} {hs : List (Handling σ ε)} {slot : σ}

/-- What alarms of a slot will ring for, and when. -/
def awaited (slot : σ) (as : List (Alarm σ ε)) : List (Nat × ε) :=
  (as.filter (·.slot = slot)).map fun a => (a.due, a.event)

lemma awaited_ringAll (h : c.alarms.Orderly) (slot : σ) (time : Nat) :
    awaited slot (c.alarms.ringAll time).1 =
        (awaited slot c.alarms.armed).filter (·.1 ≤ time) ∧
      awaited slot (c.alarms.ringAll time).2.armed =
        (awaited slot c.alarms.armed).filter (time < ·.1) := by
  constructor
  · rw [awaited, awaited, h.filter_slot_ringAll, List.filter_map, List.filter_filter,
      List.filter_filter]
    exact congrArg (List.map _) (List.filter_congr fun a _ => Bool.and_comm _ _)
  · rw [awaited, awaited, h.armed_ringAll, List.filter_map, List.filter_filter,
      List.filter_filter]
    exact congrArg (List.map _) (List.filter_congr fun a _ => Bool.and_comm _ _)

lemma awaited_cancel_self (s : Alarms σ ε) (slot : σ) :
    awaited slot (s.cancel slot).armed = [] := by
  have hf : (s.cancel slot).armed.filter (·.slot = slot) = [] :=
    List.filter_eq_nil_iff.mpr fun a ha => by simpa using (Alarms.mem_cancel.mp ha).2
  rw [awaited, hf, List.map_nil]

lemma awaited_cancel_of_ne (s : Alarms σ ε) {other : σ} (h : other ≠ slot) :
    awaited slot (s.cancel other).armed = awaited slot s.armed := by
  rw [awaited, awaited, Alarms.cancel, List.filter_filter]
  refine congrArg (List.map _) (List.filter_congr fun a _ => ?_)
  have hne : a.slot = slot → a.slot ≠ other := fun he ho => h (ho.symm.trans he)
  simpa using hne

lemma awaited_arm (s : Alarms σ ε) (slot other : σ) (due serial : Nat) (event : ε) :
    awaited slot (s.arm other due serial event).armed =
      awaited slot (s.cancel other).armed ++ if other = slot then [(due, event)] else [] := by
  rw [awaited, awaited, Alarms.arm, List.filter_append, List.map_append]
  by_cases h : other = slot <;> simp [h]

lemma isArmed_eq (s : Alarms σ ε) (slot : σ) :
    s.isArmed slot = !(awaited slot s.armed).isEmpty := by
  rw [Bool.eq_iff_iff, Bool.not_eq_true', List.isEmpty_eq_false_iff, Alarms.isArmed,
    List.any_eq_true, awaited, Ne, List.map_eq_nil_iff, List.filter_eq_nil_iff]
  simp

lemma heard_advance (h : Shows hs c) (slot : σ) (ms : Nat) :
    (c.advance ms).heard slot =
      c.heard slot ++ (awaited slot c.alarms.armed).filter (·.1 ≤ c.now + ms) := by
  rw [h.advance_eq, heard, ← (awaited_ringAll h.orderly slot (c.now + ms)).1,
    List.filter_append, List.map_append, List.filter_map, List.map_map]
  rfl

/-- Two clocks show the same time, and the same of a slot. -/
structure AlikeIn (slot : σ) (c c' : AlarmClock σ ε) : Prop where
  now : c.now = c'.now
  armed : awaited slot c.alarms.armed = awaited slot c'.alarms.armed
  heard : c.heard slot = c'.heard slot

namespace AlikeIn

lemma other (h : AlikeIn slot c c') {k : Handling σ ε} (hk : ¬ k.concerns slot) :
    AlikeIn slot (c.perform k) c' := by
  cases k with
  | arm other delay event =>
    have hne : other ≠ slot := by simpa [Handling.concerns, Handling.slot?] using hk
    refine ⟨h.now, ?_, h.heard⟩
    rw [← h.armed, perform, awaited_arm, if_neg hne, List.append_nil, awaited_cancel_of_ne _ hne]
  | cancel other | drop other =>
    have hne : other ≠ slot := by simpa [Handling.concerns, Handling.slot?] using hk
    exact ⟨h.now, (awaited_cancel_of_ne _ hne).trans h.armed, h.heard⟩
  | advance ms => exact absurd rfl hk

lemma perform {hs' : List (Handling σ ε)} (hc : Shows hs c) (hc' : Shows hs' c')
    (h : AlikeIn slot c c') {k : Handling σ ε} (hk : k.concerns slot) :
    AlikeIn slot (c.perform k) (c'.perform k) := by
  cases k with
  | arm other delay event =>
    obtain rfl : other = slot := by simpa [Handling.concerns, Handling.slot?] using hk
    refine ⟨h.now, ?_, h.heard⟩
    rw [AlarmClock.perform, AlarmClock.perform, awaited_arm, awaited_arm, awaited_cancel_self,
      awaited_cancel_self, h.now]
  | cancel other | drop other =>
    obtain rfl : other = slot := by simpa [Handling.concerns, Handling.slot?] using hk
    exact ⟨h.now, (awaited_cancel_self _ _).trans (awaited_cancel_self _ _).symm, h.heard⟩
  | advance ms =>
    have ht : (c.advance ms).now = (c'.advance ms).now := by
      rw [hc.advance_eq, hc'.advance_eq, h.now]
    have ha : awaited slot (c.advance ms).alarms.armed =
        awaited slot (c'.advance ms).alarms.armed := by
      rw [hc.advance_eq, hc'.advance_eq, (awaited_ringAll hc.orderly slot _).2,
        (awaited_ringAll hc'.orderly slot _).2, h.now, h.armed]
    have hh : (c.advance ms).heard slot = (c'.advance ms).heard slot := by
      rw [heard_advance hc, heard_advance hc', h.now, h.armed, h.heard]
    exact ⟨ht, ha, hh⟩

end AlikeIn

lemma alikeIn_filter (slot : σ) (hs : List (Handling σ ε)) :
    AlikeIn slot (ofHandlings hs) (ofHandlings (hs.filter (·.concerns slot))) := by
  induction hs using List.reverseRecOn with
  | nil => exact ⟨rfl, rfl, rfl⟩
  | append_singleton hs k ih =>
    rw [ofHandlings_concat, List.filter_append]
    by_cases hk : k.concerns slot
    · rw [List.filter_cons_of_pos hk, List.filter_nil, ofHandlings_concat]
      exact ih.perform (shows _) (shows _) hk
    · rw [List.filter_cons_of_neg hk, List.filter_nil, List.append_nil]
      exact ih.other hk

/-! ### What rings, and when -/

/-- What a clock has done and what it shows, by its history. -/
structure Punctual (hs : List (Handling σ ε)) (c : AlarmClock σ ε) : Prop where
  time : c.now = elapsed hs
  /-- An arming rings once if its delay goes by before anything is done with its slot. -/
  rings : ∀ before slot delay event after, hs = before ++ .arm slot delay event :: after →
    Elapses slot delay after → c.rung.filter (·.2.serial = before.length) =
      [(elapsed before + delay, alarmAfter before slot delay event)]
  /-- Else it does not ring. -/
  keepsStill : ∀ before slot delay event after, hs = before ++ .arm slot delay event :: after →
    ¬ Elapses slot delay after → c.rung.filter (·.2.serial = before.length) = []
  /-- Nothing rings that was not armed. -/
  armings : ∀ x ∈ c.rung, ∃ before slot delay event after,
    hs = before ++ .arm slot delay event :: after ∧
      x = (elapsed before + delay, alarmAfter before slot delay event)
  /-- Alarms ring one after the other, and those of one time in the order of arming. -/
  inOrder : c.rung.Pairwise fun x y => x.1 < y.1 ∨ x.1 = y.1 ∧ x.2.serial < y.2.serial
  /-- A slot is armed if nothing has been done with it since the last arming, which has not rung. -/
  armed : ∀ slot, c.alarms.isArmed slot ↔ ∃ before delay event after,
    hs = before ++ .arm slot delay event :: after ∧ Untouched slot after ∧
      ¬ Elapses slot delay after
  /-- Each slot is as if there were no others. -/
  apart : ∀ slot, let alone := ofHandlings (hs.filter (·.concerns slot))
    c.heard slot = alone.heard slot ∧ c.alarms.isArmed slot = alone.alarms.isArmed slot

lemma exists_arming {x : Nat × Alarm σ ε} (hx : x ∈ (ofHandlings hs).rung) :
    ∃ before delay after, hs = before ++ .arm x.2.slot delay x.2.event :: after ∧
      x = (elapsed before + delay, alarmAfter before x.2.slot delay x.2.event) ∧
      Elapses x.2.slot delay after := by
  obtain ⟨hd, before, delay, after, hl, ha, he⟩ := ((shows hs).rung x).mp hx
  have hdue : x.2.due = elapsed before + delay := congrArg Alarm.due ha
  exact ⟨before, delay, after, hl, Prod.ext (hd.trans hdue) ha, he⟩

section Arming

variable {before after : List (Handling σ ε)} {delay : Nat} {event : ε}

lemma rung_of_elapses (hl : hs = before ++ .arm slot delay event :: after)
    (he : Elapses slot delay after) : (ofHandlings hs).rung.filter (·.2.serial = before.length) =
      [(elapsed before + delay, alarmAfter before slot delay event)] := by
  have hc := shows hs
  have hm : (elapsed before + delay, alarmAfter before slot delay event) ∈
      (ofHandlings hs).rung :=
    (hc.rung _).mpr ⟨rfl, before, delay, after, hl, rfl, he⟩
  have hn : (ofHandlings hs).rung.Nodup := (Alarm.nodup_of_inOrder hc.inOrder).of_map _
  refine List.perm_singleton.mp ((List.perm_ext_iff_of_nodup (hn.filter _)
    (List.nodup_singleton _)).mpr fun x => ?_)
  rw [List.mem_filter, decide_eq_true_iff, List.mem_singleton]
  constructor
  · rintro ⟨hx, hs⟩
    exact eq_of_serial hx hm hs
  · rintro rfl
    exact ⟨hm, rfl⟩

lemma rung_of_not_elapses (hl : hs = before ++ .arm slot delay event :: after)
    (he : ¬ Elapses slot delay after) :
    (ofHandlings hs).rung.filter (·.2.serial = before.length) = [] := by
  rw [List.filter_eq_nil_iff]
  intro x hx
  rw [decide_eq_true_iff]
  intro hlen
  obtain ⟨b, d, r, hl', ha, hr⟩ := exists_arming hx
  have hb : b.length = before.length := by
    rw [ha] at hlen
    exact hlen
  obtain ⟨-, hk⟩ := List.append_inj (hl'.symm.trans hl) hb
  obtain ⟨harm, rfl⟩ := List.cons.inj hk
  obtain ⟨rfl, rfl, -⟩ := Handling.arm.inj harm
  exact he hr

end Arming

lemma isArmed_iff : (ofHandlings hs).alarms.isArmed slot ↔ ∃ before delay event after,
    hs = before ++ .arm slot delay event :: after ∧ Untouched slot after ∧
      ¬ Elapses slot delay after := by
  have hc := shows hs
  rw [Alarms.isArmed, List.any_eq_true]
  constructor
  · rintro ⟨a, ha, hs⟩
    obtain rfl := of_decide_eq_true hs
    obtain ⟨before, delay, after, hl, -, hu, he⟩ := (hc.armed a).mp ha
    exact ⟨before, delay, a.event, after, hl, hu, he⟩
  · rintro ⟨before, delay, event, after, hl, hu, he⟩
    exact ⟨alarmAfter before slot delay event,
      (hc.armed _).mpr ⟨before, delay, after, hl, rfl, hu, he⟩, decide_eq_true rfl⟩

lemma rung_inOrder (hs : List (Handling σ ε)) : (ofHandlings hs).rung.Pairwise fun x y =>
    x.1 < y.1 ∨ x.1 = y.1 ∧ x.2.serial < y.2.serial := by
  have hc := shows hs
  refine (List.pairwise_map.mp hc.inOrder).imp_of_mem fun {x y} hx hy hxy => ?_
  rw [((hc.rung x).mp hx).1, ((hc.rung y).mp hy).1]
  exact Alarm.before_iff.mp hxy

/-- **Alarms are punctual.** -/
theorem ofHandlings_punctual (hs : List (Handling σ ε)) : (ofHandlings hs).Punctual hs where
  time := (shows hs).now
  rings _ _ _ _ _ hl he := rung_of_elapses hl he
  keepsStill _ _ _ _ _ hl he := rung_of_not_elapses hl he
  armings x hx := by
    obtain ⟨before, delay, after, hl, hx, -⟩ := exists_arming hx
    exact ⟨before, x.2.slot, delay, x.2.event, after, hl, hx⟩
  inOrder := rung_inOrder hs
  armed _ := isArmed_iff
  apart slot := by
    have h := alikeIn_filter slot hs
    exact ⟨h.heard, by rw [isArmed_eq, isArmed_eq, h.armed]⟩

/-- Slot 1 is armed anew, slot 3 is cancelled in time although its delay is zero, and slots 1 and 2
ring at the same time, the one that was armed first before the other. Slot 4 waits. -/
theorem ofHandlings_punctual_rearmed :
    let hs : List (Handling Nat String) := [.arm 1 9 "a", .arm 2 4 "b", .arm 3 0 "c", .cancel 3,
      .arm 1 4 "d", .advance 3, .arm 2 1 "e", .arm 4 8 "f", .advance 7]
    let c := ofHandlings hs
    Elapses 1 4 (hs.drop 5) ∧ ¬ Elapses 3 0 (hs.drop 3) ∧ c.Punctual hs ∧
      c.rung.filter (·.2.serial = 4) = [(4, ⟨1, 4, 4, "d"⟩)] ∧
      c.rung.filter (·.2.serial = 2) = [] ∧
      c.rung.map (fun x => (x.1, x.2.event)) = [(4, "d"), (4, "e")] ∧
      c.alarms.isArmed 4 ∧ ¬ c.alarms.isArmed 1 := by
  intro hs c
  have hr : Elapses 1 4 (hs.drop 5) :=
    ⟨[.advance 3, .arm 2 1 "e", .arm 4 8 "f"], 7, [], rfl, by simp [Untouched, Handling.slot?],
      by decide⟩
  have hn : ¬ Elapses 3 0 (hs.drop 3) := by
    rintro ⟨before, ms, after, hl, hu, -⟩
    cases before with
    | nil => cases hl
    | cons h before =>
      obtain ⟨rfl, -⟩ := List.cons.inj hl
      exact hu _ List.mem_cons_self rfl
  have hc : c.Punctual hs := ofHandlings_punctual hs
  exact ⟨hr, hn, hc, hc.rings (hs.take 4) 1 4 "d" (hs.drop 5) rfl hr,
    hc.keepsStill (hs.take 2) 3 0 "c" (hs.drop 3) rfl hn, by decide, by decide, by decide⟩

end Slot

end AlarmClock

end Diameter
