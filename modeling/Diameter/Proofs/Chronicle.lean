import Diameter.Proofs.Clockwork

/-!
The turns that a connection with its clock has taken.

A chronicle keeps them in order, each with the time at which it was taken. What is reached is what
there is a chronicle of (`Clockwork.reached_iff`), and a chronicle goes on as it is told
(`Chronicle.acts`).
-/

namespace Diameter

namespace Clockwork

/-- A connection with its clock has come from the first to the last, and has taken these turns. -/
inductive Chronicle (site : Site) (w₀ : Clockwork) : List Beat → Clockwork → Prop
  | begin : Chronicle site w₀ [] w₀
  | wait {bs w} (h : Chronicle site w₀ bs w) (ms : Nat) :
    Chronicle site w₀ bs { w with now := w.now + ms }
  | post {bs w} (h : Chronicle site w₀ bs w) (e : Event) (he : e.slot? = none) :
    Chronicle site w₀ bs { w with queue := w.queue ++ [e] }
  | ring {bs w} (h : Chronicle site w₀ bs w) {a : Alarm AlarmSlot Event}
    (ha : a ∈ w.conn.alarms.armed) (hd : a.due ≤ w.now) :
    Chronicle site w₀ bs { w with
      conn := { w.conn with alarms := w.conn.alarms.cancel a.slot }
      queue := w.queue ++ [a.event] }
  | own {bs w} (h : Chronicle site w₀ bs w) {b : Beat} (hc : b.conn = w.conn)
    (hn : b.moment.now = w.now) (ht : b.conn.Takes b.input)
    (hi : b.conn.internal = [] → ∀ e, b.input ≠ .event e) :
    Chronicle site w₀ (bs ++ [b]) { w with conn := (b.turn site).conn }
  | take {bs w} (h : Chronicle site w₀ bs w) {b : Beat} {e : Event} {rest : List Event}
    (hc : b.conn = w.conn) (hn : b.moment.now = w.now) (hi : b.conn.internal = [])
    (hq : w.queue = e :: rest) (hb : b.input = .event e) (ht : b.conn.Accepts b.input) :
    Chronicle site w₀ (bs ++ [b]) { w with conn := (b.turn site).conn, queue := rest }

variable {site : Site} {w w₀ : Clockwork} {bs : List Beat}

lemma Chronicle.reached (h : Chronicle site w₀ bs w) : Reached site w₀ w := by
  induction h with
  | begin => exact .begin
  | wait _ ms ih => exact ih.step (.wait ms)
  | post _ e he ih => exact ih.step (.post e he)
  | ring _ ha hd ih => exact ih.step (.ring ha hd)
  | own _ hc hn ht hi ih => exact ih.step (.own hc hn ht hi)
  | take _ hc hn hi hq hb ht ih => exact ih.step (.take hc hn hi hq hb ht)

lemma Reached.chronicle (h : Reached site w₀ w) : ∃ bs, Chronicle site w₀ bs w := by
  induction h with
  | begin => exact ⟨[], .begin⟩
  | step _ hs ih =>
    obtain ⟨bs, hb⟩ := ih
    cases hs with
    | wait ms => exact ⟨bs, hb.wait ms⟩
    | post e he => exact ⟨bs, hb.post e he⟩
    | ring ha hd => exact ⟨bs, hb.ring ha hd⟩
    | own hc hn ht hi => exact ⟨_, hb.own hc hn ht hi⟩
    | take hc hn hi hq hb' ht => exact ⟨_, hb.take hc hn hi hq hb' ht⟩

/-- **What is reached is what there is a chronicle of.** -/
theorem reached_iff : Reached site w₀ w ↔ ∃ bs, Chronicle site w₀ bs w :=
  ⟨Reached.chronicle, fun ⟨_, h⟩ => h.reached⟩

lemma Chronicle.before {as ds : List Beat} {b : Beat} (h : Chronicle site w₀ (as ++ b :: ds) w) :
    ∃ v, Chronicle site w₀ as v ∧ b.conn = v.conn ∧ b.moment.now = v.now ∧
      b.conn.Takes b.input ∧ ((b.conn.internal = [] → ∀ e, b.input ≠ .event e) ∨
        ∃ e rest, v.queue = e :: rest ∧ b.input = .event e) := by
  generalize hl : as ++ b :: ds = bs at h
  induction h generalizing ds with
  | begin => simp at hl
  | wait _ _ ih | post _ _ _ ih | ring _ _ _ ih => exact ih hl
  | own h hc hn ht hi ih =>
    rcases split_concat hl.symm with ⟨rfl, rfl, rfl⟩ | ⟨es, rfl, rfl⟩
    · exact ⟨_, h, hc, hn, ht, .inl hi⟩
    · exact ih rfl
  | take h hc hn hi hq hb ht ih =>
    rcases split_concat hl.symm with ⟨rfl, rfl, rfl⟩ | ⟨es, rfl, rfl⟩
    · refine ⟨_, h, hc, hn, ?_, .inr ⟨_, _, hq, hb⟩⟩
      rw [hb] at ht ⊢
      exact .queued ht hi
    · exact ih rfl

/-! ### Telling it what to do -/

inductive Act where
  | wait (ms : Nat)
  | post (e : Event)
  /-- The alarm rings that is the first to be due. -/
  | ring
  /-- The connection takes the first of its own events. -/
  | own
  | written (result : Option Failure)
  /-- The connection takes the first event of the queue. -/
  | take

/-- The turn on an input, now. -/
def beat (w : Clockwork) (i : Input) : Beat := ⟨w.conn, ⟨w.now, 0, {}⟩, i⟩

/-- The turns of what is done, and what comes of it. -/
def act (site : Site) (w : Clockwork) : Act → List Beat × Clockwork
  | .wait ms => ([], { w with now := w.now + ms })
  | .post e => ([], { w with queue := w.queue ++ [e] })
  | .ring => ([], w.ring)
  | .own => match w.conn.internal with
    | [] => ([], w)
    | e :: _ => ([w.beat (.event e)], { w with conn := ((w.beat (.event e)).turn site).conn })
  | .written r =>
    ([w.beat (.written r)], { w with conn := ((w.beat (.written r)).turn site).conn })
  | .take => match w.queue with
    | [] => ([], w)
    | e :: rest =>
      ([w.beat (.event e)], { w with conn := ((w.beat (.event e)).turn site).conn, queue := rest })

def mayAct (w : Clockwork) : Act → Bool
  | .wait _ | .ring => true
  | .post e => e.slot?.isNone
  | .own => w.conn.phase ≠ .shutdown && w.conn.writing.isNone
  | .written _ => w.conn.writing.isSome
  | .take => w.conn.phase ≠ .shutdown && w.conn.writing.isNone && w.conn.internal.isEmpty

def acts (site : Site) (w : Clockwork) : List Act → List Beat × Clockwork
  | [] => ([], w)
  | a :: as =>
    let (bs, w) := w.act site a
    let (cs, w) := w.acts site as
    (bs ++ cs, w)

def mayActs (site : Site) (w : Clockwork) : List Act → Bool
  | [] => true
  | a :: as => w.mayAct a && (w.act site a).2.mayActs site as

namespace Chronicle

lemma takeFirst (h : Chronicle site w₀ bs w) (ha : w.mayAct .take) {e : Event}
    {rest : List Event} (hq : w.queue = e :: rest) :
    Chronicle site w₀ (bs ++ [w.beat (.event e)])
      ⟨((w.beat (.event e)).turn site).conn, w.now, rest⟩ := by
  simp only [mayAct, Bool.and_eq_true, decide_eq_true_eq, Option.isNone_iff_eq_none,
    List.isEmpty_iff] at ha
  exact h.take (b := w.beat (.event e)) rfl rfl ha.2 hq rfl ha.1

lemma act (h : Chronicle site w₀ bs w) {a : Act} (ha : w.mayAct a) :
    Chronicle site w₀ (bs ++ (w.act site a).1) (w.act site a).2 := by
  cases a with
  | wait ms => simpa [Clockwork.act] using h.wait ms
  | post e => simpa [Clockwork.act] using h.post e (Option.isNone_iff_eq_none.mp ha)
  | ring =>
    simp only [Clockwork.act, Clockwork.ring, List.append_nil]
    split
    · -- no alarm is armed, and nothing rings
      exact h
    · rename_i a alarms hr
      obtain ⟨hm, hd, rfl⟩ := Alarms.ring?_eq_some hr
      exact h.ring hm hd
  | own =>
    -- the connection's own event comes before whatever is queued
    simp only [mayAct, Bool.and_eq_true, decide_eq_true_eq, Option.isNone_iff_eq_none] at ha
    simp only [Clockwork.act]
    split
    · simpa using h
    · rename_i e rest hi
      exact h.own (b := w.beat (.event e)) rfl rfl (.internal ha hi) fun hn =>
        absurd (hi.symm.trans hn) (by simp)
  | written r =>
    exact h.own (b := w.beat (.written r)) rfl rfl (.written (Option.some_get ha).symm r)
      fun _ _ => by simp [beat]
  | take =>
    simp only [Clockwork.act]
    -- the inbox is empty
    split
    · simpa using h
    · exact h.takeFirst ha ‹_›

/-- A chronicle goes on as it is told. -/
lemma acts {as : List Act} (h : Chronicle site w₀ bs w) (ha : w.mayActs site as) :
    Chronicle site w₀ (bs ++ (w.acts site as).1) (w.acts site as).2 := by
  induction as generalizing bs w with
  | nil => simpa [Clockwork.acts] using h
  | cons a as ih =>
    simp only [mayActs, Bool.and_eq_true] at ha
    simpa [Clockwork.acts] using ih (h.act ha.1) ha.2

lemma told {as : List Act} (ha : w₀.mayActs site as) :
    Chronicle site w₀ (w₀.acts site as).1 (w₀.acts site as).2 := by
  have h : Chronicle site w₀ ([] ++ (w₀.acts site as).1) (w₀.acts site as).2 :=
    Chronicle.begin.acts ha
  rwa [List.nil_append] at h

end Chronicle

end Clockwork

end Diameter
