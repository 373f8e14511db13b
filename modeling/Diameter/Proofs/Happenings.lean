import Diameter.Proofs.Speech

/-!
What befalls a connection, told without the connection.

The turns of a run hold the connection before each of them, so they are turns of that connection
alone. A happening is only what befalls one: alarms ring, or an input is taken at a moment. The same
happenings can befall two connections, and different ones the same. Main statement:
`Connection.run_iff`.
-/

namespace Diameter

inductive Happening where
  /-- Alarms that are due have rung. -/
  | ring (time : Nat)
  | turn (moment : Moment) (input : Input)

namespace Connection

/-- The connection after a happening. -/
def after (site : Site) (c : Connection) : Happening → Connection
  | .ring time => { c with alarms := (c.alarms.ringAll time).2 }
  | .turn moment input => (Beat.turn site ⟨c, moment, input⟩).conn

def afterAll (site : Site) (c : Connection) (hs : List Happening) : Connection :=
  hs.foldl (after site) c

/-- The turn that a happening is, if it is one. -/
def beat? (c : Connection) : Happening → Option Beat
  | .ring _ => none
  | .turn moment input => some ⟨c, moment, input⟩

/-- The turns among the happenings. -/
def beats (site : Site) (c : Connection) : List Happening → List Beat
  | [] => []
  | h :: hs => (c.beat? h).toList ++ (c.after site h).beats site hs

/-- A connection takes an input that befalls it. -/
def Admits (c : Connection) : Happening → Prop
  | .ring _ => True
  | .turn _ input => c.Takes input

/-- One after the other may befall the connection. -/
def AdmitsAll (site : Site) (c : Connection) : List Happening → Prop
  | [] => True
  | h :: hs => c.Admits h ∧ (c.after site h).AdmitsAll site hs

/-- What the connection does in the course of the happenings: the effects of its turns, and the
messages that it has written. -/
def output (site : Site) (c : Connection) (hs : List Happening) : List Effect × List Writing :=
  (Beat.effectsOf site (c.beats site hs), (c.beats site hs).filterMap Beat.wrote)

variable {site : Site} {c c₀ : Connection} {xs ys hs : List Happening} {h : Happening}
  {bs : List Beat}

/-! ### One list after the other -/

lemma afterAll_append : c.afterAll site (xs ++ ys) = (c.afterAll site xs).afterAll site ys :=
  List.foldl_append

lemma afterAll_concat : c.afterAll site (xs ++ [h]) = (c.afterAll site xs).after site h :=
  afterAll_append

lemma beats_append :
    c.beats site (xs ++ ys) = c.beats site xs ++ (c.afterAll site xs).beats site ys := by
  induction xs generalizing c with
  | nil => rfl
  | cons h xs ih =>
    simp only [List.cons_append, beats, ih, List.append_assoc]
    rfl

lemma beats_concat :
    c.beats site (xs ++ [h]) = c.beats site xs ++ ((c.afterAll site xs).beat? h).toList := by
  rw [beats_append]
  simp [beats]

lemma admitsAll_append :
    c.AdmitsAll site (xs ++ ys) ↔ c.AdmitsAll site xs ∧ (c.afterAll site xs).AdmitsAll site ys := by
  induction xs generalizing c with
  | nil => simp [AdmitsAll, afterAll]
  | cons h xs ih =>
    simp only [List.cons_append, AdmitsAll, ih, and_assoc]
    rfl

lemma admitsAll_concat :
    c.AdmitsAll site (xs ++ [h]) ↔ c.AdmitsAll site xs ∧ (c.afterAll site xs).Admits h := by
  simp [admitsAll_append, AdmitsAll]

lemma output_append : c.output site (xs ++ ys) =
    ((c.output site xs).1 ++ ((c.afterAll site xs).output site ys).1,
      (c.output site xs).2 ++ ((c.afterAll site xs).output site ys).2) := by
  simp only [output, beats_append, Beat.effectsOf_append, List.filterMap_append]

/-! ### Happenings and runs -/

lemma Run.befalls (hr : Run site c₀ bs c) (ha : c.AdmitsAll site hs) :
    Run site c₀ (bs ++ c.beats site hs) (c.afterAll site hs) := by
  induction hs generalizing bs c with
  | nil => simpa [beats, afterAll] using hr
  | cons h hs ih =>
    have hn : Run site c₀ (bs ++ (c.beat? h).toList) (c.after site h) := by
      cases h with
      | ring time => exact (List.append_nil bs).symm ▸ hr.ring time
      | turn moment input => exact .turn (b := ⟨c, moment, input⟩) hr ha.1
    have hl := ih hn ha.2
    rwa [List.append_assoc] at hl

/-- **A run is what befalls a connection, with the turns that come of it.** -/
theorem run_iff : Run site c₀ bs c ↔
    ∃ hs, c₀.AdmitsAll site hs ∧ c₀.beats site hs = bs ∧ c₀.afterAll site hs = c := by
  constructor
  · intro h
    induction h with
    | nil => exact ⟨[], trivial, rfl, rfl⟩
    | ring _ time ih =>
      obtain ⟨hs, ha, rfl, rfl⟩ := ih
      exact ⟨hs ++ [.ring time], admitsAll_concat.mpr ⟨ha, by simp [Admits]⟩,
        by simp [beats_concat, beat?], afterAll_concat⟩
    | @turn _ b _ ht ih =>
      -- one more turn is one more happening, and the beat is the same
      obtain ⟨hs, ha, rfl, hb⟩ := ih
      refine ⟨hs ++ [.turn b.moment b.input], admitsAll_concat.mpr ⟨ha, ?_⟩, ?_, ?_⟩
      · rw [hb]
        exact ht
      · rw [beats_concat, hb]
        rfl
      · rw [afterAll_concat, hb]
        rfl
  · rintro ⟨hs, ha, rfl, rfl⟩
    simpa using Run.befalls .nil ha

/-! ### Playing a run through -/

/-- What befalls a connection that is given inputs, one after the other. -/
def inputs (is : List Input) : List Happening := is.map (.turn ⟨0, 0, {}⟩)

lemma admitsAll_of_plays (is : List Input) (h : c.plays site is) :
    c.AdmitsAll site (inputs is) := by
  induction is generalizing c with
  | nil => trivial
  | cons i is ih =>
    simp only [plays, Bool.and_eq_true] at h
    exact ⟨takes_of_mayTake h.1, ih h.2⟩

end Connection

end Diameter
