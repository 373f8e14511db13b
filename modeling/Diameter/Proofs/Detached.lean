import Diameter.Proofs.Numbering

/-!
What still comes of a stream that a connection has let go of.

After an election the stream that lost is closed, but its messages, its errors and its end may still
wait in the queue, among those of the other stream. They name their stream by its number, and that
is the number of no other (`Diameter.Proofs.Numbering`), so they find nothing to act on. Two runs
that differ only in such events are one and the same in all that the connection does. Main
statement: `Connection.deaf_to_detached`.
-/

namespace Diameter

/-- The number of the stream that an event is about: something has come on it, or a request that
came on it has been handled. -/
def Event.link? : Event → Option Nat
  | received l _ | receivedInvalid l _ _ | disconnected l _ | handled l _ => some l
  | _ => none

/-- **What is about a stream that is not attached has no effect.** -/
theorem Turn.handle_of_detached (site : Site) {t : Turn} {e : Event} {l : Nat}
    (he : e.link? = some l) (hl : t.conn.sideOf? l = none) : t.handle site e = t := by
  cases e with
  | received | receivedInvalid | disconnected =>
    obtain rfl := Option.some.inj he
    simp only [handle, hl]
  | handled k answer =>
    obtain rfl : k = l := Option.some.inj he
    simp only [handle, onHandled]
    split
    · rename_i side link hs ha
      have hk : t.conn.link? side = some link := by
        simpa only [Connection.activeLink?, hs, Option.bind_some] using ha
      rw [if_neg (Connection.sideOf?_eq_none.mp hl side link hk)]
    · rfl
  | _ => cases he

/-- After these happenings an event is still to come of a stream that has been attached and detached
in their course. -/
def IsStray (site : Site) (c₀ : Connection) (hs : List Happening) (e : Event) : Prop :=
  ∃ us vs l, hs = us ++ vs ∧ e.link? = some l ∧
    l ∈ (listened site (c₀.beats site us)).map (·.id) ∧ (c₀.afterAll site us).sideOf? l = none

/-- Two lists of happenings differ only in that events of detached streams are strewn among them. -/
inductive Strewn (site : Site) (c₀ : Connection) : List Happening → List Happening → Prop
  | nil : Strewn site c₀ [] []
  | both {xs ys} (h : Strewn site c₀ xs ys) (x : Happening) : Strewn site c₀ (xs ++ [x]) (ys ++ [x])
  | left {xs ys} (h : Strewn site c₀ xs ys) {e : Event} (he : IsStray site c₀ xs e)
    (m : Moment) : Strewn site c₀ (xs ++ [.turn m (.event e)]) ys
  | right {xs ys} (h : Strewn site c₀ xs ys) {e : Event} (he : IsStray site c₀ ys e)
    (m : Moment) : Strewn site c₀ xs (ys ++ [.turn m (.event e)])

variable {site : Site} {expected : Option String} {first : Event} {hs xs ys : List Happening}
  {c₀ : Connection} {e : Event} {m : Moment} {x : Happening}

namespace Connection

lemma AdmitsAll.hasLost (ha : (fresh expected first).AdmitsAll site hs) (hf : first.IsOpening)
    (he : IsStray site (fresh expected first) hs e) :
    ∃ l, e.link? = some l ∧ ((fresh expected first).afterAll site hs).HasLost l := by
  obtain ⟨us, vs, l, rfl, he, hl, hn⟩ := he
  refine ⟨l, he, ?_⟩
  obtain ⟨hu, hv⟩ := admitsAll_append.mp ha
  have hr : Run site (fresh expected first) ((fresh expected first).beats site us)
      ((fresh expected first).afterAll site us) := run_iff.mpr ⟨us, hu, rfl, rfl⟩
  rw [hr.numbered, List.mem_range'_1] at hl
  have hlost : ((fresh expected first).afterAll site us).HasLost l := ⟨by omega, hn⟩
  clear hn hl hu ha
  -- what has been lost stays lost with whatever comes after
  rw [afterAll_append]
  generalize (fresh expected first).beats site us = bs at hr
  generalize (fresh expected first).afterAll site us = c at hr hv hlost ⊢
  induction vs generalizing bs c with
  | nil => exact hlost
  | cons v vs ih =>
    cases v with
    | ring time => exact ih _ _ (hr.ring time) hv.2 ⟨hlost.given, hlost.detached⟩
    | turn moment input =>
      exact ih _ _ (.turn (b := ⟨c, moment, input⟩) hr hv.1) hv.2
        (Run.hasLost (b := ⟨c, moment, input⟩) hr hf hv.1 hlost)

lemma Run.internal_of_link? {bs : List Beat} {c : Connection} {l : Nat}
    (h : Run site (fresh expected first) bs c) (hf : first.IsOpening)
    (ht : c.Takes (.event e)) (he : e.link? = some l) : c.internal = [] := by
  cases ht with
  | queued _ hi => exact hi
  | @internal _ rest _ hi =>
    obtain ⟨n, s, hs, hc⟩ := h.course hf
    have hm : e ∈ (s.shape expected n).internal := by
      rw [← hc, show c.shape.internal = _ from hi]
      exact List.mem_cons_self
    rcases Stage.mem_internal hm with rfl | ⟨_, _, -, rfl⟩
    · have ho : e.IsOpening := hs.sound hf
      cases e <;> first | exact ho.elim | cases he
    · cases he

lemma AdmitsAll.unmoved
    (ha : (fresh expected first).AdmitsAll site (hs ++ [.turn m (.event e)]))
    (hf : first.IsOpening) (he : IsStray site (fresh expected first) hs e) :
    (fresh expected first).afterAll site (hs ++ [.turn m (.event e)]) =
        (fresh expected first).afterAll site hs ∧
      (fresh expected first).output site (hs ++ [.turn m (.event e)]) =
        (fresh expected first).output site hs := by
  obtain ⟨ha, ht⟩ := admitsAll_concat.mp ha
  obtain ⟨l, hl, hlost⟩ := ha.hasLost hf he
  rw [afterAll_concat, output_append]
  have hr : Run site (fresh expected first) ((fresh expected first).beats site hs)
      ((fresh expected first).afterAll site hs) := run_iff.mpr ⟨hs, ha, rfl, rfl⟩
  generalize (fresh expected first).afterAll site hs = c at hr ht hlost ⊢
  have hi : c.internal = [] := hr.internal_of_link? hf ht hl
  have hw : c.without (.event e) = c := by
    show { c with internal := c.internal.tail } = c
    rw [hi, List.tail_nil, ← hi]
  have hb : (⟨c, m, .event e⟩ : Beat).turn site = ⟨m.now, m.serial, m.ids, c, []⟩ := by
    rw [Beat.turn]
    simp only [hw]
    exact Turn.handle_of_detached site hl hlost.detached
  refine ⟨congrArg Turn.conn hb, ?_⟩
  have ho : c.output site [.turn m (.event e)] = ([], []) := by
    simp only [output, beats, beat?, Option.toList_some, List.append_nil]
    rw [Beat.effectsOf_singleton, hb]
    rfl
  simp [ho]

end Connection

namespace Strewn

lemma append (h : Strewn site c₀ xs ys) (hs : List Happening) :
    Strewn site c₀ (xs ++ hs) (ys ++ hs) := by
  induction hs generalizing xs ys with
  | nil => simpa using h
  | cons x hs ih => simpa using ih (h.both x)

lemma refl (hs : List Happening) : Strewn site c₀ hs hs := nil.append hs

/-- What is strewn among the happenings makes no difference. -/
lemma agree (h : Strewn site (Connection.fresh expected first) xs ys)
    (hf : first.IsOpening) (hx : (Connection.fresh expected first).AdmitsAll site xs)
    (hy : (Connection.fresh expected first).AdmitsAll site ys) :
    (Connection.fresh expected first).afterAll site xs =
        (Connection.fresh expected first).afterAll site ys ∧
      (Connection.fresh expected first).output site xs =
        (Connection.fresh expected first).output site ys := by
  induction h with
  | nil => exact ⟨rfl, rfl⟩
  | both _ x ih =>
    obtain ⟨hc, ho⟩ := ih (Connection.admitsAll_append.mp hx).1 (Connection.admitsAll_append.mp hy).1
    rw [Connection.afterAll_append, Connection.afterAll_append, Connection.output_append,
      Connection.output_append, hc, ho]
    exact ⟨rfl, rfl⟩
  | left _ he m ih =>
    obtain ⟨hc, ho⟩ := hx.unmoved hf he
    rw [hc, ho]
    exact ih (Connection.admitsAll_append.mp hx).1 hy
  | right _ he m ih =>
    obtain ⟨hc, ho⟩ := hy.unmoved hf he
    rw [hc, ho]
    exact ih hx (Connection.admitsAll_append.mp hy).1

end Strewn

/-- What comes of the streams that a connection has detached in the course of the happenings. -/
structure Deaf (site : Site) (c₀ : Connection) (xs : List Happening) : Prop where
  /-- No two streams have got the same number. -/
  numbered : ((listened site (c₀.beats site xs)).map (·.id)).Nodup
  /-- What is attached now is one of them. -/
  attached : ∀ side link, (c₀.afterAll site xs).link? side = some link →
    link ∈ listened site (c₀.beats site xs)
  /-- Whatever is about a stream that is not attached leaves the connection as it is, and nothing
  is written, closed, told or handed over. -/
  ignores : ∀ e l, e.link? = some l → (c₀.afterAll site xs).sideOf? l = none → ∀ m : Moment,
    (c₀.afterAll site xs).step site m.now m.serial m.ids (.event e) =
      ⟨m.now, m.serial, m.ids, c₀.afterAll site xs, []⟩
  /-- So it does not matter when how much comes of streams that were detached before. -/
  agrees : ∀ ys, c₀.AdmitsAll site ys → Strewn site c₀ xs ys →
    c₀.afterAll site xs = c₀.afterAll site ys ∧ c₀.output site xs = c₀.output site ys

namespace Connection

/-- **Events of detached streams have no effect**, whatever befalls a connection. The streams of a
run get different numbers. A message, an error, an end or an answer that names none of the attached
ones leaves the whole connection unchanged, without any effect. Hence two runs that differ only in
what came of streams after they were detached leave the connection in the same state, and it has
written the same messages and done the same. -/
theorem deaf_to_detached (hf : first.IsOpening) (hx : (fresh expected first).AdmitsAll site xs) :
    Deaf site (fresh expected first) xs where
  numbered := by
    have hr : Run site (fresh expected first) _ _ := run_iff.mpr ⟨xs, hx, rfl, rfl⟩
    rw [hr.numbered]
    exact List.nodup_range'
  attached side link hl := by
    have hr : Run site (fresh expected first) _ _ := run_iff.mpr ⟨xs, hx, rfl, rfl⟩
    exact hr.mem_listened hf hl
  ignores e l he hl m := Turn.handle_of_detached site he hl
  agrees ys hy hs := hs.agree hf hx hy

/-- Once this end has lost the election, it does not matter that the peer closes the stream it had
dialed. -/
theorem deaf_to_loser :
    let site : Site := ⟨Node.plain "a", {}⟩
    let cer := ((Node.plain "b").cer {}).1
    let cea := (Node.plain "b").cea ((Node.plain "a").cer {}).1 .success
    let us := inputs [.event .start, .event (.dialed 0), .written none,
      .event (.acceptedCer 1 cer), .event (.received 1 cea)]
    let stray := inputs [.event (.disconnected 2 .closed)]
    let vs := inputs [.event (.stop 0 .rebooting)]
    ((fresh none .start).afterAll site us).phase = .iOpen ∧
      (fresh none .start).afterAll site (us ++ stray ++ vs) =
        (fresh none .start).afterAll site (us ++ vs) ∧
      (fresh none .start).output site (us ++ stray ++ vs) =
        (fresh none .start).output site (us ++ vs) := by
  intro site cer cea us stray vs
  have hf : Event.start.IsOpening := trivial
  have hs : (fresh none .start).Takes (.event .start) := .internal ⟨by simp [fresh], rfl⟩ rfl
  have hx : (fresh none .start).AdmitsAll site (us ++ stray ++ vs) :=
    ⟨hs, admitsAll_of_plays [_, _, _, _, _, _] (by decide +kernel)⟩
  have hy : (fresh none .start).AdmitsAll site (us ++ vs) :=
    ⟨hs, admitsAll_of_plays [_, _, _, _, _] (by decide +kernel)⟩
  have he : IsStray site (fresh none .start) us (.disconnected 2 .closed) :=
    ⟨us, [], 2, (List.append_nil us).symm, rfl, by decide +kernel, by decide +kernel⟩
  exact ⟨by decide +kernel,
    (deaf_to_detached hf hx).agrees _ hy (((Strewn.refl us).left he _).append vs)⟩

end Connection

end Diameter
