import Diameter.Proofs.Abreast
import Diameter.Proofs.Awaiting
import Diameter.Proofs.Blind

/-!
After the CER: a connection that was begun with it, and one that has waited for it.

Either the answer to the CER is on its way, and then its end is all that can befall the two and they
take it alike, or the connection is bound, and does not ask any more whom it expected, or it is shut
down (`Connection.Welcome`). Main statement: `Connection.Welcomed.follows`.
-/

namespace Diameter

namespace Stage

lemma phase_running (closing : Bool) (side : Side) (link : Link) (peer : PeerIdentity)
    (w : Option Writing) : (running closing side link peer w).phase.isRunning := by
  cases closing <;> cases side <;> rfl

end Stage

variable {site : Site} {name : Option String} {n n' : Nat} {s s' : Stage} {i : Input}
  {out : List Effect} {c : Connection} {bs : List Beat} {stream : Nat} {cer : Message}
  {m : Moment} {hs : List Happening}

lemma Next.phase_ne_closed (h : Next site name n s i out n' s') (hs : s.phase ≠ .closed) :
    s'.phase ≠ .closed := by
  cases h with
  | stay | refuse => exact hs
  | confirm | prevail | accepted | write | written | part =>
    exact Phase.ne_of_isRunning (Stage.phase_running _ _ _ _ _) rfl
  | acceptFirst | rejectFirst => exact absurd rfl hs
  | turnAway | turnAwayUnanswered | turnedAway =>
    rename Option Link => i
    cases i <;> simp [Stage.alone, Stage.phase]
  | introduce =>
    rename Option Rival => rival
    cases rival <;> simp [Stage.phase]
  | _ => simp [Stage.phase]

lemma Next.greets (h : Next site name n (.closed (.acceptedCer stream cer)) i out n' s') :
    s' = .closed (.acceptedCer stream cer) ∨ s'.IsGreeted .closed := by
  generalize hs : Stage.closed (.acceptedCer stream cer) = s at h
  cases h with
  | turnAway | turnAwayUnanswered =>
    rename Option Link => i
    cases i <;> cases hs
  | stay | refuse => exact .inl rfl
  | acceptFirst | rejectFirst => exact .inr rfl
  | fall => exact .inr trivial
  | _ => cases hs

namespace Connection

/-- The connection has been welcomed with its CER. -/
def Welcomed (name : Option String) (c : Connection) : Prop :=
  ∃ n s, Stage.Sound s ∧ s.IsGreeted .closed ∧ c.shape = s.shape name n

/-- Either the answer to the CER is on its way, or the connection is bound and runs, or it is shut
down. -/
inductive Welcome (name : Option String) (c : Connection) : Prop
  | answering {w : Writing} (hp : c.phase = .closed) (he : c.expectedHost = name)
    (hw : c.writing = some w) (hg : (∃ peer, w.goal = .accept peer) ∨ ∃ f, w.goal = .reject f)
  | bound (hi : c.identity.isSome) (hp : c.phase.isRunning)
  | shut (hp : c.phase = .shutdown) (hw : c.writing = none)

lemma Welcomed.cases (h : c.Welcomed name) : c.Welcome name := by
  obtain ⟨n, s, -, hs, hc⟩ := h
  have hp : c.phase = s.phase := Stage.phase_of_shape hc
  have he : c.expectedHost = name :=
    (congrArg Shape.expectedHost hc).trans (Stage.expectedHost_shape name n s)
  have hw : c.writing = (s.shape name n).writing := congrArg Shape.writing hc
  have hi : c.identity = s.peer? :=
    (congrArg Shape.identity hc).trans (Stage.identity_shape name n s)
  cases s with
  | accepting source x d =>
    obtain rfl : source = .closed := hs
    exact .answering hp he hw (.inl ⟨_, rfl⟩)
  | rejecting source r cea f d =>
    obtain rfl : source = .closed := hs
    exact .answering hp he hw (.inr ⟨_, rfl⟩)
  | running closing side link peer w =>
    exact .bound (by rw [hi]; rfl) (hp ▸ Stage.phase_running _ _ _ _ _)
  | shut peer cached => exact .shut hp hw
  | _ => exact hs.elim

lemma Takes.congr {d : Connection} (h : c.Takes i)
    (hp : d.phase = .shutdown ↔ c.phase = .shutdown) (hw : d.writing = c.writing)
    (hi : d.internal = c.internal) : d.Takes i := by
  cases h with
  | written h r => exact .written (hw.trans h) r
  | internal ha h => exact .internal ⟨mt hp.mp ha.1, hw.trans ha.2⟩ (hi.trans h)
  | queued ha h => exact .queued ⟨mt hp.mp ha.1, hw.trans ha.2⟩ (hi.trans h)

lemma takes_waited : c.waited.Takes i ↔ c.Takes i := by
  have hp : c.waited.phase = .shutdown ↔ c.phase = .shutdown :=
    phase_waited_eq_iff (by decide) (by decide)
  exact ⟨fun h => h.congr hp.symm rfl rfl, fun h => h.congr hp rfl rfl⟩

lemma waited_eq_blind (h : c.phase ≠ .closed) : c.waited = c.blind := by
  rw [waited, if_neg h]
  rfl

end Connection

/-- A turn of a connection that was handed its CER, and the turn of one that has waited for it. -/
structure Beat.Matches (site : Site) (name : Option String) (x y : Beat) : Prop where
  moment : y.moment = x.moment
  input : y.input = x.input
  conn : y.conn = x.conn.waited
  wrote : y.wrote = x.wrote
  ids : (y.turn site).ids = (x.turn site).ids
  effects : List.Forall₂ (Effect.Resembles name) (x.turn site).effects (y.turn site).effects
  /-- Once the CER is answered the connections do the same. -/
  answered : x.conn.phase ≠ .closed → (y.turn site).effects = (x.turn site).effects

lemma Beat.filterMap_wrote {xs ys : List Beat}
    (h : List.Forall₂ (Beat.Matches site name) xs ys) :
    ys.filterMap Beat.wrote = xs.filterMap Beat.wrote := by
  induction h with
  | nil => rfl
  | cons hb _ ih => rw [List.filterMap_cons, List.filterMap_cons, hb.wrote, ih]

namespace Connection

variable (site)

lemma turn_blind (hi : c.identity.isSome) (hp : c.phase.isRunning) (ht : c.Takes i) (m : Moment) :
    Beat.turn site ⟨c.blind, m, i⟩ = (Beat.turn site ⟨c, m, i⟩).blind := by
  cases i with
  | event e =>
    rw [Beat.turn_event rfl, Beat.turn_event rfl]
    have hb : (Beat.begun ⟨c, m, .event e⟩).IsBound := hi
    exact (Turn.blind_handle site hb hp e).symm
  | written r =>
    cases ht with
    | @written w hw _ =>
      rw [Beat.turn_written (w := w) rfl hw, Beat.turn_written rfl hw]
      let t : Turn := { Beat.begun ⟨c, m, .written r⟩ with conn.writing := none }
      have hb : t.IsBound := hi
      exact (Turn.blind_settle site hb w.goal w.message r).symm

lemma turn_answering {w : Writing} (he : c.expectedHost = name) (hw : c.writing = some w)
    (hg : (∃ peer, w.goal = .accept peer) ∨ ∃ f, w.goal = .reject f) (m : Moment)
    (r : Option Failure) :
    Turn.Abreast name [] [] (Beat.turn site ⟨c, m, .written r⟩)
      (Beat.turn site ⟨c.waited, m, .written r⟩) := by
  rw [Beat.turn_written rfl hw, Beat.turn_written (w := w) rfl hw]
  have ha : Turn.Abreast name [] [] { Beat.begun ⟨c, m, .written r⟩ with conn.writing := none }
      { Beat.begun ⟨c.waited, m, .written r⟩ with conn.writing := none } :=
    ⟨rfl, rfl, rfl, rfl, he, [], [], rfl, rfl, .nil⟩
  exact ha.settle hg w.message r

/-- A turn after the welcome. -/
lemma Welcomed.turn (h : c.Welcomed name) (ht : c.Takes i) (m : Moment) :
    (Beat.turn site ⟨c, m, i⟩).conn.Welcomed name ∧
      (Beat.turn site ⟨c.waited, m, i⟩).conn = (Beat.turn site ⟨c, m, i⟩).conn.waited ∧
      Beat.Matches site name ⟨c, m, i⟩ ⟨c.waited, m, i⟩ := by
  have hwr : Beat.wrote ⟨c.waited, m, i⟩ = Beat.wrote ⟨c, m, i⟩ := by
    rcases i with e | (_ | _) <;> rfl
  have hw := h.cases
  obtain ⟨n, s, hs, hwel, hc⟩ := h
  obtain ⟨out, n', s', hn, hc', -⟩ := ht.follows hc hs m.now m.serial m.ids
  replace hc' : (Beat.turn site ⟨c, m, i⟩).conn.shape = s'.shape name n' := hc'
  refine ⟨⟨n', s', hn.sound hs, hn.greeted hwel, hc'⟩, ?_⟩
  cases hw with
  | @answering w hp he hw hg =>
    cases ht with
    | internal ha | queued ha => exact absurd (hw.symm.trans ha.2) (by simp)
    | written hw' r =>
      have ha := turn_answering site he hw hg m r
      obtain ⟨es, ds, hes, hds, hr⟩ := ha.effects
      obtain rfl : _ = es := hes
      obtain rfl : _ = ds := hds
      exact ⟨ha.conn, rfl, rfl, rfl, hwr, ha.ids, hr, fun hne => absurd hp hne⟩
  | bound hi hp =>
    have hb := turn_blind site hi hp ht m
    have hne : c.phase ≠ .closed := Phase.ne_of_isRunning hp rfl
    have hne' : (Beat.turn site ⟨c, m, i⟩).conn.phase ≠ .closed := by
      rw [Stage.phase_of_shape hc']
      exact hn.phase_ne_closed (Stage.phase_of_shape hc ▸ hne)
    have heff : (Beat.turn site ⟨c.blind, m, i⟩).effects = (Beat.turn site ⟨c, m, i⟩).effects := by
      rw [hb]
      rfl
    have hids : (Beat.turn site ⟨c.blind, m, i⟩).ids = (Beat.turn site ⟨c, m, i⟩).ids := by
      rw [hb]
      rfl
    rw [waited_eq_blind hne] at hwr ⊢
    refine ⟨(congrArg Turn.conn hb).trans (waited_eq_blind hne').symm, rfl, rfl,
      (waited_eq_blind hne).symm, hwr, hids, ?_, fun _ => heff⟩
    rw [heff]
    exact List.forall₂_same.mpr fun e _ => .same e
  | shut hp hw =>
    cases ht with
    | internal ha | queued ha => exact absurd hp ha.1
    | written hw' => exact absurd (hw.symm.trans hw') (by simp)

/-- **In lockstep.** Whatever befalls a connection after its welcome may as well befall the one that
has waited for its CER, and then the two take the same turns. -/
theorem Welcomed.follows (h : c.Welcomed name) (hs : List Happening) :
    (c.waited.AdmitsAll site hs ↔ c.AdmitsAll site hs) ∧ (c.AdmitsAll site hs →
      List.Forall₂ (Beat.Matches site name) (c.beats site hs) (c.waited.beats site hs) ∧
        c.waited.afterAll site hs = (c.afterAll site hs).waited) := by
  induction hs generalizing c with
  | nil => exact ⟨.rfl, fun _ => ⟨.nil, rfl⟩⟩
  | cons x hs ih =>
    cases x with
    | ring time =>
      have hr : (c.after site (.ring time)).Welcomed name := h
      obtain ⟨ha, hf⟩ := ih hr
      exact ⟨and_congr .rfl ha, fun hx => hf hx.2⟩
    | turn m i =>
      by_cases ht : c.Takes i
      · obtain ⟨hw, hc, hb⟩ := h.turn site ht m
        obtain ⟨ha, hf⟩ := ih hw
        rw [← hc] at ha hf
        refine ⟨and_congr takes_waited ha, fun hx => ?_⟩
        obtain ⟨hbs, hl⟩ := hf hx.2
        exact ⟨.cons hb hbs, hl⟩
      · exact ⟨iff_of_false (fun hx => ht (takes_waited.mp hx.1)) fun hx => ht hx.1,
          fun hx => absurd hx.1 ht⟩

end Connection

end Diameter
