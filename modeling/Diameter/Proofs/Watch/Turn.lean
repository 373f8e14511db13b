import Diameter.Proofs.Pending
import Diameter.Proofs.Watch

/-!
No turn leaves a connection without the alarms it relies on.

Each way in which an event may come out, and each way in which a write may end, is one of the
things that may happen to a duty that is watched. Main statements: `Turn.Upshot.watched` and
`Turn.settle_watched`.
-/

namespace Diameter

lemma Connection.duty_writing {c : Connection} {w : Writing} (hc : c.probe? = none)
    (hw : ({ c with writing := some w } : Connection).probe? = none) :
    ({ c with writing := some w } : Connection).duty = c.duty := by
  have hd : ({ c with writing := some w } : Connection).duty = { c.duty with probe := none } := by
    rw [← hw]
    rfl
  have he : { c.duty with probe := none } = c.duty := by
    rw [← hc]
    rfl
  exact hd.trans he

lemma Connection.probe?_of_writing {c : Connection} (h : c.writing = none) : c.probe? = none := by
  simp [probe?, h]

namespace Turn

variable {site : Site} {A : Failure → Prop} {t u : Turn} {q : List Event} {e : Event}

lemma watched_giveUp (ht : Timed t.conn.alarms t.conn.pending t.conn.generation q) (e : Failure) :
    (t.giveUp site e).conn.duty.Watched q := by
  have hB : Bypass site (fun _ => True) t (t.giveUp site e) := Bypass.refl.giveUp trivial
  have hp : (t.giveUp site e).conn.duty.phase = .shutdown := phase_giveUp site t e
  exact Duty.Watched.rests_of_not_running ht hB.rests (by rw [hp]; rfl)

lemma watched_stir (h : t.conn.duty.Watched q) (hb : t.conn.duty.probe = none) :
    (t.stir site).conn.duty.Watched q := by
  unfold stir
  split
  · rename_i hc
    simp only [Bool.and_eq_true, Option.isNone_iff_eq_none] at hc
    exact Duty.Watched.armIdle h.timed hc.1 hb h.close _ _
  · exact h

lemma watched_openAs (ht : Timed t.conn.alarms t.conn.pending t.conn.generation q)
    (hb : t.conn.duty.probe = none) (peer : PeerIdentity) {p : Phase} (hp : p.isOpen) :
    (t.openAs site peer p).conn.duty.Watched q := by
  obtain ⟨due, serial, hd⟩ := duty_openAs site t peer hp
  have hn : p ≠ .closing := by
    rintro rfl
    exact absurd hp (by decide)
  rw [hd]
  exact Duty.Watched.armIdle
    (d := { t.conn.duty with phase := p, failures := 0, outstanding := none }) ht rfl hb
    (fun hc => absurd hc hn) due serial

lemma watched_onDwa (h : t.conn.duty.Watched q) (hb : t.conn.duty.probe = none) (m : Message) :
    (t.onDwa site m).conn.duty.Watched q := by
  unfold onDwa
  split
  · exact h
  · let v : Turn := { t with conn.outstanding := none, conn.failures := 0 }.disarm .reply
    have ht : Timed v.conn.alarms v.conn.pending v.conn.generation q :=
      h.timed.cancel (by simp)
    have hc : v.conn.phase = .closing → .closeTimeout ∈ v.conn.alarms.upcoming q := fun hc =>
      Alarms.mem_upcoming_cancel h.timed.sorted (h.close hc) (by simp [Event.slot?])
    show (if v.conn.phase.isOpen then v.armIdle site else v).conn.duty.Watched q
    split
    · exact Duty.Watched.armIdle (d := v.conn.duty) ht rfl hb hc _ _
    · rename_i hp
      exact ⟨ht, fun ho => absurd ho hp, fun ho => absurd ho hp, fun ho => absurd ho hp, hc⟩

lemma watched_onWatchdogReply (h : t.conn.duty.Watched q) (hb : t.conn.duty.probe = none)
    (hopByHop : UInt32) : (t.onWatchdogReply site hopByHop).conn.duty.Watched q := by
  by_cases ho : t.conn.outstanding = some hopByHop
  · let v : Turn := { t with conn.outstanding := none, conn.failures := t.conn.failures + 1 }
    rw [onWatchdogReply_eq site ho]
    dsimp only
    split
    · exact watched_giveUp (t := v) h.timed _
    · exact Duty.Watched.armIdle (d := v.conn.duty) h.timed rfl hb h.close _ _
  · have hn : t.onWatchdogReply site hopByHop = t := by simp [onWatchdogReply, ho]
    rw [hn]
    exact h

lemma watched_part (ht : Timed t.conn.alarms t.conn.pending t.conn.generation q) :
    ((t.transition site .closing).arm .close site.settings.sendTimeout
      .closeTimeout).conn.duty.Watched q := by
  by_cases hp : t.conn.phase = .closing
  · rw [transition_of_phase site t hp]
    exact Duty.Watched.armClose (d := t.conn.duty) ht hp _ _
  · have hd := duty_transition_closing site hp
    have hi : Timed (t.conn.alarms.cancel .idle) t.conn.pending t.conn.generation q :=
      ht.cancel (by simp)
    have hr : Timed ((t.conn.alarms.cancel .idle).cancel .reply) t.conn.pending
        t.conn.generation q :=
      hi.cancel (by simp)
    have hv : Timed (t.transition site .closing).conn.duty.alarms
        (t.transition site .closing).conn.duty.pending
        (t.transition site .closing).conn.duty.generation q := by
      rw [hd]
      exact hr
    exact Duty.Watched.armClose hv (by rw [hd]) _ _

lemma watched_complete (h : t.conn.duty.Watched q) {x : Exchange} {k : UInt32}
    (hx : t.conn.pending.find? k = some x) (c : Completion) :
    (t.complete x c (t.conn.pending.erase k)).conn.duty.Watched q := by
  have hk : x.key = k := Pending.key_of_find? hx
  subst hk
  exact h.conclude x.key

lemma watched_failExchange (h : t.conn.duty.Watched q) (hopByHop : UInt32) (r : ResultCode) :
    (t.failExchange site hopByHop r).conn.duty.Watched q := by
  cases hf : t.conn.pending.find? hopByHop with
  | none =>
    have hr : t.failExchange site hopByHop r = t := by simp [failExchange, Pending.fail, hf]
    rw [hr]
    exact h
  | some x =>
    simp only [failExchange, Pending.fail, hf, Option.map_some]
    exact watched_complete h hf ⟨x.waiter, x.localAnswer site.node r⟩

lemma watched_onAnswer (h : t.conn.duty.Watched q) (m : Message) :
    (t.onAnswer m).conn.duty.Watched q := by
  cases hf : t.conn.pending.find? m.header.hopByHop with
  | none =>
    simp only [onAnswer, Pending.resolve, hf]
    exact h
  | some x =>
    simp only [onAnswer, Pending.resolve, hf]
    exact watched_complete h hf ⟨x.waiter, m⟩

/-- **Handling an event leaves nothing out.** What was handled need not be upcoming any more. -/
theorem Upshot.watched (hu : Upshot site A t e u) (hw : t.conn.writing = none)
    (h : t.conn.duty.Watched (e :: q)) : u.conn.duty.Watched q := by
  have hb : t.conn.duty.probe = none := Connection.probe?_of_writing hw
  have hsb : (t.stir site).conn.duty.probe = none := by
    unfold stir
    split <;> exact hb
  have news : ∀ {v : Turn}, e.slot? = none → v.conn.duty.Watched (e :: q) → v.conn.duty.Watched q :=
    fun he hv => hv.drop (.inl he)
  have entered : ∀ j m, (t.enter site j m).conn.duty.Watched (e :: q) := fun j m =>
    duty_enter site t j m ▸ h.enter _ _ _
  cases hu with
  | bypass hB he => exact news he.slot? (h.rests hB.rests hb)
  | stale he => exact h.drop (.inr he)
  | fallen hB he ha hu =>
    refine (h.rests hB.rests hb).drop (.inr ?_)
    have hp : u.conn.duty.phase = .shutdown := hu
    rcases ha with rfl | ⟨g, rfl⟩ <;> simp [Duty.Minds, hp, Phase.isOpen]
  | opened hB ht =>
    exact news rfl (watched_openAs (h.rests hB.rests hb).timed (hB.rests.probe hb) _ rfl)
  | heard ht hB => exact news rfl ((watched_stir h hb).rests hB.rests hsb)
  | dispatched ht => exact news rfl (watched_stir h hb)
  | @reassured link m ht => exact news rfl (watched_onDwa h hb m)
  | @answered side link m ht hm => exact news rfl (watched_onAnswer (watched_stir h hb) m)
  | failed he k r hf => exact news he.slot? (watched_failExchange h k r)
  | expired k =>
    cases hf : t.conn.pending.find? k with
    | none =>
      have hr : t.onExchangeTimeout site k = t := by
        simp [onExchangeTimeout, Pending.expire, Pending.fail, hf]
      rw [hr]
      exact h.drop (.inr (by simp [Duty.Minds, Pending.contains, Connection.duty, hf]))
    | some x =>
      simp only [onExchangeTimeout, Pending.expire, Pending.fail, hf, Option.map_some]
      refine (watched_complete h hf
        ⟨x.waiter, x.localAnswer site.node .unableToDeliver⟩).drop (.inr ?_)
      show ¬ (t.conn.pending.erase k).contains k
      simp [Pending.contains]
  | refused j m => exact h.drop (.inl rfl)
  | entered j m link deadline =>
    have hn : (t.enter site j m).conn.duty.probe = none := by
      rw [duty_enter]
      exact hb
    have hd := Connection.duty_writing (w := ⟨link, m, .request, deadline⟩) hn rfl
    exact news rfl (hd ▸ entered j m)
  | lost j m hf => exact news rfl (watched_giveUp (entered j m).timed _)
  | probing hg ho hn ids link m deadline =>
    subst hg
    exact h.probing hn hb ho _
  | @missed k ho =>
    have hn := (counted_onWatchdogReply site ho).1
    exact (watched_onWatchdogReply h hb k).drop (.inr (by simp [Duty.Minds, hn]))

/-- **The end of a write leaves nothing out.** -/
theorem settle_watched {w : Writing} (hw : t.conn.writing = none)
    (h : ({ t.conn with writing := some w } : Connection).duty.Watched q)
    (result : Option Failure) :
    (t.settle site w.goal w.message result).conn.duty.Watched q := by
  have hb : t.conn.duty.probe = none := Connection.probe?_of_writing hw
  have ht : Timed t.conn.alarms t.conn.pending t.conn.generation q := h.timed
  -- Unless a watchdog request was written, the duty is what it was during the write.
  have hd : (∀ k, w.goal ≠ .probe k) → t.conn.duty.Watched q := by
    intro hg
    have hp : ({ t.conn with writing := some w } : Connection).probe? = none := by
      rcases w with ⟨_, _, g, _⟩
      cases g <;> first | rfl | exact absurd rfl (hg _)
    exact Connection.duty_writing hb hp ▸ h
  rcases w with ⟨link, m, g, deadline⟩
  have failed : ∀ e, (∀ k, g ≠ .probe k) → (t.settle site g m (some e)).conn.duty.Watched q := by
    intro e hg
    have hB : Bypass site (fun _ => True) t (t.settle site g m (some e)) :=
      Bypass.refl.settle_failed (fun _ _ => trivial) m trivial
    exact (hd hg).rests hB.rests hb
  have settled : g.IsSettled → (t.settle site g m result).conn.duty.Watched q := by
    intro hg
    have ha : g.IsAside fun _ => True := by cases g <;> first | exact trivial | exact hg.elim
    have hB : Bypass site (fun _ => True) t (t.settle site g m result) :=
      Bypass.refl.settle ha hg m fun _ _ => trivial
    refine (hd ?_).rests hB.rests hb
    rintro k rfl
    exact hg
  cases result with
  | some e =>
    cases g with
    | probe k => exact watched_giveUp ht e
    | _ => exact failed e (by simp)
  | none =>
    cases g with
    | accept peer => exact watched_openAs ht hb peer rfl
    | request =>
      show (if t.conn.outstanding.isNone then _ else _ : Turn).conn.duty.Watched q
      have hd := hd (by simp)
      split
      · rename_i ho
        exact Duty.Watched.armIdle (d := t.conn.duty) ht (Option.isNone_iff_eq_none.mp ho) hb
          hd.close _ _
      · exact hd
    | disconnect => exact watched_part ht
    | probe k => exact h.probed rfl _ _ _
    | _ => exact settled trivial

end Turn

end Diameter
