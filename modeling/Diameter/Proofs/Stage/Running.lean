import Diameter.Proofs.Stage.Opening

/-!
Where the turns of a connection lead that is open or closing: back to where they began, to a
write on the stream that carries traffic, or to the shutdown.
-/

namespace Diameter.Turn

variable {site : Site} {expected : Option String} {n : Nat} {closing : Bool} {side : Side}
  {link : Link} {peer : PeerIdentity} {t u : Turn}

/-! ### The stream that carries traffic -/

lemma phase_running_ne_shutdown (w : Option Writing) :
    (Stage.running closing side link peer w).phase ≠ .shutdown := by
  cases closing <;> cases side <;> simp [Stage.phase]

lemma Begins.activeSide? {w : Option Writing}
    (h : t.Begins expected n (.running closing side link peer w)) :
    t.conn.activeSide? = some side := by
  have hp := h.phase
  have hi : t.conn.initiator = _ := congrArg Shape.initiator h.shape
  have hr : t.conn.responder = _ := congrArg Shape.responder h.shape
  cases closing <;> cases side <;>
    simp_all [Connection.activeSide?, Stage.phase, Stage.begun, Stage.shape]

lemma Begins.link? {w : Option Writing}
    (h : t.Begins expected n (.running closing side link peer w)) :
    t.conn.link? side = some link := by
  cases side with
  | initiator => exact congrArg Shape.initiator h.shape
  | responder => exact congrArg Shape.responder h.shape

lemma Begins.isOpen {w : Option Writing}
    (h : t.Begins expected n (.running closing side link peer w)) :
    t.conn.phase.isOpen = !closing := by
  rw [h.phase]
  cases closing <;> cases side <;> rfl

lemma Begins.closing_iff {w : Option Writing}
    (h : t.Begins expected n (.running closing side link peer w)) :
    t.conn.phase = .closing ↔ closing := by
  rw [h.phase]
  cases closing <;> cases side <;> simp [Stage.phase]

lemma Begins.follows_pass (h : t.Begins expected n (.running closing side link peer none))
    {e : Event} (hc : u.conn.shape = t.conn.shape) (ho : u.outline = t.outline) :
    u.Follows site expected n (.running closing side link peer none) (.event e) :=
  h.follows_stay (by cases side <;> rfl) (by cases side <;> exact fun _ => rfl) hc ho

lemma Begins.follows_traffic (h : t.Begins expected n (.running closing side link peer none))
    {e : Event} {m : Message} {g : Goal} (hg : g.IsTraffic closing) :
    (t.write site side m g).Follows site expected n (.running closing side link peer none)
      (.event e) := by
  have hne : ∀ l f, g ≠ .turnAway l f := by rintro l f rfl; exact hg
  refine (h.steady (phase_running_ne_shutdown _)).follows_write (phase_running_ne_shutdown _) side
    h.link? hne ?_
  intro d hlen
  refine ⟨_, _, _, .write (d := d) hlen hg, ?_, h.outline⟩
  rw [shape_writing, h.shape]
  cases closing <;> cases side <;> rfl

lemma Begins.follows_end (h : t.Begins expected n (.running closing side link peer none))
    {i : Input} :
    (t.transition site .shutdown).Follows site expected n
      (.running closing side link peer none) i :=
  (h.steady (phase_running_ne_shutdown _)).follows_transition (phase_running_ne_shutdown _)

lemma Begins.follows_failure (h : t.Begins expected n (.running closing side link peer none))
    {i : Input} (e : Failure) :
    (t.giveUp site e).Follows site expected n (.running closing side link peer none) i :=
  (h.steady (phase_running_ne_shutdown _)).follows_giveUp (phase_running_ne_shutdown _) e

/-! ### Requests, handlers, the disconnect -/

lemma onSend_follows_running (h : t.Begins expected n (.running closing side link peer none))
    (waiter : Nat) (request : Message) :
    (t.onSend site waiter request).Follows site expected n (.running closing side link peer none)
      (.event (.send waiter request)) := by
  have ha := h.activeSide?
  have ho := h.isOpen
  cases closing with
  | true =>
    have hr : t.onSend site waiter request = t.refuseToSend site waiter request := by
      simp [onSend, ha, ho]
    rw [hr]
    exact h.follows_pass rfl (outline_refuseToSend site t waiter request)
  | false =>
    let x := Exchange.ofRequest waiter request t.now
    let u := t.arm (.exchange x.key) site.settings.sendTimeout (.exchangeTimeout x.key)
    let v : Turn := { u with conn.pending := (u.conn.pending.insert x).2 }
    have hv : v.Begins expected n (.running false side link peer none) := h.congr rfl rfl
    cases hd : (u.conn.pending.insert x).1 with
    | none =>
      have hr : t.onSend site waiter request = v.write site side request .request := by
        simp only [onSend, ha, ho, Bool.not_false, if_true]
        rw [hd]
      rw [hr]
      exact hv.follows_traffic (by simp [Goal.IsTraffic])
    | some y =>
      have hr : t.onSend site waiter request =
          (v.emit (.abandon y.waiter)).write site side request .request := by
        simp only [onSend, ha, ho, Bool.not_false, if_true]
        rw [hd]
      have hy : (v.emit (.abandon y.waiter)).Begins expected n
          (.running false side link peer none) :=
        hv.congr rfl ((outline_emit v _).trans (List.append_nil _))
      rw [hr]
      exact hy.follows_traffic (by simp [Goal.IsTraffic])

lemma onHandled_follows_running (h : t.Begins expected n (.running closing side link peer none))
    (l : Nat) (answer : Message) :
    (t.onHandled site l answer).Follows site expected n (.running closing side link peer none)
      (.event (.handled l answer)) := by
  have hl : t.conn.activeLink? = some link := by
    simp [Connection.activeLink?, h.activeSide?, h.link?]
  by_cases he : link.id = l
  · have hr : t.onHandled site l answer = t.write site side answer .answer := by
      simp [onHandled, h.activeSide?, hl, he]
    rw [hr]
    exact h.follows_traffic (by simp [Goal.IsTraffic])
  · have hr : t.onHandled site l answer = t := by
      simp [onHandled, h.activeSide?, hl, he]
    rw [hr]
    exact h.follows_pass rfl rfl

lemma onStop_follows_running (h : t.Begins expected n (.running closing side link peer none))
    (waiter : Nat) (cause : DisconnectCause) :
    (t.onStop site waiter cause).Follows site expected n (.running closing side link peer none)
      (.event (.stop waiter cause)) := by
  let v : Turn := { t with conn.stoppers := t.conn.stoppers ++ [waiter] }
  have hp : t.conn.phase = _ := h.phase
  cases closing with
  | true =>
    have hr : t.onStop site waiter cause = v := by
      cases side <;> simp [onStop, hp, Stage.phase, v]
    rw [hr]
    exact h.follows_pass rfl rfl
  | false =>
    let v' : Turn := { v with ids := (site.node.dpr cause t.ids).2 }
    have hr : t.onStop site waiter cause =
        v'.write site side (site.node.dpr cause t.ids).1 .disconnect := by
      cases side <;> simp [onStop, hp, Stage.phase, disconnect, v, v']
    have hv : v'.Begins expected n (.running false side link peer none) := h.congr rfl rfl
    rw [hr]
    exact hv.follows_traffic (by simp [Goal.IsTraffic])

lemma onCloseTimeout_follows_running
    (h : t.Begins expected n (.running closing side link peer none)) :
    (t.onCloseTimeout site).Follows site expected n (.running closing side link peer none)
      (.event .closeTimeout) := by
  by_cases hc : t.conn.phase = .closing
  · rw [onCloseTimeout, if_pos hc]
    exact h.follows_end
  · rw [onCloseTimeout, if_neg hc]
    exact h.follows_pass rfl rfl

/-! ### Alarms -/

lemma onWatchdogIdle_follows_running
    (h : t.Begins expected n (.running closing side link peer none)) (generation : Nat) :
    (t.onWatchdogIdle site generation).Follows site expected n
      (.running closing side link peer none) (.event (.watchdogIdle generation)) := by
  by_cases hc : generation = t.conn.generation ∧ t.conn.phase.isOpen ∧ t.conn.outstanding = none
  · have hr : t.onWatchdogIdle site generation =
        ({ t with ids := (site.node.dwr t.ids).2 } : Turn).write site side
          (site.node.dwr t.ids).1 (.probe (site.node.dwr t.ids).1.header.hopByHop) := by
      rw [onWatchdogIdle, if_pos hc]
      simp only [h.activeSide?]
    have hv : ({ t with ids := (site.node.dwr t.ids).2 } : Turn).Begins expected n
        (.running closing side link peer none) := h.congr rfl rfl
    have hcl : closing = false := by
      have := hc.2.1
      rw [h.isOpen] at this
      simpa using this
    rw [hr]
    exact hv.follows_traffic (by simp [Goal.IsTraffic, hcl])
  · rw [onWatchdogIdle, if_neg hc]
    exact h.follows_pass rfl rfl

/-! ### Messages -/

lemma keeps_failExchange (site : Site) (t : Turn) (hopByHop : UInt32) (r : ResultCode) :
    (t.failExchange site hopByHop r).conn.shape = t.conn.shape ∧
      (t.failExchange site hopByHop r).outline = t.outline := by
  unfold failExchange
  split
  · exact ⟨rfl, rfl⟩
  · exact ⟨rfl, by rw [outline_note, outline_complete]⟩

lemma keeps_onAnswer (t : Turn) (m : Message) :
    (t.onAnswer m).conn.shape = t.conn.shape ∧ (t.onAnswer m).outline = t.outline := by
  unfold onAnswer
  split
  · exact ⟨rfl, outline_report _ _⟩
  · exact ⟨rfl, by rw [outline_note, outline_complete]⟩

lemma keeps_onDwa (t : Turn) (m : Message) :
    (t.onDwa site m).conn.shape = t.conn.shape ∧ (t.onDwa site m).outline = t.outline := by
  unfold onDwa
  dsimp only
  split
  · exact ⟨rfl, rfl⟩
  · split <;> exact ⟨rfl, rfl⟩

section

variable {e : Event}

lemma Begins.follows_keeping (h : t.Begins expected n (.running closing side link peer none))
    (hk : u.conn.shape = t.conn.shape ∧ u.outline = t.outline) :
    u.Follows site expected n (.running closing side link peer none) (.event e) :=
  h.follows_pass hk.1 hk.2

lemma onLateCapabilities_follows
    (h : t.Begins expected n (.running closing side link peer none)) (m : Message) :
    (t.onLateCapabilities site m).Follows site expected n (.running closing side link peer none)
      (.event e) := by
  unfold onLateCapabilities
  extract_lets sameHost
  split
  · exact h.follows_keeping ⟨rfl, outline_notAcceptable t _⟩
  · exact h.follows_failure _

lemma onDpa_follows (h : t.Begins expected n (.running closing side link peer none)) :
    (t.onDpa site).Follows site expected n (.running closing side link peer none)
      (.event e) := by
  unfold onDpa
  split
  · exact h.follows_end
  · exact h.follows_keeping ⟨rfl, outline_notAcceptable t _⟩

lemma onPeerMessage_follows (h : t.Begins expected n (.running closing side link peer none))
    (l : Nat) (m : Message) :
    (t.onPeerMessage site side l m).Follows site expected n
      (.running closing side link peer none) (.event e) := by
  let v : Turn := if t.conn.outstanding.isNone && t.conn.phase.isOpen then t.armIdle site else t
  have hv : v.Begins expected n (.running closing side link peer none) := by
    refine h.congr ?_ ?_ <;> simp only [v] <;> split <;> rfl
  have hk : ∀ u : Turn, u.conn.shape = v.conn.shape ∧ u.outline = v.outline →
      u.Follows site expected n (.running closing side link peer none) (.event e) :=
    fun u hu => hv.follows_keeping hu
  simp only [onPeerMessage]
  split
  · -- a watchdog request or answer
    split
    · exact hv.follows_traffic (by simp [Goal.IsTraffic])
    · exact hk _ (keeps_onDwa v m)
  · split
    · -- a disconnect request or answer
      split
      · exact hv.follows_traffic (by simp [Goal.IsTraffic])
      · exact onDpa_follows hv
    · -- any other request or answer
      split
      · exact hk _ ⟨rfl, (outline_emit v _).trans (List.append_nil _)⟩
      · exact hk _ (keeps_onAnswer v m)

lemma onOpenMessage_follows (h : t.Begins expected n (.running closing side link peer none))
    (l : Nat) (m : Message) :
    (t.onOpenMessage site side l m).Follows site expected n
      (.running closing side link peer none) (.event e) := by
  unfold onOpenMessage
  split
  · -- illegal flags
    split
    · exact h.follows_traffic (by simp [Goal.IsTraffic])
    · exact h.follows_keeping ⟨rfl, outline_report t _⟩
  · split
    · exact onLateCapabilities_follows h m
    · split
      · -- a stranger
        rename_i host _
        dsimp only
        split
        · exact h.follows_traffic (by simp [Goal.IsTraffic])
        · have hf := keeps_failExchange site t m.header.hopByHop .unknownPeer
          exact h.follows_keeping ⟨hf.1, (outline_report _ _).trans hf.2⟩
      · exact onPeerMessage_follows h l m

end

lemma onReceived_follows_running (h : t.Begins expected n (.running closing side link peer none))
    (m : Message) :
    (t.onReceived site side link.id m).Follows site expected n
      (.running closing side link peer none) (.event (.received link.id m)) := by
  have hp := h.phase
  have hr : t.onReceived site side link.id m = t.onOpenMessage site side link.id m := by
    have ha := h.activeSide?
    cases closing <;> cases side <;> simp [onReceived, hp, Stage.phase, ha]
  rw [hr]
  exact onOpenMessage_follows h link.id m

lemma onReceivedInvalid_follows_running
    (h : t.Begins expected n (.running closing side link peer none)) (k : Header) (f : Failure) :
    (t.onReceivedInvalid site side k f).Follows site expected n
      (.running closing side link peer none) (.event (.receivedInvalid link.id k f)) := by
  have hp := h.phase
  have ha := h.activeSide?
  by_cases hk : k.isRequest
  · have hr : t.onReceivedInvalid site side k f =
        t.write site side (site.node.headerErrorAnswer k f) (.complain f) := by
      cases closing <;> cases side <;>
        simp [onReceivedInvalid, hk, hp, Stage.phase, ha]
    rw [hr]
    exact h.follows_traffic (by simp [Goal.IsTraffic])
  · have hr : t.onReceivedInvalid site side k f =
        (t.failExchange site k.hopByHop f.resultCode).report f := by
      cases closing <;> cases side <;>
        simp [onReceivedInvalid, hk, hp, Stage.phase, ha]
    have hf := keeps_failExchange site t k.hopByHop f.resultCode
    rw [hr]
    exact h.follows_keeping ⟨hf.1, (outline_report _ _).trans hf.2⟩

lemma onDisconnected_follows_running
    (h : t.Begins expected n (.running closing side link peer none)) (f : Failure) :
    (t.onDisconnected site side f).Follows site expected n
      (.running closing side link peer none) (.event (.disconnected link.id f)) := by
  have hp := h.phase
  cases closing with
  | true =>
    have hr : t.onDisconnected site side f = t.transition site .shutdown := by
      cases side <;> simp [onDisconnected, hp, Stage.phase]
    rw [hr]
    exact h.follows_end
  | false =>
    have hr : t.onDisconnected site side f = t.giveUp site (endOfStream f) := by
      cases side <;> simp [onDisconnected, hp, Stage.phase]
    rw [hr]
    exact h.follows_failure _

/-! ### The end of a write -/

lemma settle_farewell_follows {l : Link} {m : Message} {d : Nat}
    (h : t.Begins expected n (.running closing side link peer (some ⟨l, m, .farewell, d⟩))) :
    (t.settle site .farewell m none).Follows site expected n
      (.running closing side link peer (some ⟨l, m, .farewell, d⟩)) (.written none) := by
  have hst := h.steady (phase_running_ne_shutdown _)
  cases closing with
  | true =>
    have hp : t.conn.phase = .closing := h.closing_iff.mpr rfl
    have hr : t.settle site .farewell m none = t.transition site .shutdown := by
      simp only [settle, transition_of_phase site t hp]
    rw [hr]
    exact hst.follows_transition (phase_running_ne_shutdown _)
  | false =>
    have hp : t.conn.phase ≠ .closing := by rw [Ne, h.closing_iff]; simp
    have hs := shape_transition site t (p := .closing) (by decide)
    have ho := outline_transition site t (by decide) hp
    have hq : (t.transition site .closing).conn.phase ≠ .shutdown := by
      have : (t.transition site .closing).conn.phase = .closing := congrArg Shape.phase hs
      simp [this]
    rw [h.shape] at hs
    rw [h.outline] at ho
    refine ⟨_, _, _, .partAndFall rfl, ?_, ?_⟩
    · calc _ = ((t.transition site .closing).transition site .shutdown).conn.shape := rfl
        _ = _ := by
          rw [shape_transition_shutdown _ _ hq, hs]
          cases side <;> rfl
    · calc _ = ((t.transition site .closing).transition site .shutdown).outline := rfl
        _ = _ := by
          rw [outline_transition_shutdown _ _ hq, ho, hs]
          cases side <;> rfl

lemma settle_follows_running {w : Writing}
    (h : t.Begins expected n (.running closing side link peer (some w)))
    (hg : w.goal.IsTraffic closing) (result : Option Failure) :
    (t.settle site w.goal w.message result).Follows site expected n
      (.running closing side link peer (some w)) (.written result) := by
  have hst := h.steady (phase_running_ne_shutdown _)
  have hne : ∀ l f, w.goal ≠ .turnAway l f := by
    intro l f he
    rw [he] at hg
    exact hg
  cases result with
  | some f =>
    obtain ⟨hc, ho⟩ := settle_failed site t hne w.message f hst.phase
    exact hst.follows_fallen (phase_running_ne_shutdown _) hc ho
  | none =>
    -- a write that went well changes something only if it was a parting
    have keep : ∀ u : Turn, u.conn.shape = t.conn.shape → u.outline = t.outline →
        u.Follows site expected n (.running closing side link peer (some w)) (.written none) := by
      intro u hc ho
      refine ⟨_, _, _, .written, ?_, ho.trans h.outline⟩
      rw [hc, h.shape]
      cases closing <;> cases side <;> rfl
    obtain ⟨l, m, g, d⟩ := w
    cases g with
    | introduce _ | accept _ | reject _ | turnAway _ _ => exact absurd hg (by simp [Goal.IsTraffic])
    | complain f => exact keep _ rfl (outline_report t f)
    | answer => exact keep _ rfl rfl
    | request =>
      simp only [settle]
      split
      · exact keep _ rfl (outline_note t _)
      · exact keep _ rfl (outline_note t _)
    | probe hopByHop => exact keep _ rfl rfl
    | disconnect =>
      have hcl : closing = false := hg
      subst hcl
      have hp : t.conn.phase ≠ .closing := by rw [Ne, h.closing_iff]; simp
      refine ⟨_, _, _, .part rfl, ?_, ?_⟩
      · calc _ = (t.transition site .closing).conn.shape := rfl
          _ = _ := by
            rw [shape_transition _ _ (by decide), h.shape]
            cases side <;> rfl
      · calc _ = (t.transition site .closing).outline := rfl
          _ = _ := by rw [outline_transition _ _ (by decide) hp, h.outline]; rfl
    | farewell => exact settle_farewell_follows h

end Diameter.Turn
