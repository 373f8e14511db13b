import Diameter.Proofs.Happenings
import Diameter.Proofs.Holdings

/-!
How attached streams are numbered.

The register of a turn is how many streams have been attached in all, and which of them with this
turn. Only a stream that an event brings is entered, and it gets the next number
(`Turn.register_handle`). So the numbers of a run grow, and what has once been detached is never
attached again. Main statements: `Connection.Run.numbered`, `Connection.Run.hasLost`.
-/

namespace Diameter

namespace Turn

variable (site : Site) (t : Turn) {u : Turn}

/-- How many streams have been attached, and those that were attached with this turn. -/
def register : Nat × List Link := (t.conn.attached, t.effects.filterMap Effect.listened?)

/-! ### Moves that attach no stream -/

lemma register_append {es : List Effect} (ha : u.conn.attached = t.conn.attached)
    (he : u.effects = t.effects ++ es) (hn : ∀ e ∈ es, e.listened? = none) :
    u.register = t.register := by
  rw [register, register, ha, he, List.filterMap_append, List.filterMap_eq_nil_iff.mpr hn,
    List.append_nil]

lemma register_emit {e : Effect} (he : e.listened? = none) : (t.emit e).register = t.register :=
  register_append t rfl rfl (by simp [he])

lemma register_report (e : Failure) : (t.report e).register = t.register := register_emit t rfl

lemma register_complete (x : Exchange) (c : Completion) (p : Pending) (n : Note) :
    ((t.complete x c p).note n).register = t.register :=
  (register_emit _ rfl).trans (register_emit _ rfl)

lemma register_hangUp (side : Side) : (t.hangUp side).register = t.register := by
  unfold hangUp
  split
  · rfl
  · cases side <;> exact register_emit _ rfl

lemma register_transition (p : Phase) : (t.transition site p).register = t.register := by
  obtain ⟨es, he, hn⟩ := exists_effects_transition site t p (P := fun e => e.listened? = none)
    (by simp [shift, Effect.listened?]) rfl (fun _ => rfl) (fun _ _ => rfl) fun _ => rfl
  refine register_append t ?_ he hn
  by_cases hp : t.conn.phase = p
  · rw [transition_of_phase site t hp]
  by_cases hs : p = .shutdown
  · subst hs
    exact congrArg Shape.attached (shape_transition_shutdown site t hp)
  · exact congrArg Shape.attached (shape_transition site t hs)

lemma register_giveUp (e : Failure) : (t.giveUp site e).register = t.register :=
  (register_transition site _ _).trans (register_report t e)

lemma register_openAs (peer : PeerIdentity) (p : Phase) :
    (t.openAs site peer p).register = t.register :=
  (register_transition site _ p).trans (register_emit _ rfl)

lemma register_elect : (t.elect site).register = t.register := by
  unfold elect
  split
  · rfl
  · split <;> rfl

lemma register_settle (g : Goal) (m : Message) (result : Option Failure) :
    (t.settle site g m result).register = t.register := by
  have failed (w : Failure) : (t.giveUp site w).register = t.register := register_giveUp site t w
  cases g with
  | turnAway link e => exact (register_emit _ rfl).trans (register_report t e)
  | reject e =>
    cases result with
    | some w => exact (register_giveUp site _ e).trans (failed w)
    | none => exact failed e
  | complain e =>
    cases result with
    | some w => exact (register_report _ e).trans (failed w)
    | none => exact register_report t e
  | introduce electing =>
    cases result with
    | some w => exact failed w
    | none =>
      cases electing with
      | true => exact (register_elect site _).trans (register_transition site t _)
      | false => exact register_transition site t _
  | accept peer =>
    cases result with
    | some w => exact failed w
    | none => exact register_openAs site t peer _
  | answer =>
    cases result with
    | some w => exact failed w
    | none => rfl
  | farewell =>
    cases result with
    | some w => exact failed w
    | none => exact (register_transition site _ _).trans (register_transition site t _)
  | request =>
    cases result with
    | some w => exact failed w
    | none =>
      unfold settle
      dsimp only
      split <;> exact register_emit t rfl
  | disconnect =>
    cases result with
    | some w => exact failed w
    | none => exact register_transition site t .closing
  | probe hopByHop =>
    cases result with
    | some w => exact failed w
    | none => rfl

lemma register_writeOn (link : Link) (m : Message) (g : Goal) :
    (t.writeOn site link m g).register = t.register := by
  unfold writeOn
  split
  · exact register_settle site t g m _
  · rfl

lemma register_write (side : Side) (m : Message) (g : Goal) :
    (t.write site side m g).register = t.register := by
  unfold write
  split
  · exact register_settle site t g m _
  · exact register_writeOn site t _ m g

/-! ### Handlers that attach no stream -/

lemma register_onStart : (t.onStart site).register = t.register := by
  unfold onStart
  split
  · exact register_report t _
  · exact (register_emit _ rfl).trans (register_transition site t _)

lemma register_openResponder : (t.openResponder site).register = t.register := by
  unfold openResponder
  dsimp only
  split
  · exact register_write site _ _ _ _
  · exact register_transition site _ _

lemma register_onDialFailed (text : String) : (t.onDialFailed site text).register = t.register := by
  unfold onDialFailed
  dsimp only
  split
  · exact register_giveUp site _ _
  · exact (register_openResponder site _).trans (register_report _ _)
  · exact register_report _ _

lemma register_answerFirstCer (cer : Message) :
    (t.answerFirstCer site cer).register = t.register := by
  unfold answerFirstCer
  split <;> exact register_write site t _ _ _

lemma register_onWonElection : (t.onWonElection site).register = t.register := by
  unfold onWonElection
  split
  · exact register_report t _
  · exact (register_openResponder site _).trans (register_hangUp t _)

lemma register_onCea (cea : Message) : (t.onCea site cea).register = t.register := by
  unfold onCea
  split
  · exact register_giveUp site t _
  · split
    · dsimp only
      split
      · exact (register_openAs site _ _ _).trans (register_hangUp t .responder)
      · exact register_openAs site t _ _
    · exact register_giveUp site t _

lemma register_onLateCapabilities (m : Message) :
    (t.onLateCapabilities site m).register = t.register := by
  have decided (same : Bool) : (if same then t.notAcceptable "Rcv-CE"
      else t.giveUp site (.unknownPeer (m.originHost?.getD ""))).register = t.register := by
    cases same with
    | true => exact register_report t _
    | false => exact register_giveUp site t _
  exact decided _

lemma register_onDwa (m : Message) : (t.onDwa site m).register = t.register := by
  unfold onDwa
  split
  · rfl
  · dsimp only
    split <;> rfl

lemma register_onDpa : (t.onDpa site).register = t.register := by
  unfold onDpa
  split
  · exact register_transition site t _
  · exact register_report t _

lemma register_onAnswer (m : Message) : (t.onAnswer m).register = t.register := by
  unfold onAnswer
  split
  · exact register_report t _
  · exact register_complete t _ _ _ _

lemma register_failExchange (hopByHop : UInt32) (r : ResultCode) :
    (t.failExchange site hopByHop r).register = t.register := by
  unfold failExchange
  split
  · rfl
  · exact register_complete t _ _ _ _

lemma register_onPeerMessage (side : Side) (link : Nat) (m : Message) :
    (t.onPeerMessage site side link m).register = t.register := by
  have hs : (t.stir site).register = t.register := by
    unfold stir
    split <;> rfl
  rw [onPeerMessage_eq]
  split
  · split
    · exact (register_write site _ _ _ _).trans hs
    · exact (register_onDwa site _ m).trans hs
  · split
    · split
      · exact (register_write site _ _ _ _).trans hs
      · exact (register_onDpa site _).trans hs
    · split
      · exact (register_emit _ rfl).trans hs
      · exact (register_onAnswer _ m).trans hs

lemma register_onOpenMessage (side : Side) (link : Nat) (m : Message) :
    (t.onOpenMessage site side link m).register = t.register := by
  unfold onOpenMessage
  split
  · split
    · exact register_write site t _ _ _
    · exact register_report t _
  · split
    · exact register_onLateCapabilities site t m
    · split
      · dsimp only
        split
        · exact register_write site t _ _ _
        · exact (register_report _ _).trans (register_failExchange site t _ _)
      · exact register_onPeerMessage site t side link m

lemma register_onReceived (side : Side) (link : Nat) (m : Message) :
    (t.onReceived site side link m).register = t.register := by
  have open_ : (if t.conn.activeSide? = some side then t.onOpenMessage site side link m
      else t.notAcceptable "Rcv-Message").register = t.register := by
    split
    · exact register_onOpenMessage site t side link m
    · exact register_report t _
  have wait : (if side = .initiator && m.isCea then t.onCea site m
      else t.notAcceptable "Rcv-Message").register = t.register := by
    split
    · exact register_onCea site t m
    · exact register_report t _
  unfold onReceived
  split
  · -- the first message of an accepted stream
    split
    · exact register_answerFirstCer site t m
    · exact (register_transition site _ _).trans (register_report t _)
  · exact wait
  · exact wait
  · exact open_
  · exact open_
  · exact open_
  · exact register_report t _

lemma register_onReceivedInvalid (side : Side) (h : Header) (e : Failure) :
    (t.onReceivedInvalid site side h e).register = t.register := by
  have failed (active : Prop) [Decidable active] :
      (if active then t.failExchange site h.hopByHop e.resultCode else t).register =
        t.register := by
    split
    · exact register_failExchange site t _ _
    · rfl
  unfold onReceivedInvalid
  dsimp only
  split
  · split
    · exact register_write site t _ _ _
    · split
      · exact register_write site t _ _ _
      · exact register_report t e
  · split
    · exact (register_transition site _ _).trans ((register_report _ e).trans (failed _))
    · exact (register_report _ e).trans (failed _)

lemma register_onDisconnected (side : Side) (e : Failure) :
    (t.onDisconnected site side e).register = t.register := by
  unfold onDisconnected
  split
  · exact (register_openResponder site _).trans (register_hangUp t _)
  · exact (register_transition site _ _).trans (register_hangUp t .responder)
  · exact (register_transition site _ _).trans (register_hangUp t .responder)
  · exact register_transition site t _
  · exact register_giveUp site t _

lemma register_enter (waiter : Nat) (request : Message) :
    (t.enter site waiter request).register = t.register := by
  unfold enter
  dsimp only
  split
  · exact register_emit _ rfl
  · rfl

lemma register_onSend (waiter : Nat) (request : Message) :
    (t.onSend site waiter request).register = t.register := by
  unfold onSend
  split
  · split
    · exact (register_write site _ _ _ _).trans (register_enter site t waiter request)
    · exact register_emit t rfl
  · exact register_emit t rfl

lemma register_onHandled (link : Nat) (answer : Message) :
    (t.onHandled site link answer).register = t.register := by
  unfold onHandled
  split
  · split
    · exact register_write site t _ _ _
    · rfl
  · rfl

lemma register_onExchangeTimeout (hopByHop : UInt32) :
    (t.onExchangeTimeout site hopByHop).register = t.register := by
  unfold onExchangeTimeout
  split
  · rfl
  · exact register_complete t _ _ _ _

lemma register_onStop (waiter : Nat) (cause : DisconnectCause) :
    (t.onStop site waiter cause).register = t.register := by
  unfold onStop
  dsimp only
  split
  · exact register_write site _ _ _ _
  · exact register_write site _ _ _ _
  · rfl
  · exact register_transition site _ _

lemma register_onCloseTimeout : (t.onCloseTimeout site).register = t.register := by
  unfold onCloseTimeout
  split
  · exact register_transition site t _
  · rfl

lemma register_onWatchdogIdle (generation : Nat) :
    (t.onWatchdogIdle site generation).register = t.register := by
  unfold onWatchdogIdle
  split
  · split
    · rfl
    · exact register_write site _ _ _ _
  · rfl

lemma register_onWatchdogReply (hopByHop : UInt32) :
    (t.onWatchdogReply site hopByHop).register = t.register := by
  unfold onWatchdogReply
  split
  · rfl
  · dsimp only
    split
    · exact register_giveUp site _ _
    · rfl

/-! ### Attaching a stream -/

/-- The register once the next number has been given to a stream. -/
def enrol (stream : Nat) : Nat × List Link :=
  (t.conn.attached + 1, t.register.2 ++ [⟨t.conn.attached + 1, stream⟩])

lemma register_attach (stream : Nat) : (t.attach stream).2.register = t.enrol stream := by
  simp [attach, register, enrol, emit, Effect.listened?]

lemma register_introduce (stream : Nat) (electing : Bool) :
    (t.introduce site stream electing).register = t.enrol stream :=
  (register_write site _ _ _ _).trans (register_attach t stream)

lemma register_onDialed (stream : Nat) : (t.onDialed site stream).register = t.register ∨
    (t.onDialed site stream).register = t.enrol stream := by
  unfold onDialed
  dsimp only
  split
  · exact .inr (register_introduce site _ stream false)
  · exact .inr (register_introduce site _ stream true)
  · exact .inl ((register_emit _ rfl).trans (register_report _ _))

lemma register_onAccepted (stream : Nat) : (t.onAccepted site stream).register = t.register ∨
    (t.onAccepted site stream).register = t.enrol stream := by
  unfold onAccepted
  split
  · exact .inl ((register_emit _ rfl).trans (register_report t _))
  · exact .inr ((register_transition site _ _).trans (register_attach t stream))

lemma register_electIncoming (stream : Nat) (cer : Message) :
    (t.electIncoming site stream cer).register = t.enrol stream := by
  have ha := register_attach t stream
  unfold electIncoming
  dsimp only
  split
  · exact (register_writeOn site _ _ _ _).trans ha
  · split
    · exact (register_transition site _ _).trans ha
    · exact (register_elect site _).trans ((register_transition site _ _).trans ha)

lemma register_onAcceptedCer (stream : Nat) (cer : Message) :
    (t.onAcceptedCer site stream cer).register = t.register ∨
      (t.onAcceptedCer site stream cer).register = t.enrol stream := by
  unfold onAcceptedCer
  split
  · exact .inr ((register_answerFirstCer site _ cer).trans (register_attach t stream))
  · exact .inr (register_electIncoming site t stream cer)
  · exact .inr (register_electIncoming site t stream cer)
  · exact .inl (register_emit t rfl)

/-- **Only a stream that an event brings is attached, with the next number.** -/
theorem register_handle (e : Event) : (t.handle site e).register = t.register ∨
    ∃ stream, e.stream? = some stream ∧ (t.handle site e).register = t.enrol stream := by
  cases e with
  | start => exact .inl (register_onStart site t)
  | dialed stream => exact (register_onDialed site t stream).imp_right fun h => ⟨_, rfl, h⟩
  | dialFailed text => exact .inl (register_onDialFailed site t text)
  | accepted stream => exact (register_onAccepted site t stream).imp_right fun h => ⟨_, rfl, h⟩
  | acceptedCer stream cer =>
    exact (register_onAcceptedCer site t stream cer).imp_right fun h => ⟨_, rfl, h⟩
  | received l m =>
    left
    simp only [handle]
    split
    · exact register_onReceived site t _ l m
    · rfl
  | receivedInvalid l h f =>
    left
    simp only [handle]
    split
    · exact register_onReceivedInvalid site t _ h f
    · rfl
  | disconnected l f =>
    left
    simp only [handle]
    split
    · exact register_onDisconnected site t _ f
    · rfl
  | wonElection => exact .inl (register_onWonElection site t)
  | send waiter request => exact .inl (register_onSend site t waiter request)
  | handled l answer => exact .inl (register_onHandled site t l answer)
  | stop waiter cause => exact .inl (register_onStop site t waiter cause)
  | watchdogIdle generation => exact .inl (register_onWatchdogIdle site t generation)
  | watchdogReply hopByHop => exact .inl (register_onWatchdogReply site t hopByHop)
  | exchangeTimeout hopByHop => exact .inl (register_onExchangeTimeout site t hopByHop)
  | closeTimeout => exact .inl (register_onCloseTimeout site t)

lemma register_written (result : Option Failure) :
    (t.written site result).register = t.register := by
  unfold written
  split
  · rfl
  · exact register_settle site _ _ _ result

end Turn

/-- The streams that have been attached along a run. -/
def listened (site : Site) (bs : List Beat) : List Link :=
  (Beat.effectsOf site bs).filterMap Effect.listened?

variable {site : Site} {expected : Option String} {first : Event} {bs : List Beat} {b : Beat}
  {c c₀ : Connection} {n n' : Nat} {s s' : Stage} {i : Input} {out : List Effect} {link : Link}

lemma Beat.register_turn (site : Site) (b : Beat) :
    (b.turn site).register = (b.conn.attached, []) ∨
      ∃ stream, (b.turn site).register =
        (b.conn.attached + 1, [⟨b.conn.attached + 1, stream⟩]) := by
  have hb : b.begun.conn.attached = b.conn.attached :=
    congrArg Shape.attached (b.conn.shape_without b.input)
  have hr : b.begun.register = (b.conn.attached, []) := Prod.ext hb rfl
  cases hi : b.input with
  | event e =>
    rw [turn_event hi]
    refine (Turn.register_handle site b.begun e).imp (·.trans hr) ?_
    rintro ⟨stream, -, he⟩
    rw [Turn.enrol, hr, hb] at he
    exact ⟨stream, he⟩
  | written result =>
    have ht : b.turn site = b.begun.written site result := by
      rw [turn, begun, hi]
      rfl
    exact .inl (ht ▸ (Turn.register_written site b.begun result).trans hr)

lemma listened_concat :
    listened site (bs ++ [b]) = listened site bs ++ (b.turn site).register.2 := by
  rw [listened, Beat.effectsOf_append, Beat.effectsOf_singleton, List.filterMap_append]
  rfl

/-- **The streams of a run are numbered as they are attached**, without a gap. -/
theorem Connection.Run.numbered (h : Run site (fresh expected first) bs c) :
    (listened site bs).map (·.id) = List.range' 1 c.attached := by
  induction h with
  | nil => rfl
  | ring _ _ ih => exact ih
  | @turn bs b _ _ ih =>
    rw [listened_concat, List.map_append, ih]
    rcases b.register_turn site with hr | ⟨stream, hr⟩
    · rw [show (b.turn site).conn.attached = b.conn.attached from congrArg Prod.fst hr, hr]
      simp
    · rw [show (b.turn site).conn.attached = b.conn.attached + 1 from congrArg Prod.fst hr, hr,
        List.range'_concat]
      simp [Nat.add_comm]

/-! ### Attached once, and never again -/

namespace Connection

lemma sideOf?_eq_none {l : Nat} :
    c.sideOf? l = none ↔ ∀ side k, c.link? side = some k → k.id ≠ l := by
  constructor
  · rintro h side k hk rfl
    cases side with
    | initiator =>
      simp only [link?] at hk
      simp [sideOf?, hk] at h
    | responder =>
      simp only [link?] at hk
      simp only [sideOf?, hk, Option.any_some, decide_true, if_true] at h
      split at h <;> cases h
  · intro h
    cases hs : c.sideOf? l with
    | none => rfl
    | some side =>
      obtain ⟨k, hk, hl⟩ := link?_of_sideOf? hs
      exact absurd hl (h side k hk)

lemma Run.mem_listened (h : Run site (fresh expected first) bs c) (hf : first.IsOpening)
    {side : Side} (hl : c.link? side = some link) : link ∈ listened site bs := by
  have hc : link ∈ c.links := by
    cases side <;> simp only [link?] at hl <;> simp [links, hl]
  have hcount := (h.accounts hf).links link
  have := List.count_pos_iff.mpr hc
  exact List.count_pos_iff.mp (by rw [listened]; omega)

end Connection

lemma Next.link? (h : Next site expected n s i out n' s') :
    (∀ k, (s'.shape expected n').initiator = some k →
        (s.shape expected n).initiator = some k ∨ k.id = n + 1) ∧
      ∀ k, (s'.shape expected n').responder = some k →
        (s.shape expected n).responder = some k ∨ k.id = n + 1 := by
  cases h with
  | turnAway | turnAwayUnanswered | turnedAway =>
    rename Option Link => i
    cases i <;> simp [Stage.alone, Stage.shape]
  | write | written | part =>
    rename Side => side
    cases side <;> simp [Stage.shape]
  | stay | refuse => exact ⟨fun _ => .inl, fun _ => .inl⟩
  | _ => simp +contextual [Stage.shape]

namespace Connection

/-- The number has been given to a stream that is on no side of the connection any more. -/
structure HasLost (c : Connection) (l : Nat) : Prop where
  given : l ≤ c.attached
  detached : c.sideOf? l = none

/-- **A stream that has been lost stays lost.** -/
theorem Run.hasLost {l : Nat} (h : Run site (fresh expected first) bs b.conn) (hf : first.IsOpening)
    (ht : b.conn.Takes b.input) (hl : b.conn.HasLost l) : (b.turn site).conn.HasLost l := by
  obtain ⟨n, s, n', s', hc, -, hn, hc'⟩ := h.next hf ht
  have ha : b.conn.attached = n := (congrArg Shape.attached hc).trans (Stage.attached_shape _ _ _)
  obtain ⟨hi, hr⟩ := hn.link?
  rw [← hc, ← hc', ← ha] at hi hr
  have hlost := sideOf?_eq_none.mp hl.detached
  refine ⟨?_, sideOf?_eq_none.mpr fun side k hk => ?_⟩
  · -- its number is one that has been given out
    have hg := hl.given
    rcases b.register_turn site with hr | ⟨stream, hr⟩
    · rwa [show (b.turn site).conn.attached = b.conn.attached from congrArg Prod.fst hr]
    · rw [show (b.turn site).conn.attached = b.conn.attached + 1 from congrArg Prod.fst hr]
      omega
  · -- what is attached now was before, or has a number that is new
    have hk : b.conn.link? side = some k ∨ k.id = b.conn.attached + 1 := by
      cases side with
      | initiator => exact hi k hk
      | responder => exact hr k hk
    rcases hk with hk | hk
    · exact hlost side k hk
    · have := hl.given
      omega

end Connection

end Diameter
