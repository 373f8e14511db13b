import Diameter.Network.Run
import Diameter.Proofs.Answers
import Diameter.Proofs.Brevity

/-!
An open connection cannot be talked down.

Whatever a frame says, other than that the peer parts or exchanges capabilities, it ends at most the
exchange that it names, and all that it may set off is an answer. The answer is short enough to be
written, be it made up here (`Diameter.Proofs.Brevity`) or by a handler that keeps to the limit
(`Registry.Fits`). So phase, peer and the other exchanges survive every conversation in which writes
succeed. Main statement: `Connection.Run.withstands`.
-/

namespace Diameter

/-- A peer parts, or exchanges capabilities. -/
def Header.IsDrastic (h : Header) : Prop :=
  h.isBase ∧ (h.command = Command.disconnectPeer ∧ h.isRequest ∨
    h.command = Command.capabilitiesExchange)

/-- What is written answers a request and nothing more. -/
def Goal.IsReply : Goal → Prop
  | .answer | .complain _ => True
  | _ => False

namespace Connection

/-- The connection is in the same phase and bound to the same peer, and of what was pending it has
lost at most the exchanges with some identifiers. -/
structure Lasts (ks : List UInt32) (c d : Connection) : Prop where
  phase : d.phase = c.phase
  identity : d.identity = c.identity
  pending : ∀ x ∈ c.pending.entries, x.key ∉ ks → x ∈ d.pending.entries

namespace Lasts

variable {ks ls : List UInt32} {c d e : Connection}

lemma of_eq (hp : d.phase = c.phase) (hi : d.identity = c.identity) (he : d.pending = c.pending) :
    c.Lasts [] d := ⟨hp, hi, fun _ hx _ => he ▸ hx⟩

lemma refl (c : Connection) : c.Lasts [] c := of_eq rfl rfl rfl

lemma trans (h : c.Lasts ks d) (h' : d.Lasts ls e) : c.Lasts (ks ++ ls) e where
  phase := h'.phase.trans h.phase
  identity := h'.identity.trans h.identity
  pending x hx hn := by
    rw [List.mem_append, not_or] at hn
    exact h'.pending x (h.pending x hx hn.1) hn.2

end Lasts

end Connection

namespace Turn

/-- A turn from which the connection comes out as it was, but for some exchanges, with nothing to
write but a reply. -/
structure Endures (ks : List UInt32) (t u : Turn) : Prop where
  lasts : t.conn.Lasts ks u.conn
  reply : ∀ w, u.conn.writing = some w → w.goal.IsReply

variable {site : Site} {t u v : Turn} {ks ls : List UInt32} {side : Side}

namespace Endures

lemma of_eq (hw : t.conn.writing = none) (hp : u.conn.phase = t.conn.phase)
    (hi : u.conn.identity = t.conn.identity) (he : u.conn.pending = t.conn.pending)
    (hu : u.conn.writing = t.conn.writing) : t.Endures [] u where
  lasts := .of_eq hp hi he
  reply w h := by simp [hu, hw] at h

lemma refl (hw : t.conn.writing = none) : t.Endures [] t := of_eq hw rfl rfl rfl rfl

lemma mono (h : t.Endures [] u) : t.Endures ks u :=
  ⟨⟨h.lasts.phase, h.lasts.identity, fun x hx _ => h.lasts.pending x hx List.not_mem_nil⟩, h.reply⟩

lemma trans (h : t.Endures ks u) (h' : u.Endures ls v) : t.Endures (ks ++ ls) v :=
  ⟨h.lasts.trans h'.lasts, h'.reply⟩

lemma report (h : t.Endures ks u) (e : Failure) : t.Endures ks (u.report e) := ⟨h.lasts, h.reply⟩

lemma notAcceptable (h : t.Endures ks u) (event : String) : t.Endures ks (u.notAcceptable event) :=
  h.report _

lemma stir (hw : t.conn.writing = none) : t.Endures [] (t.stir site) := by
  unfold Turn.stir
  split
  · exact of_eq hw rfl rfl rfl rfl
  · exact refl hw

lemma write {link : Link} {m : Message} {g : Goal} (h : t.Endures ks u)
    (hl : u.conn.link? side = some link) (hm : m.checkLength = .ok ()) (hg : g.IsReply) :
    t.Endures ks (u.write site side m g) := by
  rw [write_of_link site u hl, writeOn_of_checkLength site u link g hm]
  refine ⟨⟨h.lasts.phase, h.lasts.identity, h.lasts.pending⟩, ?_⟩
  rintro w ⟨⟩
  exact hg

end Endures

/-! ### One event -/

lemma endures_complete (hw : t.conn.writing = none) (x : Exchange) (c : Completion) (k : UInt32)
    (n : Note) : t.Endures [k] ((t.complete x c (t.conn.pending.erase k)).note n) where
  lasts := ⟨rfl, rfl, fun y hy hk => List.mem_filter.mpr ⟨hy, by simpa using hk⟩⟩
  reply w h := absurd (h.symm.trans hw) (by simp)

lemma endures_onAnswer (hw : t.conn.writing = none) (m : Message) :
    t.Endures [m.header.hopByHop] (t.onAnswer m) := by
  unfold onAnswer
  cases hr : t.conn.pending.resolve m with
  | error e => exact ((Endures.refl hw).report e).mono
  | ok r =>
    obtain ⟨x, c, pending⟩ := r
    obtain rfl : pending = t.conn.pending.erase m.header.hopByHop := by
      unfold Pending.resolve at hr
      dsimp only at hr
      split at hr
      · cases hr
      · cases hr
        rfl
    exact endures_complete hw x c _ _

lemma endures_failExchange (hw : t.conn.writing = none) (k : UInt32) (r : ResultCode) :
    t.Endures [k] (t.failExchange site k r) := by
  unfold failExchange Pending.fail
  cases t.conn.pending.find? k with
  | none => exact (Endures.refl hw).mono
  | some x => exact endures_complete hw x _ k _

lemma endures_onDwa (hw : t.conn.writing = none) (m : Message) : t.Endures [] (t.onDwa site m) := by
  unfold onDwa
  split
  · exact .refl hw
  · dsimp only
    split <;> exact .of_eq hw rfl rfl rfl rfl

lemma isBaseCommand_iff {m : Message} {command : UInt32} :
    m.isBaseCommand command = true ↔ m.header.isBase = true ∧ m.header.command = command := by
  rw [Message.isBaseCommand, Bool.and_eq_true, beq_iff_eq]
  rfl

lemma originHost?_of_stranger? {m : Message} {host : String} (h : t.stranger? m = some host) :
    m.originHost? = some host := by
  unfold stranger? at h
  split at h
  · rename_i hh _
    split at h
    · cases h
    · exact hh.trans h
  · cases h

section Frames

variable (hn : site.node.Valid) (hw : t.conn.writing = none) (ho : t.conn.phase.isOpen)

include hn hw ho in
lemma endures_onPeerMessage {l : Link} (hl : t.conn.link? side = some l) (link : Nat) {m : Message}
    (hm : Avp.wireLengthAll m.avps ≤ 2 ^ 16) (hd : ¬ m.header.IsDrastic) :
    t.Endures [m.header.hopByHop] (t.onPeerMessage site side link m) := by
  have hs : t.Endures [] (t.stir site) := .stir hw
  have hws : (t.stir site).conn.writing = none :=
    (congrArg Shape.writing (shape_stir site t)).trans hw
  have hls : (t.stir site).conn.link? side = some l := by
    rw [← hl]
    unfold Turn.stir
    split <;> rfl
  rw [onPeerMessage_eq]
  split
  · -- a watchdog request or answer
    split
    · exact (hs.write hls (Node.checkLength_dwa hn hm) (by trivial)).mono
    · exact (hs.trans (endures_onDwa hws m)).mono
  -- a disconnect request would end the connection; `hd` excludes it
  split
  · rename_i hp
    rw [isBaseCommand_iff] at hp
    split
    · rename_i hr
      exact absurd ⟨hp.1, .inl ⟨hp.2, hr⟩⟩ hd
    · -- the answer to a disconnect is unwanted, as the connection is not closing
      have hc : (t.stir site).conn.phase ≠ .closing := by
        rw [hs.lasts.phase]
        rintro hc
        rw [hc] at ho
        cases ho
      unfold onDpa
      rw [if_neg hc]
      exact (hs.notAcceptable _).mono
  · -- any other request or answer
    split
    · exact Endures.mono ⟨hs.lasts, hs.reply⟩
    · exact hs.trans (endures_onAnswer hws m)

include hn hw ho in
lemma endures_onOpenMessage {l : Link} (hl : t.conn.link? side = some l) (link : Nat) {m : Message}
    (hm : Avp.wireLengthAll m.avps ≤ 2 ^ 16) (hd : ¬ m.header.IsDrastic) :
    t.Endures [m.header.hopByHop] (t.onOpenMessage site side link m) := by
  have complains {e : Failure} (he : e.wording ≤ 2 ^ 17) :
      t.Endures [m.header.hopByHop] (t.write site side (site.node.errorAnswer m e) (.complain e)) :=
    ((Endures.refl hw).write hl (Node.checkLength_errorAnswer hn hm he) (by trivial)).mono
  unfold onOpenMessage
  split
  · -- its flags are illegal
    rename_i e he
    split
    · obtain rfl := Header.eq_of_checkFlags_error he
      exact complains ((Failure.wording_invalidMessage _).trans (by decide))
    · exact ((Endures.refl hw).report e).mono
  split
  · -- a CER would end the connection; `hd` excludes it
    rename_i hc
    rw [isBaseCommand_iff] at hc
    exact absurd ⟨hc.1, .inr hc.2⟩ hd
  split
  · -- its origin is not the bound peer, and the report quotes the host
    rename_i host hs
    dsimp only
    split
    · have := Message.utf8ByteSize_text? (originHost?_of_stranger? hs)
      refine complains ?_
      rw [Failure.wording_unknownPeer]
      omega
    · exact (endures_failExchange hw _ _).report _
  · exact endures_onPeerMessage hn hw ho hl link hm hd

include hn hw ho in
lemma endures_onReceived {l : Link} (hl : t.conn.link? side = some l) (link : Nat) {m : Message}
    (hm : Avp.wireLengthAll m.avps ≤ 2 ^ 16) (hd : ¬ m.header.IsDrastic) :
    t.Endures [m.header.hopByHop] (t.onReceived site side link m) := by
  by_cases ha : t.conn.activeSide? = some side
  · rw [onReceived_of_activeSide? site link m ha]
    exact endures_onOpenMessage hn hw ho hl link hm hd
  · have hp : t.conn.phase = .rOpen ∨ t.conn.phase = .iOpen := by
      simpa [Phase.isOpen] using ho
    have hr : t.onReceived site side link m = t.notAcceptable "Rcv-Message" := by
      rcases hp with hp | hp <;> simp [onReceived, hp, ha]
    rw [hr]
    exact ((Endures.refl hw).notAcceptable _).mono

include hn hw ho in
lemma endures_onReceivedInvalid {l : Link} (hl : t.conn.link? side = some l) (h : Header)
    {e : Failure} (he : e.wording ≤ 2 ^ 17) :
    t.Endures [h.hopByHop] (t.onReceivedInvalid site side h e) := by
  have hc : t.conn.phase ≠ .waitCer ∧ t.conn.phase ≠ .waitICea ∧ t.conn.phase ≠ .waitReturns := by
    -- the phases in which it would do harm come before the connection is open
    refine ⟨?_, ?_, ?_⟩ <;>
    · intro hp
      rw [hp] at ho
      cases ho
  unfold onReceivedInvalid
  dsimp only
  split
  · -- a request
    rw [if_neg hc.1]
    split
    · exact ((Endures.refl hw).write hl (Node.checkLength_headerErrorAnswer hn h he)
        (by trivial)).mono
    · exact ((Endures.refl hw).report e).mono
  · -- an answer
    simp only [hc.2.1, hc.2.2, decide_false, Bool.or_self, Bool.and_false, Bool.false_and,
      Bool.false_eq_true, if_false]
    split
    · exact (endures_failExchange hw _ _).report e
    · exact ((Endures.refl hw).report e).mono

include hn hw ho in
lemma endures_frame (link : Nat) {h : Header} {body : Octets}
    (hb : body.length ≤ 2 ^ 16) (hd : ¬ h.IsDrastic) :
    t.Endures [h.hopByHop] (t.handle site (Network.eventOf link (.ofFrame h body))) := by
  unfold Frame.Delivery.ofFrame
  cases hm : Message.ofBody h body with
  | ok m =>
    obtain rfl : m.header = h := (Message.ofBody_eq_ok hm).1
    have hm : Avp.wireLengthAll m.avps ≤ 2 ^ 16 := Message.wireLengthAll_ofBody hm ▸ hb
    show t.Endures _ (t.handle site (.received link m))
    dsimp only [handle]
    split
    · rename_i side hs
      obtain ⟨l, hl, -⟩ := Connection.link?_of_sideOf? hs
      exact endures_onReceived hn hw ho hl link hm hd
    · exact (Endures.refl hw).mono
  | error e =>
    have he : e.wording ≤ 200 := Message.wording_ofBody (hb.trans_lt (by decide)) hm
    show t.Endures _ (t.handle site (.receivedInvalid link h e))
    dsimp only [handle]
    split
    · rename_i side hs
      obtain ⟨l, hl, -⟩ := Connection.link?_of_sideOf? hs
      exact endures_onReceivedInvalid hn hw ho hl h (he.trans (by decide))
    · exact (Endures.refl hw).mono

end Frames

lemma endures_handled (hw : t.conn.writing = none) (link : Nat) {m : Message}
    (hm : m.checkLength = .ok ()) : t.Endures [] (t.handle site (.handled link m)) := by
  dsimp only [handle, onHandled]
  split
  · rename_i side l hs hl
    split
    · have hl : t.conn.link? side = some l := by
        rwa [Connection.activeLink?, hs] at hl
      exact (Endures.refl hw).write hl hm (by trivial)
    · exact .refl hw
  · exact .refl hw

lemma endures_settle (hw : t.conn.writing = none) {g : Goal} (hg : g.IsReply) (m : Message) :
    t.Endures [] (t.settle site g m none) := by
  cases g with
  | answer => exact .refl hw
  | complain e => exact (Endures.refl hw).report e
  | _ => cases hg

end Turn

/-! ### Handlers -/

namespace Registry

variable {registry : Registry} {site : Site} {h : Header} {body : Octets} {request : Message}

/-- What is made of the answer of a handler can be written, for every request that comes in a frame
that is accepted. -/
def Fits (registry : Registry) (site : Site) : Prop :=
  ∀ h body request handler, Header.size + body.length ≤ site.settings.maxMessageSize →
    Message.ofBody h body = .ok request →
    registry.lookup request.header.application request.header.command = .ok handler →
    (registry.dispatch site.node request).checkLength = .ok ()

lemma lookup_eq_error {application command : UInt32} {e : Failure}
    (h : registry.lookup application command = .error e) : ∃ fault, e = .invalidMessage fault := by
  unfold lookup at h
  split at h
  · cases h
  · split at h
    · exact ⟨_, (Except.error.inj h).symm⟩
    · exact ⟨_, (Except.error.inj h).symm⟩

lemma Fits.checkLength (hr : registry.Fits site) (hn : site.node.Valid)
    (hmax : site.settings.maxMessageSize ≤ 65536)
    (hs : Header.size + body.length ≤ site.settings.maxMessageSize)
    (hm : Message.ofBody h body = .ok request) :
    (registry.dispatch site.node request).checkLength = .ok () := by
  cases hl : registry.lookup request.header.application request.header.command with
  | ok handler => exact hr h body request handler hs hm hl
  | error e =>
    obtain ⟨fault, rfl⟩ := lookup_eq_error hl
    have hd : registry.dispatch site.node request =
        site.node.errorAnswer request (.invalidMessage fault) := by
      rw [dispatch, hl]
    have ha := Message.wireLengthAll_ofBody hm
    rw [hd]
    exact Node.checkLength_errorAnswer hn (by omega)
      ((Failure.wording_invalidMessage fault).trans (by decide))

lemma fits_obliging (hn : site.node.Valid) (hmax : site.settings.maxMessageSize ≤ 65536)
    (application command : UInt32) :
    (register {} application command fun m => .answer (site.node.answer m .success)).Fits site := by
  intro h body request handler hs hm hl
  have hh : handler = fun m => .answer (site.node.answer m .success) := by
    unfold lookup register at hl
    split at hl
    · rename_i x hx
      obtain rfl := List.mem_singleton.mp (List.mem_of_find?_eq_some hx)
      exact (Except.ok.inj hl).symm
    · split at hl <;> cases hl
  have hd (r : Registry)
      (hr : r.lookup request.header.application request.header.command = .ok handler) :
      (r.dispatch site.node request).length = (site.node.answer request .success).length := by
    rw [dispatch, hr, hh]
    rfl
  have := Node.length_answer_le hn request .success
  have := Message.wireLengthAll_ofBody hm
  rw [Message.checkLength_eq_ok, hd _ hl]
  omega

end Registry

/-! ### Conversations -/

/-- What is given to a connection in a conversation whose writes succeed: frames, but for the
drastic ones, and answers of handlers to what came in frames. -/
inductive Talk (site : Site) (registry : Registry) : Input → Prop
  | frame (link : Nat) {h : Header} {body : Octets}
    (hs : Header.size + body.length ≤ site.settings.maxMessageSize) (hd : ¬ h.IsDrastic) :
    Talk site registry (.event (Network.eventOf link (.ofFrame h body)))
  | answer (link : Nat) {h : Header} {body : Octets} {request : Message}
    (hs : Header.size + body.length ≤ site.settings.maxMessageSize)
    (hm : Message.ofBody h body = .ok request) :
    Talk site registry (.event (.handled link (registry.dispatch site.node request)))
  | written : Talk site registry (.written none)

/-- The exchange that an input from a stream names. -/
def Input.heard : Input → List UInt32
  | .event (.received _ m) => [m.header.hopByHop]
  | .event (.receivedInvalid _ h _) => [h.hopByHop]
  | _ => []

lemma Input.heard_frame (link : Nat) (h : Header) (body : Octets) :
    (Input.event (Network.eventOf link (.ofFrame h body))).heard = [h.hopByHop] := by
  unfold Frame.Delivery.ofFrame
  cases hm : Message.ofBody h body with
  | ok m =>
    obtain rfl : m.header = h := (Message.ofBody_eq_ok hm).1
    rfl
  | error e => rfl

variable {site : Site} {registry : Registry} {c c₀ : Connection} {bs : List Beat} {b : Beat}

namespace Beat

/-- The exchanges that were named in the turns of a run. -/
def heard (bs : List Beat) : List UInt32 := bs.flatMap fun b => b.input.heard

lemma heard_concat (bs : List Beat) (b : Beat) :
    heard (bs ++ [b]) = heard bs ++ b.input.heard := by
  simp [heard]

lemma lasts_begun (b : Beat) : b.conn.Lasts [] b.begun.conn := by
  unfold begun
  cases b.input <;> exact .of_eq rfl rfl rfl

/-- One turn of a conversation. -/
lemma lasts_turn (hn : site.node.Valid) (hmax : site.settings.maxMessageSize ≤ 65536)
    (hr : registry.Fits site) (ht : b.conn.Takes b.input) (hb : Talk site registry b.input)
    (ho : b.conn.phase.isOpen) (hw : ∀ w, b.conn.writing = some w → w.goal.IsReply) :
    b.conn.Lasts b.input.heard (b.turn site).conn ∧
      ∀ w, (b.turn site).conn.writing = some w → w.goal.IsReply := by
  suffices h : ∃ t : Turn, b.conn.Lasts [] t.conn ∧ t.Endures b.input.heard (b.turn site) by
    obtain ⟨t, hl, hc⟩ := h
    exact ⟨hl.trans hc.lasts, hc.reply⟩
  generalize hi : b.input = i at hb ht
  cases hb with
  | frame link hs hd =>
    have hwb : b.begun.conn.writing = none := writing_begun_of_event (hi ▸ ht) hi
    have hob : b.begun.conn.phase.isOpen := by
      rw [b.lasts_begun.phase]
      exact ho
    refine ⟨b.begun, b.lasts_begun, ?_⟩
    rw [Input.heard_frame, turn_event hi]
    exact Turn.endures_frame hn hwb hob link (by omega) hd
  | answer link hs hm =>
    have hwb : b.begun.conn.writing = none := writing_begun_of_event (hi ▸ ht) hi
    refine ⟨b.begun, b.lasts_begun, ?_⟩
    rw [turn_event hi]
    exact Turn.endures_handled hwb link (hr.checkLength hn hmax hs hm)
  | written =>
    cases ht with
    | @written w hb =>
      refine ⟨{ b.begun with conn.writing := none }, ?_, ?_⟩
      · have hl := b.lasts_begun
        exact ⟨hl.phase, hl.identity, hl.pending⟩
      · rw [turn_written hi hb]
        exact Turn.endures_settle rfl (hw w hb) w.message

end Beat

namespace Connection.Run

lemma lasts (hn : site.node.Valid) (hmax : site.settings.maxMessageSize ≤ 65536)
    (hr : registry.Fits site) (h : Run site c₀ bs c) (ho : c₀.phase.isOpen)
    (hw : ∀ w, c₀.writing = some w → w.goal.IsReply) (hb : ∀ b ∈ bs, Talk site registry b.input) :
    c₀.Lasts (Beat.heard bs) c ∧ ∀ w, c.writing = some w → w.goal.IsReply := by
  induction h with
  | nil => exact ⟨.refl c₀, hw⟩
  | ring h time ih =>
    obtain ⟨hl, hc⟩ := ih hb
    exact ⟨⟨hl.phase, hl.identity, hl.pending⟩, hc⟩
  | @turn bs b h ht ih =>
    obtain ⟨hl, hc⟩ := ih fun d hd => hb d (List.mem_append_left _ hd)
    have htb : Talk site registry b.input :=
      hb b (List.mem_append_right _ (List.mem_singleton_self b))
    obtain ⟨hlb, hcb⟩ := b.lasts_turn hn hmax hr ht htb (hl.phase ▸ ho) hc
    rw [Beat.heard_concat]
    exact ⟨hl.trans hlb, hcb⟩

/-- **An open connection cannot be talked down.** Handlers keep to the limit, and frames of at most
65536 octets are accepted. Then, from whatever open connection a conversation begins, and whatever
happened before, the connection is still in the same phase afterwards and bound to the same peer,
and no exchange has ended but those that were named. A conversation may be a single frame, or the
answer to a request of long ago. -/
theorem withstands {s : Settings} {i : UInt32} (hn : Node.ofSettings s i = .ok site.node)
    (hmax : site.settings.maxMessageSize ≤ 65536) (hr : registry.Fits site)
    (h : Run site c₀ bs c) (ho : c₀.phase.isOpen) (hw : c₀.writing = none)
    (hb : ∀ b ∈ bs, Talk site registry b.input) : c₀.Lasts (Beat.heard bs) c :=
  (h.lasts (Node.valid_of_ofSettings hn) hmax hr ho (by simp [hw]) hb).1

/-- A request with illegal flags is answered, another is dispatched, then something unreadable
comes, and the handler's answer goes out. The exchange that was pending is pending still. -/
theorem withstands_badFlags :
    let site : Site := ⟨.plain "a", {}⟩
    let registry := Registry.register {} 4 272 fun m => .answer (site.node.answer m .success)
    let header (flags : UInt8) (hopByHop : UInt32) : Header := ⟨1, flags, 272, 4, hopByHop, 0⟩
    let x : Exchange := ⟨3, header 0xC0 9, none, 0⟩
    let c₀ : Connection :=
      { phase := .rOpen, identity := some ⟨"b", "realm", [.auth 4]⟩, responder := some ⟨1, 0⟩
        attached := 1, pending := ⟨[x]⟩ }
    let frame (h : Header) (body : Octets) : Input :=
      .event (Network.eventOf 1 (.ofFrame h body))
    let said : List Input :=
      [frame (header 0xA0 5) [], .written none, frame (header 0x80 6) [], frame (header 0 7) [1],
        .event (.handled 1 (registry.dispatch site.node ⟨header 0x80 6, []⟩)), .written none]
    let c := (c₀.play site said).2
    c.phase = .rOpen ∧ c.identity.isSome ∧ x ∈ c.pending.entries := by
  intro site registry header x c₀ frame said c
  have hn : Node.ofSettings
      { host := "a", realm := "realm", addresses := [.v4 0x0A000001], applications := [.auth 4] }
      1 = .ok site.node := by decide +kernel
  have hr : registry.Fits site :=
    Registry.fits_obliging (Node.valid_of_ofSettings hn) (by decide) 4 272
  have hp : c₀.plays site said = true := by decide +kernel
  have hc : Run site c₀ (c₀.play site said).1 c := Run.play .nil hp
  have hd (flags : UInt8) (k : UInt32) : ¬ (header flags k).IsDrastic := by
    rintro ⟨hb, -⟩
    exact absurd hb (by show ¬ ((4 : UInt32) == 0) = true; decide)
  have hm : Message.ofBody (header 0x80 6) [] = .ok ⟨header 0x80 6, []⟩ := by decide +kernel
  have ht : ∀ i ∈ said, Talk site registry i := by
    simp only [said, List.forall_mem_cons, List.not_mem_nil, false_imp_iff, implies_true, and_true]
    exact ⟨.frame 1 (by decide) (hd 0xA0 5), .written, .frame 1 (by decide) (hd 0x80 6),
      .frame 1 (by decide) (hd 0 7), .answer 1 (by decide) hm, .written⟩
  have hl : c₀.Lasts (Beat.heard _) c :=
    withstands hn (by decide) hr hc rfl rfl fun b hb => ht b.input (mem_play hb)
  refine ⟨hl.phase, ?_, hl.pending x (List.mem_singleton_self x) (by decide +kernel)⟩
  rw [hl.identity]
  rfl

end Connection.Run

end Diameter
