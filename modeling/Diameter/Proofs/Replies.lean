import Diameter.Proofs.Dispatches

/-!
What a turn does with the answers that a connection owes.

A request may be answered in the turn it came with, its answer may be kept for the election, or it
goes to the registry; and an answer that was kept, or one that a handler has made, may be written.
`Beat.Serves` lists all there is. Main statements: `Beat.serves`, and `Beat.Presents.served` for
the requests that may not be passed over.
-/

namespace Diameter

/-- What is written is the answer to a request. -/
def Goal.isReply : Goal → Bool
  | .accept _ | .reject _ | .turnAway _ _ | .complain _ | .answer | .farewell => true
  | .introduce _ | .request | .disconnect | .probe _ => false

namespace Shape

/-- The answer that is being written, and its stream. -/
def reply? (s : Shape) : Option (Link × Message) :=
  (s.writing.filter (·.goal.isReply)).map fun w => (w.link, w.message)

/-- The answer that is kept for the election, and its stream. -/
def kept? (s : Shape) : Option (Link × Message) :=
  s.responder.bind fun link => s.cachedCea.map fun cea => (link, cea)

lemma reply?_of_writing {s : Shape} (h : s.writing = none) : s.reply? = none := by
  rw [reply?, h]
  rfl

lemma reply?_eq_some {s : Shape} {link : Link} {m : Message} (h : s.reply? = some (link, m)) :
    ∃ w, s.writing = some w ∧ w.goal.isReply ∧ w.link = link ∧ w.message = m := by
  obtain ⟨w, hw, he⟩ := Option.map_eq_some_iff.mp h
  obtain ⟨hs, hg⟩ := Option.filter_eq_some_iff.mp hw
  exact ⟨w, hs, hg, congrArg Prod.fst he, congrArg Prod.snd he⟩

end Shape

/-- A stream is the only one, and carries traffic. -/
structure Connection.Carries (c : Connection) (side : Side) (link : Link) : Prop where
  active : c.activeSide? = some side
  attached : c.link? side = some link
  found : c.sideOf? link.id = some side
  alone : ∀ side' k, c.link? side' = some k → k = link

lemma Connection.Carries.activeLink? {c : Connection} {side : Side} {link : Link}
    (h : c.Carries side link) : c.activeLink? = some link := by
  simp [Connection.activeLink?, h.active, h.attached]

variable {site : Site} {expected : Option String} {n n' : Nat} {s s' : Stage} {side : Side}
  {link : Link} {c : Connection} {b : Beat}

namespace Stage

lemma carries {closing : Bool} {peer : PeerIdentity} {v : Option Writing}
    (hc : c.shape = (running closing side link peer v).shape expected n) : c.Carries side link := by
  have hp : c.phase = _ := congrArg Shape.phase hc
  have hi : c.initiator = _ := congrArg Shape.initiator hc
  have hr : c.responder = _ := congrArg Shape.responder hc
  constructor
  · cases closing <;> cases side <;> simp_all [Connection.activeSide?, phase, shape]
  · cases side
    · exact hi
    · exact hr
  · cases side <;> simp_all [Connection.sideOf?, shape]
  · intro side' k hk
    cases side <;> cases side' <;> simp_all [Connection.link?, shape]

lemma eq_running (hc : c.shape = s.shape expected n) (hs : s.Sound)
    (ha : c.activeLink? = some link) :
    ∃ closing side peer v, s = .running closing side link peer v ∧ c.Carries side link := by
  obtain ⟨side, ha, hl⟩ := Option.bind_eq_some_iff.mp ha
  have hp : c.phase = s.phase := Stage.phase_of_shape hc
  have hq := hp ▸ Turn.phase_of_activeSide? ha
  have hi := isSome_peer? hs hq
  cases s with
  | running closing side' k peer v =>
    have h := carries hc
    obtain rfl := h.alone side link hl
    exact ⟨closing, side', peer, v, rfl, h⟩
  | shut => simp [phase] at hq
  | _ => simp [peer?] at hi

end Stage

namespace Turn

variable {t u : Turn} {e : Event} {g : Goal} {m : Message}

/-! ### Writing -/

lemma write_replies (hg : g.isReply) (hn : ∀ l f, g ≠ .turnAway l f)
    (hl : t.conn.link? side = some link) (hp : t.conn.phase ≠ .shutdown) :
    (t.write site side m g).conn.phase = .shutdown ∨
      (t.write site side m g).conn.shape.reply? = some (link, m) := by
  rw [write_of_link site t hl]
  rcases writeOn_cases site t link m g with ⟨-, hw⟩ | ⟨f, -, hw⟩
  · rw [hw]
    refine .inr ?_
    simp [Connection.shape, Shape.reply?, Option.filter, hg]
  · rw [hw]
    exact .inl (congrArg Shape.phase (settle_failed site t hn m f hp).1)

lemma sideOf?_of_writing {l : Nat} (hw : t.conn.writing = none)
    (h : (t.handle site e).conn.writing ≠ none)
    (he : (∃ m, e = .received l m) ∨ ∃ k f, e = .receivedInvalid l k f) :
    ∃ side, t.conn.sideOf? l = some side := by
  cases hs : t.conn.sideOf? l with
  | some side => exact ⟨side, rfl⟩
  | none =>
    rcases he with ⟨m, rfl⟩ | ⟨k, f, rfl⟩ <;> exact absurd hw (by simpa [handle, hs] using h)

lemma activeLink?_of_writing {l : Nat} {a : Message} (hw : t.conn.writing = none)
    (h : (t.handle site (.handled l a)).conn.writing ≠ none) :
    ∃ link, t.conn.activeLink? = some link ∧ link.id = l := by
  simp only [handle, onHandled] at h
  split at h
  · rename_i k _ hk
    split at h
    · exact ⟨k, hk, ‹_›⟩
    · exact absurd hw h
  · exact absurd hw h

lemma handle_handled_replies (hc : t.conn.Carries side link) (hp : t.conn.phase ≠ .shutdown)
    (a : Message) : (t.handle site (.handled link.id a)).conn.phase = .shutdown ∨
      (t.handle site (.handled link.id a)).conn.shape.reply? = some (link, a) := by
  have hh : t.handle site (.handled link.id a) = t.write site side a .answer := by
    simp [handle, onHandled, hc.active, hc.activeLink?]
  rw [hh]
  exact write_replies rfl (by simp) hc.attached hp

/-! ### Requests that may not be passed over -/

/-- A request on the stream that carries traffic, and not a CER, is answered at once or goes to the
registry, unless the connection ends. -/
lemma handle_received_served (hc : t.conn.Carries side link) (hp : t.conn.phase ≠ .shutdown)
    (hr : m.header.isRequest) (hm : m.isBaseCommand Command.capabilitiesExchange = false) :
    (t.handle site (.received link.id m)).conn.phase = .shutdown ∨
      (t.handle site (.received link.id m)).conn.shape.reply?.isSome ∨
      (t.handle site (.received link.id m)).dispatched ≠ [] := by
  have written : ∀ {v : Turn} {a : Message} {g : Goal}, v.conn.shape = t.conn.shape → g.isReply →
      (∀ l f, g ≠ .turnAway l f) → (v.write site side a g).conn.phase = .shutdown ∨
        (v.write site side a g).conn.shape.reply?.isSome ∨
        (v.write site side a g).dispatched ≠ [] := by
    intro v a g hv hg hn
    have hl : v.conn.link? side = some link := by
      rw [← hc.attached]
      cases side
      · exact congrArg Shape.initiator hv
      · exact congrArg Shape.responder hv
    have hq : v.conn.phase = t.conn.phase := congrArg Shape.phase hv
    exact (write_replies hg hn hl (hq ▸ hp)).imp_right fun h => .inl (by simp [h])
  simp only [handle, hc.found]
  rw [onReceived_of_activeSide? site _ m hc.active]
  unfold onOpenMessage
  split
  · -- illegal flags
    rw [if_pos hr]
    exact written rfl rfl (by simp)
  · rw [if_neg (by simp [hm])]
    split
    · -- a stranger
      dsimp only
      rw [if_pos hr]
      exact written rfl rfl (by simp)
    · rw [onPeerMessage_eq]
      simp only [hr, if_true]
      split
      · -- a watchdog request
        exact written (shape_stir site t) rfl (by simp)
      · split
        · -- a disconnect request
          exact written (shape_stir site t) rfl (by simp)
        · -- any other request goes to the registry
          refine .inr (.inr ?_)
          simp [dispatched, emit, Effect.dispatch?, List.filterMap_append]

lemma handle_receivedInvalid_served (hc : t.conn.Carries side link)
    (hp : t.conn.phase ≠ .shutdown) {h : Header} (hr : h.isRequest) (f : Failure) :
    (t.handle site (.receivedInvalid link.id h f)).conn.phase = .shutdown ∨
      (t.handle site (.receivedInvalid link.id h f)).conn.shape.reply?.isSome := by
  have hw : t.conn.phase ≠ .waitCer := by
    rcases phase_of_activeSide? hc.active with hq | hq | hq <;> simp [hq]
  simp only [handle, hc.found, onReceivedInvalid, hr, if_true, if_neg hw, hc.active]
  exact (write_replies rfl (by simp) hc.attached hp).imp_right fun h => by simp [h]

end Turn

lemma Turn.Utters.isRequest {t : Turn} {e : Event} {g : Goal} {m : Message}
    (h : t.Utters site e m g) (hg : g.isReply = false) (hn : g ≠ .request) :
    m.header.isRequest := by
  cases h with
  | introduces | disconnects | probes => exact Node.isRequest_requestHeader _ _
  | requests => exact absurd rfl hn
  | _ => exact absurd hg (by simp [Goal.isReply])

/-! ### Turns of a run -/

namespace Beat

/-- A turn that leads from stage to stage. -/
inductive Staged (site : Site) (expected : Option String) (b : Beat) : Prop
  | intro {n n' : Nat} {s s' : Stage} (hs : s.Sound) (hc : b.conn.shape = s.shape expected n)
    (ht : b.conn.Takes b.input)
    (hn : Next site expected n s b.input (b.turn site).outline n' s')
    (hc' : (b.turn site).conn.shape = s'.shape expected n')

end Beat

lemma Connection.Run.staged {first : Event} {bs : List Beat}
    (h : Run site (fresh expected first) bs b.conn) (hf : first.IsOpening)
    (ht : b.conn.Takes b.input) : b.Staged site expected := by
  obtain ⟨n, s, n', s', hc, hs, hn, hc'⟩ := h.next hf ht
  exact ⟨hs, hc, ht, hn, hc'⟩

namespace Beat

/-- What a turn on an event does with the answers that are owed. -/
inductive Serves (site : Site) (b : Beat) : Prop
  /-- None begins to be written, and one that was kept may be forgotten. -/
  | idle (hr : (b.turn site).conn.shape.reply? = none)
    (hk : (b.turn site).conn.shape.kept? = b.conn.shape.kept? ∨
      (b.turn site).conn.shape.kept? = none)
    (hd : (b.turn site).dispatched = [])
  /-- The answer to a request that has just come begins to be written. -/
  | replies {link : Link} {h : Header} {m : Message} (ha : b.Asks site link h)
    (hm : m.header.Replies h) (hr : (b.turn site).conn.shape.reply? = some (link, m))
    (hk : (b.turn site).conn.shape.kept? = none) (hd : (b.turn site).dispatched = [])
  /-- It is kept for the election. -/
  | keeps {link : Link} {h : Header} {m : Message} (ha : b.Asks site link h)
    (hm : m.header.Replies h) (hr : (b.turn site).conn.shape.reply? = none)
    (hk : (b.turn site).conn.shape.kept? = some (link, m)) (hd : (b.turn site).dispatched = [])
  /-- The answer that was kept begins to be written. -/
  | recalls {link : Link} {m : Message} (ho : b.conn.shape.kept? = some (link, m))
    (ha : b.conn.activeLink? = none) (hr : (b.turn site).conn.shape.reply? = some (link, m))
    (hk : (b.turn site).conn.shape.kept? = none) (hd : (b.turn site).dispatched = [])
  /-- The answer that a handler has made begins to be written. -/
  | relays {link : Link} {m : Message} (hi : b.input = .event (.handled link.id m))
    (ha : b.conn.activeLink? = some link) (hr : (b.turn site).conn.shape.reply? = some (link, m))
    (hk : (b.turn site).conn.shape.kept? = none) (hd : (b.turn site).dispatched = [])
  /-- A request that has just come goes to the registry. -/
  | hands {link : Link} {m : Message} (hi : b.input = .event (.received link.id m))
    (ha : b.conn.activeLink? = some link) (hm : m.header.isRequest)
    (hr : (b.turn site).conn.shape.reply? = none) (hk : (b.turn site).conn.shape.kept? = none)
    (hd : (b.turn site).dispatched = [(link.id, m)])

/-- A request that may not be passed over has come on the stream that carries traffic: not a CER, or
one of which only the header can be read. -/
inductive Presents (b : Beat) (link : Link) : Header → Prop
  | whole {m : Message} (hi : b.input = .event (.received link.id m))
    (ha : b.conn.activeLink? = some link) (hr : m.header.isRequest)
    (hm : m.isBaseCommand Command.capabilitiesExchange = false) : Presents b link m.header
  | header {h : Header} {f : Failure} (hi : b.input = .event (.receivedInvalid link.id h f))
    (ha : b.conn.activeLink? = some link) (hr : h.isRequest) : Presents b link h

lemma carries_begun {e : Event} (hi : b.input = .event e) (h : b.conn.Carries side link) :
    b.begun.conn.Carries side link := by
  rw [conn_begun hi]
  exact ⟨h.active, h.attached, h.found, h.alone⟩

lemma activeLink?_eq_none (hc : b.conn.shape = s.shape expected n) (hs : s.Sound)
    (hn : ∀ closing side link peer v, s ≠ .running closing side link peer v) :
    b.conn.activeLink? = none := by
  cases ha : b.conn.activeLink? with
  | none => rfl
  | some link =>
    obtain ⟨closing, side, peer, v, he, -⟩ := Stage.eq_running hc hs ha
    exact absurd he (hn closing side link peer v)

/-- Traffic that begins to be written is a request of this end, the answer to a request that has
just come, or what a handler has made. -/
lemma serves_write {closing : Bool} {peer : PeerIdentity} {e : Event} {m : Message} {g : Goal}
    {d : Nat} (ht : b.conn.Takes b.input) (hi : b.input = .event e)
    (hc : b.conn.shape = (Stage.running closing side link peer none).shape expected n)
    (hc' : (b.turn site).conn.shape =
      (Stage.running closing side link peer (some ⟨link, m, g, d⟩)).shape expected n)
    (hg : g.IsTraffic closing) (hd : (b.turn site).dispatched = []) : b.Serves site := by
  have hcar := Stage.carries hc
  have hcar' := carries_begun hi hcar
  have hw : (b.turn site).conn.writing = some ⟨link, m, g, d⟩ := by
    cases side <;> exact congrArg Shape.writing hc'
  have hk : ∀ {v : Option Writing},
      ((Stage.running closing side link peer v).shape expected n).kept? = none := by
    intro v
    cases side <;> rfl
  have hk' : (b.turn site).conn.shape.kept? = none := by rw [hc', hk]
  have hr : (b.turn site).conn.shape.reply? = if g.isReply then some (link, m) else none := by
    have hs : (b.turn site).conn.shape.writing = some ⟨link, m, g, d⟩ := hw
    rw [Shape.reply?, hs]
    cases hq : g.isReply <;> simp [Option.filter, hq]
  have hb := writing_begun_of_event ht hi
  have hn : (b.begun.handle site e).conn.writing ≠ none := by
    rw [← turn_event hi, hw]
    simp
  -- What begins to be written because of a message answers a request on the same stream.
  have came : ∀ {l : Nat}, ((∃ m, e = .received l m) ∨ ∃ k f, e = .receivedInvalid l k f) →
      l = link.id := by
    intro l he
    obtain ⟨side', hl⟩ := Turn.sideOf?_of_writing hb hn he
    obtain ⟨k, hk, rfl⟩ := Connection.link?_of_sideOf? hl
    rw [hcar'.alone side' k hk]
  obtain ⟨e', hi', hu⟩ := b.utters ht hw
  obtain rfl : e = e' := Input.event.inj (hi.symm.trans hi')
  cases hu with
  | @complains l k hq =>
    obtain rfl := came (.inl ⟨k, rfl⟩)
    exact .replies (.whole hi hcar.attached hq) (Node.answerHeader_replies k.header _) hr hk' hd
  | @reassures l k hq | @departs l k hq =>
    obtain rfl := came (.inl ⟨k, rfl⟩)
    exact .replies (.whole hi hcar.attached hq) (Node.answerHeader_replies k.header .success) hr
      hk' hd
  | @complainsInvalid l k hq f =>
    obtain rfl := came (.inr ⟨k, f, rfl⟩)
    exact .replies (.header hi hcar.attached hq) (Node.answerHeader_replies k _) hr hk' hd
  | answers l =>
    obtain ⟨k, ha, rfl⟩ := Turn.activeLink?_of_writing hb hn
    obtain rfl := Option.some.inj (hcar'.activeLink?.symm.trans ha)
    exact .relays hi hcar.activeLink? hr hk' hd
  | requests | disconnects | probes => exact .idle hr (.inr hk') hd
  | _ => exact hg.elim

/-- **What a turn on an event does with the answers that are owed.** -/
theorem Staged.serves (hb : b.Staged site expected) {e : Event} (hi : b.input = .event e) :
    b.Serves site := by
  obtain @⟨n, n', s, s', hs, hc, ht, hn, hc'⟩ := hb
  rcases b.hands site ht with hd | ⟨link, m, hm, ha, hr, hd, hb⟩
  swap
  · obtain ⟨closing, side, peer, v, rfl, hcar⟩ := Stage.eq_running hc hs ha
    have hw : (b.turn site).conn.shape.writing = none := by
      rw [hb]
      exact writing_begun_of_event ht hi
    refine .hands hm ha hr (Shape.reply?_of_writing hw) ?_ hd
    have hk : b.begun.conn.shape.kept? = b.conn.shape.kept? := by rw [conn_begun hi]; rfl
    rw [hb, hk, hc]
    cases side <;> rfl
  -- The answer to a request that has come along with its stream.
  have along : ∀ {stream cer}, b.input = .event (.acceptedCer stream cer) →
      .listen ⟨n + 1, stream⟩ ∈ (b.turn site).outline →
      b.Asks site ⟨n + 1, stream⟩ cer.header := fun hi hl =>
    .along hi ((Turn.mem_outline rfl).mp hl)
  have inactive := activeLink?_eq_none hc hs
  generalize hj : b.input = j at hn
  generalize hout : (b.turn site).outline = out at hn
  cases hn with
  | acceptFirst =>
    exact .replies (along hj (hout ▸ List.mem_cons_self)) (site.node.cea_replies _ _)
      (by rw [hc']; rfl) (by rw [hc']; rfl) hd
  | rejectFirst | turnAway =>
    exact .replies (along hj (hout ▸ List.mem_cons_self)) (Node.answerHeader_replies _ _)
      (by rw [hc']; rfl) (by rw [hc']; rfl) hd
  | acceptAwaited hm =>
    exact .replies (.whole hj (Stage.awaiting hc).2.2 (Message.isRequest_of_isCer hm))
      (site.node.cea_replies _ _) (by rw [hc']; rfl) (by rw [hc']; rfl) hd
  | rejectAwaited =>
    obtain ⟨k, hk, hm⟩ := b.asks_of_rejects ht hc (congrArg Shape.writing hc')
    exact .replies hk hm (by rw [hc']; rfl) (by rw [hc']; rfl) hd
  | court | challenge =>
    exact .keeps (along hj (hout ▸ List.mem_cons_self)) (site.node.cea_replies _ _)
      (by rw [hc']; rfl) (by rw [hc']; rfl) hd
  | undialed | win | ownLost =>
    exact .recalls (by rw [hc]; rfl) (inactive (by simp)) (by rw [hc']; rfl) (by rw [hc']; rfl) hd
  | write hl hg => exact serves_write ht hj hc hc' hg hd
  | introduced | elect | turnedAway | accepted | written | part | partAndFall =>
    exact absurd (hi.symm.trans hj) (by simp)
  | introduce => exact .idle (by rw [hc']; rfl) (.inl (by rw [hc', hc]; rfl)) hd
  | stay | refuse =>
    refine .idle (Shape.reply?_of_writing ?_) (.inl (by rw [hc', hc])) hd
    have hw := writing_begun_of_event ht hi
    rw [hc', ← hc]
    exact b.writing_begun.symm.trans hw
  | @turnAwayUnanswered i => cases i <;> exact .idle (by rw [hc']; rfl) (.inr (by rw [hc']; rfl)) hd
  | _ => exact .idle (by rw [hc']; rfl) (.inr (by rw [hc']; rfl)) hd

/-- **A request is not passed over**: it is answered at once or goes to the registry, unless the
connection ends. -/
theorem Presents.served {h : Header} (hp : b.Presents link h) (hb : b.Staged site expected) :
    (b.turn site).conn.phase = .shutdown ∨ (b.turn site).conn.shape.reply?.isSome ∨
      (b.turn site).dispatched ≠ [] := by
  obtain ⟨hs, hc, ht, -, -⟩ := hb
  have hq : b.begun.conn.phase ≠ .shutdown :=
    (congrArg Duty.phase b.duty_begun).trans_ne (Stage.prompt hc hs ht).1
  cases hp with
  | whole hi ha hr hm =>
    obtain ⟨_, side, _, _, -, hcar⟩ := Stage.eq_running hc hs ha
    rw [turn_event hi]
    exact Turn.handle_received_served (carries_begun hi hcar) hq hr hm
  | header hi ha hr =>
    obtain ⟨_, side, _, _, -, hcar⟩ := Stage.eq_running hc hs ha
    rw [turn_event hi]
    exact (Turn.handle_receivedInvalid_served (carries_begun hi hcar) hq hr _).imp_right .inl

lemma Presents.handed {h : Header} (hp : b.Presents link h) (hb : b.Staged site expected)
    (hn : (b.turn site).conn.shape.reply? = none) :
    (b.turn site).conn.phase = .shutdown ∨ (b.turn site).dispatched ≠ [] :=
  (hp.served hb).imp_right fun hs => hs.resolve_left (by simp [hn])

namespace Staged

lemma relayed (hb : b.Staged site expected) (ha : b.conn.activeLink? = some link) {a : Message}
    (hi : b.input = .event (.handled link.id a)) :
    (b.turn site).conn.phase = .shutdown ∨ (b.turn site).conn.shape.reply? = some (link, a) := by
  obtain ⟨hs, hc, ht, -, -⟩ := hb
  obtain ⟨_, side, _, _, -, hcar⟩ := Stage.eq_running hc hs ha
  rw [turn_event hi]
  exact Turn.handle_handled_replies (carries_begun hi hcar)
    ((congrArg Duty.phase b.duty_begun).trans_ne (Stage.prompt hc hs ht).1) a

lemma active (hb : b.Staged site expected) (ha : b.conn.activeLink? = some link) :
    (b.turn site).conn.phase = .shutdown ∨
      (b.turn site).conn.activeLink? = some link ∧ ∀ f, b.input ≠ .written (some f) := by
  obtain ⟨hs, hc, -, hn, hc'⟩ := hb
  obtain ⟨closing, side, peer, v, he, -⟩ := Stage.eq_running hc hs ha
  have hp := Stage.phase_of_shape hc'
  generalize b.input = i, (b.turn site).outline = out at hn
  cases hn with
  | fall | partAndFall => exact .inl hp
  | write | written | part | stay | refuse =>
    cases he
    exact .inr ⟨(Stage.carries hc').activeLink?, by simp⟩
  | @turnAway i | @turnAwayUnanswered i => cases i <;> cases he
  | _ => cases he

lemma settled (hb : b.Staged site expected) {result : Option Failure}
    (hi : b.input = .written result) : (b.turn site).conn.shape.reply? = none ∧
      ((b.turn site).conn.shape.kept? = b.conn.shape.kept? ∨
        (b.turn site).conn.shape.kept? = none) ∧ (b.turn site).dispatched = [] := by
  obtain ⟨hs, hc, ht, hn, hc'⟩ := hb
  refine ⟨Shape.reply?_of_writing ?_, ?_, ?_⟩
  · -- an answer begins to be written with an event only
    cases hw : (b.turn site).conn.writing with
    | none => exact hw
    | some w =>
      obtain ⟨e, he, -⟩ := b.utters ht hw
      exact absurd (hi.symm.trans he) (by simp)
  · -- a write that has ended keeps an answer only while the election is on
    rw [hc, hc']
    rw [hi] at hn
    generalize (b.turn site).outline = out at hn
    cases hn with
    | elect => exact .inl rfl
    | @turnedAway i => cases i <;> exact .inr rfl
    | @written closing side => cases side <;> exact .inr rfl
    | @part side => cases side <;> exact .inr rfl
    | _ => exact .inr rfl
  · -- nothing is handed to the registry either
    rcases b.hands site ht with hd | ⟨link, m, hm, -⟩
    · exact hd
    · exact absurd (hi.symm.trans hm) (by simp)

end Staged

end Beat

namespace Connection.Run

variable {first : Event} {bs : List Beat}

lemma kept?_eq_none (h : Run site (fresh expected first) bs c) (hf : first.IsOpening)
    (ha : c.activeLink? = some link) : c.shape.kept? = none := by
  obtain ⟨n, s, hs, hc⟩ := h.course hf
  obtain ⟨_, side, _, _, rfl, -⟩ := Stage.eq_running hc (hs.sound hf) ha
  rw [hc]
  cases side <;> rfl

lemma phase_of_link? (h : Run site (fresh expected first) bs c) (hf : first.IsOpening)
    (hl : c.link? side = some link) : c.phase ≠ .shutdown := by
  intro hp
  obtain ⟨n, q, cached, hc⟩ := h.shape_of_shutdown hf hp
  have hn : c.link? side = none := by
    cases side with
    | initiator => exact congrArg Shape.initiator hc
    | responder => exact congrArg Shape.responder hc
  exact absurd (hn.symm.trans hl) (by simp)

end Connection.Run

end Diameter
