import Diameter.Proofs.Handshake
import Diameter.Proofs.Misses
import Diameter.Proofs.Strangers
import Diameter.Proofs.Utterance

/-!
What has been said and heard on the streams of a connection.

On a dialed stream this end speaks first, and then waits for the CEA that opens the connection on
it. On an accepted stream it owes an answer to the first request, and if that opens the connection
it may go on. `Stage.Told` says so for each stage, and every turn keeps it (`Stage.Told.next`). Main
statement: `Course.told`.
-/

namespace Diameter

/-- An answer has the command, the application and the identifiers of its request. -/
structure Header.Replies (a h : Header) : Prop where
  answer : a.isRequest = false
  command : a.command = h.command
  application : a.application = h.application
  hopByHop : a.hopByHop = h.hopByHop
  endToEnd : a.endToEnd = h.endToEnd

lemma Node.answerHeader_replies (h : Header) (r : ResultCode) : (answerHeader h r).Replies h where
  answer := isRequest_answerHeader h r
  command := answerHeader_keeps Header.command (fun _ => rfl) h r
  application := answerHeader_keeps Header.application (fun _ => rfl) h r
  hopByHop := answerHeader_keeps Header.hopByHop (fun _ => rfl) h r
  endToEnd := answerHeader_keeps Header.endToEnd (fun _ => rfl) h r

lemma Message.isRequest_of_isCer {m : Message} (h : m.isCer) : m.header.isRequest := by
  simp only [isCer, Bool.and_eq_true] at h
  exact h.2

lemma Node.cea_replies (n : Node) (cer : Message) (r : ResultCode) :
    (n.cea cer r).header.Replies cer.header :=
  answerHeader_replies cer.header r

namespace Beat

variable (site : Site) (b : Beat)

/-- The write that has been completed with the turn. -/
def wrote : Option Writing :=
  match b.input with
  | .written none => b.conn.writing
  | _ => none

/-- The stream is attached with the turn, as one that was dialed or accepted. -/
inductive Attaches (link : Link) : Side → Prop
  | dialed (hi : b.input = .event (.dialed link.stream))
    (hl : .listen link ∈ (b.turn site).effects) : Attaches link .initiator
  | accepted (hi : b.input = .event (.accepted link.stream))
    (hl : .listen link ∈ (b.turn site).effects) : Attaches link .responder
  | introduced {cer : Message} (hi : b.input = .event (.acceptedCer link.stream cer))
    (hl : .listen link ∈ (b.turn site).effects) : Attaches link .responder

/-- A request has come on the stream: along with it as its CER, or as a message on it, also if only
the header can be read. -/
inductive Asks (link : Link) : Header → Prop
  | along {cer : Message} (hi : b.input = .event (.acceptedCer link.stream cer))
    (hl : .listen link ∈ (b.turn site).effects) : Asks link cer.header
  | whole {side : Side} {m : Message} (hi : b.input = .event (.received link.id m))
    (hl : b.conn.link? side = some link) (hr : m.header.isRequest) : Asks link m.header
  | header {side : Side} {h : Header} {f : Failure}
    (hi : b.input = .event (.receivedInvalid link.id h f)) (hl : b.conn.link? side = some link)
    (hr : h.isRequest) : Asks link h

end Beat

/-- What has been written on a stream. -/
def wroteOn (link : Link) (bs : List Beat) : List Message :=
  bs.filterMap fun b => (b.wrote.filter (·.link = link)).map (·.message)

section Streams

variable (site : Site) (bs : List Beat)

/-- The stream has been attached, as one that was dialed or accepted. -/
def Attached (side : Side) (link : Link) : Prop := ∃ b ∈ bs, b.Attaches site link side

/-- The first request that has come on the stream. -/
def FirstAsked (link : Link) (h : Header) : Prop :=
  ∃ as a ds, bs = as ++ a :: ds ∧ a.Asks site link h ∧ ∀ d ∈ as, ∀ k, ¬ d.Asks site link k

/-- This end has introduced itself on a dialed stream, and has said nothing else there. -/
structure Greeted (link : Link) : Prop where
  attached : Attached site bs .initiator link
  said : ∃ ids, wroteOn link bs = [(site.node.cer ids).1]

/-- Nothing has been said on an accepted stream, and the message would answer the first request. -/
structure Owes (link : Link) (m : Message) : Prop where
  attached : Attached site bs .responder link
  silent : wroteOn link bs = []
  reply : ∃ h, FirstAsked site bs link h ∧ m.header.Replies h

/-- The CEA that is kept for a stream would open the connection on it. -/
structure Courts (x : Rival) : Prop where
  owes : Owes site bs x.link x.cea
  success : ∃ cer, x.cea = site.node.cea cer .success

/-- The connection has opened on the stream. -/
inductive Opened : Side → Link → Prop
  /-- This end had introduced itself, and a CEA came. -/
  | initiator {as ds : List Beat} {a : Beat} {link : Link} {cea : Message} (hb : bs = as ++ a :: ds)
    (hg : Greeted site as link) (hi : a.input = .event (.received link.id cea)) (hc : cea.isCea)
    (he : a.Enters site .iOpen) : Opened .initiator link
  /-- The CEA that was owed has been written, and it reports success. -/
  | responder {as ds : List Beat} {a : Beat} {w : Writing} {cer : Message} (hb : bs = as ++ a :: ds)
    (hw : a.wrote = some w) (ho : Owes site as w.link w.message)
    (hm : w.message = site.node.cea cer .success) (he : a.Enters site .rOpen) :
    Opened .responder w.link

/-- What has been said and heard on the streams of a stage. -/
def Stage.Told : Stage → Prop
  | closed _ | shut _ _ => True
  | dialing rival => ∀ x ∈ rival, Courts site bs x
  | introducing i rival cer _ =>
    Attached site bs .initiator i ∧ wroteOn i bs = [] ∧ (∃ ids, cer = (site.node.cer ids).1) ∧
      ∀ x ∈ rival, Courts site bs x
  | introduced i => Greeted site bs i
  | turningAway i link cea _ _ => (∀ k ∈ i, Greeted site bs k) ∧ Owes site bs link cea
  | electing i x _ => Greeted site bs i ∧ Courts site bs x
  | awaitingCer r =>
    Attached site bs .responder r ∧ wroteOn r bs = [] ∧ ∀ b ∈ bs, ∀ h, ¬ b.Asks site r h
  | accepting _ x _ => Courts site bs x
  | rejecting _ r cea _ _ => Owes site bs r cea
  | running _ side link _ _ => Opened site bs side link

/-- Streams are numbered as they are attached, each on one side, and nothing is said or heard on
others. -/
structure Orderly (n : Nat) : Prop where
  bounded : ∀ side link, Attached site bs side link → link.id ≤ n
  apart : ∀ link, Attached site bs .initiator link → ¬ Attached site bs .responder link
  asked : ∀ b ∈ bs, ∀ link h, b.Asks site link h → ∃ side, Attached site bs side link
  written : ∀ link, wroteOn link bs ≠ [] → ∃ side, Attached site bs side link

end Streams

variable {site : Site} {expected : Option String} {first : Event} {bs : List Beat} {b : Beat}
  {n n' : Nat} {s s' : Stage} {i : Input} {out : List Effect} {link : Link} {side : Side}
  {h : Header} {m : Message} {x : Rival}

/-! ### One more turn -/

lemma Beat.wrote_event {e : Event} (hi : b.input = .event e) : b.wrote = none := by
  simp [wrote, hi]

lemma Beat.wrote_written (hi : b.input = .written none) : b.wrote = b.conn.writing := by
  simp [wrote, hi]

lemma Beat.writing_of_wrote {w : Writing} (hw : b.wrote = some w) :
    b.input = .written none ∧ b.conn.writing = some w := by
  unfold wrote at hw
  split at hw
  · exact ⟨‹_›, hw⟩
  · exact absurd hw (by simp)

lemma wroteOn_concat_other (hw : ∀ w, b.wrote = some w → w.link ≠ link) :
    wroteOn link (bs ++ [b]) = wroteOn link bs := by
  have hn : (b.wrote.filter (·.link = link)).map (·.message) = none := by
    cases hb : b.wrote with
    | none => rfl
    | some w => simp [Option.filter, hw w hb]
  simp [wroteOn, List.filterMap_append, hn]

lemma wroteOn_concat_self {w : Writing} (hw : b.wrote = some w) :
    wroteOn w.link (bs ++ [b]) = wroteOn w.link bs ++ [w.message] := by
  simp [wroteOn, List.filterMap_append, hw, Option.filter]

lemma attached_concat :
    Attached site (bs ++ [b]) side link ↔
      Attached site bs side link ∨ b.Attaches site link side := by
  simp only [Attached, List.mem_append, List.mem_singleton, or_and_right, exists_or,
    exists_eq_left]

lemma Attached.concat (ha : Attached site bs side link) (b : Beat) :
    Attached site (bs ++ [b]) side link :=
  attached_concat.mpr (.inl ha)

lemma FirstAsked.concat (hf : FirstAsked site bs link h) (b : Beat) :
    FirstAsked site (bs ++ [b]) link h := by
  obtain ⟨as, a, ds, rfl, ha, hn⟩ := hf
  exact ⟨as, a, ds ++ [b], by simp, ha, hn⟩

lemma Greeted.concat (hg : Greeted site bs link) (hw : ∀ w, b.wrote = some w → w.link ≠ link) :
    Greeted site (bs ++ [b]) link where
  attached := hg.attached.concat b
  said := by
    rw [wroteOn_concat_other hw]
    exact hg.said

lemma Owes.concat (ho : Owes site bs link m) (hw : ∀ w, b.wrote = some w → w.link ≠ link) :
    Owes site (bs ++ [b]) link m where
  attached := ho.attached.concat b
  silent := (wroteOn_concat_other hw).trans ho.silent
  reply := by
    obtain ⟨h, hf, hr⟩ := ho.reply
    exact ⟨h, hf.concat b, hr⟩

lemma Courts.concat (hx : Courts site bs x) (hw : ∀ w, b.wrote = some w → w.link ≠ x.link) :
    Courts site (bs ++ [b]) x :=
  ⟨hx.owes.concat hw, hx.success⟩

lemma Opened.concat (ho : Opened site bs side link) (b : Beat) :
    Opened site (bs ++ [b]) side link := by
  cases ho with
  | @initiator as ds a _ _ hb hg hi hc he =>
    have hb' : bs ++ [b] = as ++ a :: (ds ++ [b]) := by simp [hb]
    exact .initiator hb' hg hi hc he
  | @responder as ds a _ _ hb hw ho hm he =>
    have hb' : bs ++ [b] = as ++ a :: (ds ++ [b]) := by simp [hb]
    exact .responder hb' hw ho hm he

lemma Opened.attached (ho : Opened site bs side link) : Attached site bs side link := by
  have more : ∀ {as ds : List Beat} {a : Beat} {side : Side} {link : Link}, bs = as ++ a :: ds →
      Attached site as side link → Attached site bs side link := by
    rintro as ds a side link rfl ⟨d, hd, h⟩
    exact ⟨d, List.mem_append_left _ hd, h⟩
  cases ho with
  | initiator hb hg => exact more hb hg.attached
  | responder hb _ ho => exact more hb ho.attached

lemma Owes.of_asks (ha : Attached site (bs ++ [b]) .responder link) (hs : wroteOn link bs = [])
    (hn : ∀ a ∈ bs, ∀ k, ¬ a.Asks site link k) (hb : b.Asks site link h) {e : Event}
    (hi : b.input = .event e) (hm : m.header.Replies h) : Owes site (bs ++ [b]) link m where
  attached := ha
  silent := (wroteOn_concat_other (by simp [Beat.wrote_event hi])).trans hs
  reply := ⟨h, ⟨bs, b, [], rfl, hb, hn⟩, hm⟩

/-! ### Streams of a stage -/

lemma Stage.Told.link? (ht : s.Told site bs) (hc : b.conn.shape = s.shape expected n)
    (hl : b.conn.link? side = some link) : Attached site bs side link := by
  have hi : b.conn.initiator = (s.shape expected n).initiator := congrArg Shape.initiator hc
  have hr : b.conn.responder = (s.shape expected n).responder := congrArg Shape.responder hc
  have courted : ∀ {rival : Option Rival}, (∀ x ∈ rival, Courts site bs x) →
      ∀ k, rival.map (·.link) = some k → Attached site bs .responder k := by
    intro rival hx k hk
    obtain ⟨x, rfl, rfl⟩ := Option.map_eq_some_iff.mp hk
    exact (hx x rfl).owes.attached
  cases side with
  | initiator =>
    have hl : (s.shape expected n).initiator = some link := hi.symm.trans hl
    cases s with
    | introducing i => obtain rfl := Option.some.inj hl; exact ht.1
    | introduced i => obtain rfl := Option.some.inj hl; exact ht.attached
    | turningAway i => exact (ht.1 link hl).attached
    | electing i x => obtain rfl := Option.some.inj hl; exact ht.1.attached
    | running closing side =>
      cases side with
      | initiator => obtain rfl := Option.some.inj hl; exact ht.attached
      | responder => exact absurd hl (by simp [Stage.shape])
    | _ => exact absurd hl (by simp [Stage.shape])
  | responder =>
    have hl : (s.shape expected n).responder = some link := hr.symm.trans hl
    cases s with
    | dialing rival => exact courted ht link hl
    | introducing i rival => exact courted ht.2.2.2 link hl
    | electing i x => obtain rfl := Option.some.inj hl; exact ht.2.owes.attached
    | awaitingCer r => obtain rfl := Option.some.inj hl; exact ht.1
    | accepting p x => obtain rfl := Option.some.inj hl; exact ht.owes.attached
    | rejecting p r => obtain rfl := Option.some.inj hl; exact ht.attached
    | running closing side =>
      cases side with
      | initiator => exact absurd hl (by simp [Stage.shape])
      | responder => obtain rfl := Option.some.inj hl; exact ht.attached
    | _ => exact absurd hl (by simp [Stage.shape])

/-- On what occasion a message is written. -/
inductive Occasion (site : Site) (bs : List Beat) (w : Writing) : Prop
  | introduces (ha : Attached site bs .initiator w.link) (hs : wroteOn w.link bs = [])
    (hm : ∃ ids, w.message = (site.node.cer ids).1)
  | replies (h : Owes site bs w.link w.message)
  | converses {side : Side} (h : Opened site bs side w.link)

lemma Stage.Told.occasion (ht : s.Told site bs) (hs : s.Sound) {w : Writing}
    (hw : (s.shape expected n).writing = some w) : Occasion site bs w := by
  cases s with
  | introducing i rival cer d =>
    obtain rfl := Option.some.inj hw
    exact .introduces ht.1 ht.2.1 ht.2.2.1
  | turningAway i link cea e d => obtain rfl := Option.some.inj hw; exact .replies ht.2
  | accepting p x d => obtain rfl := Option.some.inj hw; exact .replies ht.owes
  | rejecting p r cea e d => obtain rfl := Option.some.inj hw; exact .replies ht
  | running closing side link peer v =>
    obtain rfl : v = some w := by cases side <;> exact hw
    obtain rfl : w.link = link := hs.1
    exact .converses ht
  | closed | dialing | introduced | electing | awaitingCer | shut =>
    exact absurd hw (by simp [Stage.shape])

lemma Occasion.attached {w : Writing} (h : Occasion site bs w) :
    ∃ side, Attached site bs side w.link := by
  cases h with
  | introduces ha => exact ⟨_, ha⟩
  | replies h => exact ⟨_, h.attached⟩
  | converses h => exact ⟨_, h.attached⟩

/-! ### From turn to turn -/

lemma Next.listens (h : Next site expected n s i out n' s')
    (hs : s'.phase ≠ .shutdown) :
    (n' = n ∧ ∀ k, .listen k ∉ out) ∨ n' = n + 1 ∧ ∀ k, .listen k ∈ out → k.id = n + 1 := by
  cases h with
  | fall | partAndFall => exact absurd rfl hs
  | await | acceptFirst | rejectFirst | introduce | court | challenge | turnAway
  | turnAwayUnanswered => exact .inr ⟨rfl, by simp⟩
  | _ => exact .inl ⟨rfl, by simp⟩

/-- A stream that is attached with a turn is the next one, unless the turn ends in the shutdown. -/
lemma Beat.Attaches.next (ha : b.Attaches site link side)
    (hn : Next site expected n s b.input (b.turn site).outline n' s') (hp : s'.phase ≠ .shutdown) :
    n' = n + 1 ∧ link.id = n + 1 := by
  have hl : .listen link ∈ (b.turn site).outline := by
    cases ha with
    | dialed _ hl | accepted _ hl | introduced _ hl => exact (Turn.mem_outline rfl).mpr hl
  rcases hn.listens hp with ⟨-, hk⟩ | ⟨hn', hk⟩
  · exact absurd hl (hk link)
  · exact ⟨hn', hk link hl⟩

namespace Orderly

lemma unheard (ho : Orderly site bs n) (link : Link) (hk : n < link.id) :
    wroteOn link bs = [] ∧ ∀ a ∈ bs, ∀ h, ¬ a.Asks site link h := by
  have hn : ∀ side, ¬ Attached site bs side link := fun side ha =>
    absurd (ho.bounded side link ha) (Nat.not_le.mpr hk)
  constructor
  · by_contra hw
    obtain ⟨side, ha⟩ := ho.written link hw
    exact hn side ha
  · intro a ha h hh
    obtain ⟨side, hs⟩ := ho.asked a ha link h hh
    exact hn side hs

lemma concat (ho : Orderly site bs n) (ht : s.Told site bs) (hs : s.Sound)
    (hc : b.conn.shape = s.shape expected n)
    (hn : Next site expected n s b.input (b.turn site).outline n' s') (hp : s'.phase ≠ .shutdown) :
    Orderly site (bs ++ [b]) n' := by
  have grows : n ≤ n' := by
    rcases hn.listens hp with ⟨rfl, -⟩ | ⟨rfl, -⟩
    · exact Nat.le_refl _
    · exact Nat.le_succ _
  have later : ∀ {side side' k}, Attached site bs side k → ¬ b.Attaches site k side' := by
    intro side side' k ha hb
    have := ho.bounded side k ha
    have := (hb.next hn hp).2
    omega
  refine ⟨fun side k ha => ?_, fun k hi hr => ?_, fun a ha k h hh => ?_, fun k hw => ?_⟩
  · -- each link has a number that has been given out
    rcases attached_concat.mp ha with ha | ha
    · exact Nat.le_trans (ho.bounded side k ha) grows
    · obtain ⟨hn', hk⟩ := ha.next hn hp
      omega
  · -- no link is on both sides
    rcases attached_concat.mp hi with hi | hi <;> rcases attached_concat.mp hr with hr | hr
    · exact ho.apart k hi hr
    · exact later hi hr
    · exact later hr hi
    · -- one event does not attach a stream twice
      cases hi with
      | dialed hi => cases hr with
        | accepted hr | introduced hr => exact absurd (hi.symm.trans hr) (by simp)
  · -- what is asked comes on a stream that is attached
    rcases List.mem_append.mp ha with ha | ha
    · obtain ⟨side, hk⟩ := ho.asked a ha k h hh
      exact ⟨side, hk.concat b⟩
    · obtain rfl := List.mem_singleton.mp ha
      cases hh with
      | along hi hl => exact ⟨_, a, by simp, .introduced hi hl⟩
      | @whole side _ _ hl | @header side _ _ _ hl => exact ⟨side, (ht.link? hc hl).concat a⟩
  · -- so does what is written
    by_cases hb : ∀ w, b.wrote = some w → w.link ≠ k
    · rw [wroteOn_concat_other hb] at hw
      obtain ⟨side, hk⟩ := ho.written k hw
      exact ⟨side, hk.concat b⟩
    · simp only [not_forall, not_not] at hb
      obtain ⟨w, hb, rfl⟩ := hb
      have hw : (s.shape expected n).writing = some w :=
        (congrArg Shape.writing hc).symm.trans (b.writing_of_wrote hb).2
      obtain ⟨side, hk⟩ := (ht.occasion hs hw).attached
      exact ⟨side, hk.concat b⟩

end Orderly

namespace Turn

variable {t : Turn}

lemma write_decisive {side' : Side} {g : Goal} (hg : (∃ p, g = .accept p) ∨ ∃ f, g = .reject f) :
    (t.write site side' m g).conn.phase = .shutdown ∨
      (t.write site side' m g).conn.writing.isSome := by
  have failed : ∀ f, (t.settle site g m (some f)).conn.phase = .shutdown := by
    intro f
    rcases hg with ⟨p, rfl⟩ | ⟨e, rfl⟩ <;> exact phase_giveUp site _ _
  unfold write
  split
  · exact .inl (failed _)
  · rename_i k _
    rcases writeOn_cases site t k m g with ⟨-, hw⟩ | ⟨f, -, hw⟩
    · rw [hw]
      exact .inr rfl
    · rw [hw]
      exact .inl (failed f)

lemma answerFirstCer_decisive (cer : Message) :
    (t.answerFirstCer site cer).conn.phase = .shutdown ∨
      (t.answerFirstCer site cer).conn.writing.isSome := by
  unfold answerFirstCer
  split
  · exact write_decisive (.inl ⟨_, rfl⟩)
  · exact write_decisive (.inr ⟨_, rfl⟩)

lemma leaves_of_received (hp : t.conn.phase = .waitCer) {l : Nat}
    (hl : t.conn.sideOf? l = some side) :
    (t.handle site (.received l m)).conn.phase = .shutdown ∨
      (t.handle site (.received l m)).conn.writing.isSome := by
  simp only [handle, hl, onReceived, hp]
  split
  · exact answerFirstCer_decisive m
  · exact .inl (phase_transition_shutdown site _)

lemma leaves_of_receivedInvalid (hp : t.conn.phase = .waitCer) {l : Nat}
    (hl : t.conn.sideOf? l = some side) (hr : h.isRequest) (f : Failure) :
    (t.handle site (.receivedInvalid l h f)).conn.phase = .shutdown ∨
      (t.handle site (.receivedInvalid l h f)).conn.writing.isSome := by
  simp only [handle, hl, onReceivedInvalid, hr, hp, if_true]
  exact write_decisive (.inr ⟨_, rfl⟩)

end Turn

section Awaiting

variable {r : Link}

lemma Stage.awaiting (hc : b.conn.shape = (Stage.awaitingCer r).shape expected n) :
    b.begun.conn.phase = .waitCer ∧ (∀ side k, b.conn.link? side = some k → k = r) ∧
      b.conn.link? .responder = some r := by
  have hp : b.conn.phase = .waitCer := congrArg Shape.phase hc
  have hi : b.conn.initiator = none := congrArg Shape.initiator hc
  have hr : b.conn.responder = some r := congrArg Shape.responder hc
  refine ⟨(congrArg Duty.phase b.duty_begun).trans hp, fun side k hk => ?_, hr⟩
  cases side with
  | initiator => exact absurd (hi.symm.trans hk) (by simp)
  | responder => exact Option.some.inj (hk.symm.trans hr)

lemma Beat.not_asks_of_awaiting (hc : b.conn.shape = (Stage.awaitingCer r).shape expected n)
    (hc' : (b.turn site).conn.shape = (Stage.awaitingCer r).shape expected n')
    (hl : .listen r ∉ (b.turn site).outline) : ¬ b.Asks site r h := by
  obtain ⟨hp, -, -⟩ := Stage.awaiting hc
  have hph : (b.turn site).conn.phase = .waitCer := congrArg Shape.phase hc'
  have hw : (b.turn site).conn.writing = none := congrArg Shape.writing hc'
  have stays : ¬ ((b.turn site).conn.phase = .shutdown ∨ (b.turn site).conn.writing.isSome) := by
    simp [hph, hw]
  have attached : ∀ {side e}, b.input = .event e → b.conn.link? side = some r →
      ∃ side, b.begun.conn.sideOf? r.id = some side := by
    intro side e hi hl
    rw [conn_begun hi]
    cases side with
    | initiator =>
      exact ⟨.initiator, by simp [Connection.sideOf?, show b.conn.initiator = _ from hl]⟩
    | responder =>
      by_cases ha : b.conn.initiator.any (·.id = r.id) = true
      · exact ⟨.initiator, by simp [Connection.sideOf?, ha]⟩
      · exact ⟨.responder, by simp [Connection.sideOf?, ha, show b.conn.responder = _ from hl]⟩
  rintro (⟨-, ha⟩ | ⟨hi, ha, -⟩ | ⟨hi, ha, hr⟩)
  · -- it is handed over with its CER, and listened to
    exact hl ((Turn.mem_outline rfl).mpr ha)
  · -- a request on the stream would be answered
    obtain ⟨side, hs⟩ := attached hi ha
    exact stays (turn_event hi ▸ Turn.leaves_of_received hp hs)
  · -- even one of which only the header can be read
    obtain ⟨side, hs⟩ := attached hi ha
    exact stays (turn_event hi ▸ Turn.leaves_of_receivedInvalid hp hs hr _)

lemma Beat.asks_of_rejects (ht : b.conn.Takes b.input)
    (hc : b.conn.shape = (Stage.awaitingCer r).shape expected n) {cea : Message} {e : Failure}
    {d : Nat} (hw : (b.turn site).conn.writing = some ⟨r, cea, .reject e, d⟩) :
    ∃ h, b.Asks site r h ∧ cea.header.Replies h := by
  obtain ⟨hp, hk, -⟩ := Stage.awaiting hc
  obtain ⟨i, hi, hu⟩ := b.utters ht hw
  have attached : ∀ {side l}, b.begun.conn.sideOf? l = some side →
      b.conn.link? side = some r ∧ r.id = l := by
    intro side l hl
    rw [conn_begun hi] at hl
    obtain ⟨k, hs, rfl⟩ := Connection.link?_of_sideOf? hl
    obtain rfl := hk side k hs
    exact ⟨hs, rfl⟩
  cases hu with
  | declines hp' => exact absurd (hp.symm.trans hp') (by simp)
  | @rejects side l cer _ hl hcer =>
    obtain ⟨hs, rfl⟩ := attached hl
    exact ⟨cer.header, .whole hi hs (Message.isRequest_of_isCer hcer),
      Node.answerHeader_replies _ _⟩
  | @rejectsInvalid side l k _ hl hr =>
    obtain ⟨hs, rfl⟩ := attached hl
    exact ⟨k, .header hi hs hr, Node.answerHeader_replies _ _⟩

end Awaiting

/-! ### Every turn -/

lemma Orderly.owes_along (ho : Orderly site bs n) {stream : Nat} {cer : Message}
    (hi : b.input = .event (.acceptedCer stream cer))
    (hl : .listen ⟨n + 1, stream⟩ ∈ (b.turn site).outline) (hm : m.header.Replies cer.header) :
    Owes site (bs ++ [b]) ⟨n + 1, stream⟩ m := by
  have hl' : .listen ⟨n + 1, stream⟩ ∈ (b.turn site).effects := (Turn.mem_outline rfl).mp hl
  obtain ⟨hs, hn⟩ := ho.unheard ⟨n + 1, stream⟩ (Nat.lt_succ_self n)
  exact .of_asks ⟨b, by simp, .introduced hi hl'⟩ hs hn (.along hi hl') hi hm

lemma Orderly.courts_along (ho : Orderly site bs n) {stream : Nat} {cer : Message}
    (hi : b.input = .event (.acceptedCer stream cer))
    (hl : .listen ⟨n + 1, stream⟩ ∈ (b.turn site).outline) (peer : PeerIdentity) :
    Courts site (bs ++ [b]) ⟨⟨n + 1, stream⟩, site.node.cea cer .success, peer⟩ :=
  ⟨ho.owes_along hi hl (site.node.cea_replies cer _), cer, rfl⟩

lemma Stage.told_alone {j : Option Link} :
    (Stage.alone j).Told site bs ↔ ∀ k ∈ j, Greeted site bs k := by
  cases j <;> simp [Stage.alone, Stage.Told]

lemma Greeted.of_wrote {w : Writing} (hw : b.wrote = some w)
    (ha : Attached site bs .initiator w.link) (hs : wroteOn w.link bs = []) {ids : Identifiers}
    (hm : w.message = (site.node.cer ids).1) : Greeted site (bs ++ [b]) w.link where
  attached := ha.concat b
  said := ⟨ids, by rw [wroteOn_concat_self hw, hs, hm, List.nil_append]⟩

/-- An event that leaves a stage as it is and attaches no stream adds nothing to what is known. -/
lemma Stage.Told.pass (h : s.Told site bs) (hc : b.conn.shape = s.shape expected n)
    (hc' : (b.turn site).conn.shape = s.shape expected n') {e : Event} (hi : b.input = .event e)
    (hl : ∀ k, .listen k ∉ (b.turn site).outline) : s.Told site (bs ++ [b]) := by
  have quiet : ∀ {k}, ∀ w, b.wrote = some w → w.link ≠ k := by simp [b.wrote_event hi]
  cases s with
  | closed | shut => trivial
  | dialing => exact fun x hx => (h x hx).concat quiet
  | introducing =>
    obtain ⟨ha, hs, hm, hx⟩ := h
    exact ⟨ha.concat b, (wroteOn_concat_other quiet).trans hs, hm,
      fun x hr => (hx x hr).concat quiet⟩
  | introduced => exact Greeted.concat h quiet
  | turningAway => exact ⟨fun k hk => (h.1 k hk).concat quiet, h.2.concat quiet⟩
  | electing => exact ⟨h.1.concat quiet, h.2.concat quiet⟩
  | awaitingCer r =>
    obtain ⟨ha, hs, hna⟩ := h
    -- no request has come on it, now or earlier
    refine ⟨ha.concat b, (wroteOn_concat_other quiet).trans hs, fun a hm k hk => ?_⟩
    rcases List.mem_append.mp hm with hm | hm
    · exact hna a hm k hk
    · obtain rfl := List.mem_singleton.mp hm
      exact Beat.not_asks_of_awaiting hc hc' (hl r) hk
  | accepting => exact Courts.concat h quiet
  | rejecting => exact Owes.concat h quiet
  | running => exact Opened.concat h b

/-- **What is known of the streams is kept by every turn.** -/
theorem Stage.Told.next (h : s.Told site bs) (ho : Orderly site bs n)
    (hc : b.conn.shape = s.shape expected n) (ht : b.conn.Takes b.input)
    (hn : Next site expected n s b.input (b.turn site).outline n' s')
    (hc' : (b.turn site).conn.shape = s'.shape expected n') : s'.Told site (bs ++ [b]) := by
  have quiet : ∀ {e k}, b.input = .event e → ∀ w, b.wrote = some w → w.link ≠ k := by
    intro e k hi
    simp [b.wrote_event hi]
  -- What is written is on one side, so nothing is added on the other.
  have other : ∀ {v : Writing} {k}, (s.shape expected n).writing = some v → v.link ≠ k →
      ∀ w, b.wrote = some w → w.link ≠ k := by
    intro v k hv hk w hw
    have hw' : b.conn.writing = some w := (b.writing_of_wrote hw).2
    obtain rfl := Option.some.inj ((congrArg Shape.writing hc).symm.trans hw' ▸ hv)
    exact hk
  have apart : ∀ {i r}, Attached site bs .initiator i → Attached site bs .responder r →
      i ≠ r := by
    rintro i _ hi hr rfl
    exact ho.apart i hi hr
  have wrote : ∀ {w}, b.input = .written none → (s.shape expected n).writing = some w →
      b.wrote = some w := by
    intro w hi hw
    exact (b.wrote_written hi).trans ((congrArg Shape.writing hc).trans hw)
  generalize hi : b.input = i at hn
  generalize hout : (b.turn site).outline = out at hn
  cases hn with
  | fall | partAndFall => trivial
  -- there is no rival
  | dial | courtLost => exact fun x hx => absurd hx (by simp)
  | @await stream =>
    have hl : .listen ⟨n + 1, stream⟩ ∈ (b.turn site).effects :=
      (Turn.mem_outline rfl).mp (hout ▸ List.mem_cons_self)
    -- the stream is new, so nothing has been said or heard on it
    obtain ⟨hs, hna⟩ := ho.unheard ⟨n + 1, stream⟩ (Nat.lt_succ_self n)
    refine ⟨⟨b, by simp, .accepted hi hl⟩, (wroteOn_concat_other (quiet hi)).trans hs, ?_⟩
    intro a ha k hk
    rcases List.mem_append.mp ha with ha | ha
    · exact hna a ha k hk
    · obtain rfl := List.mem_singleton.mp ha
      cases hk with
      | along hi' | whole hi' | header hi' => exact absurd (hi.symm.trans hi') (by simp)
  -- the CER came with the stream, which is new
  | acceptFirst => exact ho.courts_along hi (hout ▸ List.mem_cons_self) _
  | rejectFirst =>
    exact ho.owes_along hi (hout ▸ List.mem_cons_self) (Node.answerHeader_replies _ _)
  | @acceptAwaited r cer peer d hm =>
    -- the CER is the first request on the stream
    obtain ⟨ha, hs, hna⟩ := h
    have hk : b.Asks site r cer.header :=
      .whole hi (Stage.awaiting hc).2.2 (Message.isRequest_of_isCer hm)
    exact ⟨.of_asks (ha.concat b) hs hna hk hi (site.node.cea_replies cer _), cer, rfl⟩
  | @rejectAwaited r e cea f d =>
    obtain ⟨ha, hs, hna⟩ := h
    obtain ⟨k, hk, hm⟩ := b.asks_of_rejects ht hc (congrArg Shape.writing hc')
    exact .of_asks (ha.concat b) hs hna hk hi hm
  | @introduce rival stream ids d =>
    have hl : .listen ⟨n + 1, stream⟩ ∈ (b.turn site).effects :=
      (Turn.mem_outline rfl).mp (hout ▸ List.mem_cons_self)
    -- the stream is new, and the CER for it has been made
    obtain ⟨hs, -⟩ := ho.unheard ⟨n + 1, stream⟩ (Nat.lt_succ_self n)
    exact ⟨⟨b, by simp, .dialed hi hl⟩, (wroteOn_concat_other (quiet hi)).trans hs, ⟨ids, rfl⟩,
      fun x hx => (h x hx).concat (quiet hi)⟩
  | @introduced i cer d =>
    obtain ⟨ha, hs, ⟨ids, rfl⟩, -⟩ := h
    -- the CER has been written
    exact .of_wrote (wrote hi rfl) ha hs rfl
  | @elect i x cer d =>
    obtain ⟨ha, hs, ⟨ids, rfl⟩, hx⟩ := h
    -- the CER has been written, and what the rival is owed stands
    exact ⟨.of_wrote (wrote hi rfl) ha hs rfl,
      (hx x rfl).concat (other rfl (apart ha (hx x rfl).owes.attached))⟩
  | court =>
    rintro x ⟨⟩
    exact ho.courts_along hi (hout ▸ List.mem_cons_self) _
  | challenge =>
    exact ⟨Greeted.concat h (quiet hi), ho.courts_along hi (hout ▸ List.mem_cons_self) _⟩
  | turnAway =>
    exact ⟨fun k hk => (Stage.told_alone.mp h k hk).concat (quiet hi),
      ho.owes_along hi (hout ▸ List.mem_cons_self) (Node.answerHeader_replies _ _)⟩
  | turnAwayUnanswered =>
    exact Stage.told_alone.mpr fun k hk => (Stage.told_alone.mp h k hk).concat (quiet hi)
  | @turnedAway j link cea e d result =>
    -- what was written went to the other stream
    exact Stage.told_alone.mpr fun k hk => (h.1 k hk).concat
      (other rfl (apart (h.1 k hk).attached h.2.attached).symm)
  | undialed => exact (h _ rfl).concat (quiet hi)
  -- only what is on the stream that is kept still matters
  | win | ownLost => exact h.2.concat (quiet hi)
  | rivalLost => exact h.1.concat (quiet hi)
  | confirm hm =>
    -- this end had introduced itself, and the CEA has come
    exact .initiator rfl h hi hm ((Turn.mem_outline rfl).mp (hout ▸ by simp))
  | prevail hm =>
    exact .initiator rfl h.1 hi hm ((Turn.mem_outline rfl).mp (hout ▸ by simp))
  | @accepted p x d =>
    -- the CEA that was owed has been written
    obtain ⟨cer, hm⟩ := h.success
    exact .responder rfl (wrote hi rfl) h.owes hm ((Turn.mem_outline rfl).mp (hout ▸ by simp))
  | write | written | part => exact Opened.concat h b
  | stay | refuse => exact h.pass hc hc' hi (by simp [hout])

/-- What is known of the streams along a course, until the shutdown. -/
theorem Course.told (h : Course site expected first bs n s) (hf : first.IsOpening)
    (hp : s.phase ≠ .shutdown) : s.Told site bs ∧ Orderly site bs n := by
  induction h with
  | nil =>
    exact ⟨trivial, by simp [Attached], by simp [Attached], by simp, by simp [wroteOn]⟩
  | @turn bs n s b n' s' h hc ht hn hc' ih =>
    have hs : s.Sound := h.sound hf
    have hph : b.conn.phase = s.phase := Stage.phase_of_shape hc
    obtain ⟨hto, ho⟩ := ih (hph ▸ (Stage.prompt hc hs ht).1)
    exact ⟨hto.next ho hc ht hn hc', ho.concat hto hs hc hn hp⟩

end Diameter
