import Diameter.Network.Run
import Diameter.Proofs.Buffers
import Diameter.Proofs.Framing
import Diameter.Proofs.Welcome

/-!
Two ways to take over the stream of a peer.

A connection is begun with a stream and the CER that was read off it, or with the stream alone, and
then it waits until the CER has been read. What befalls it in the meantime leaves no trace, nor does
it write anything. Once the one that waited has taken the CER it is what the other is, but for its
phase while the answer is on its way, and for the host that is expected; and whatever befalls them
then, they go on like that. Main statement: `Connection.Run.takesOver`.
-/

namespace Diameter

lemma Frame.next_of_decode {max : Nat} {frame : Octets} {m : Message}
    (hd : Message.decode frame = .ok (m, [])) (hl : frame.length ≤ max) (rest : Octets) :
    ∃ h body, Frame.next max (frame ++ rest) = .frame h body rest ∧
      Message.ofBody h body = .ok m := by
  have hs : ¬ Oversized max frame := by
    rintro ⟨h, n, tail, hh, hn⟩
    rw [Message.decode, hh] at hd
    dsimp only at hd
    split at hd
    · cases hd
    · rename_i body after hb
      obtain ⟨hbody, rfl⟩ := Octets.split?_eq_some.mp hb
      obtain ⟨-, -, hmin, -, -, rfl⟩ := Header.decode_eq_ok_iff.mp hh
      rw [List.length_append, List.length_append, Header.length_encode] at hl
      omega
  have hr := readMessage_of_decode hd hs
  cases hn : Frame.next max frame with
  | unfinished => simp [readMessage, read, hn] at hr
  | broken e after => simp [readMessage, read, hn] at hr
  | frame h body after =>
    simp only [readMessage, read, hn] at hr
    obtain ⟨hb, rfl⟩ := Prod.mk.inj hr
    exact ⟨h, body, next_append_of_frame hn, hb⟩

namespace Network.Stream

variable {max : Nat} {s : Stream} {frame rest : Octets} {m : Message}

lemma deliver_of_decode (hd : Message.decode frame = .ok (m, [])) (hl : frame.length ≤ max)
    (hs : s.unread = frame ++ rest) :
    s.deliver max = (some (.message m), { s with begun := [], inbound := rest }) := by
  obtain ⟨h, body, hn, hb⟩ := Frame.next_of_decode hd hl rest
  rw [deliver_of_frame (hs ▸ hn), Frame.Delivery.ofFrame, hb]

end Network.Stream

/-- The first turn of a connection that is begun with a stream and with the CER that was read off it,
as by `Network.accept`. -/
def Beat.handed (stream : Nat) (cer : Message) (m : Moment) : Beat :=
  ⟨.fresh cer.originHost? (.acceptedCer stream cer), m, .event (.acceptedCer stream cer)⟩

/-- The turn of a connection in which it takes what was read off the first stream that it has
attached, which is the one it was begun with by `Network.acceptStream`. -/
def Beat.reading (c : Connection) (d : Frame.Delivery) (m : Moment) : Beat :=
  ⟨c, m, .event (Network.eventOf 1 d)⟩

/-- What two connections make of the same happenings, `c` begun with its CER, `d` after having waited
for it. -/
structure GoAlike (site : Site) (name : Option String) (c d : Connection) (hs : List Happening) :
    Prop where
  turns : List.Forall₂ (Beat.Matches site name) (c.beats site hs) (d.beats site hs)
  conn : d.afterAll site hs = (c.afterAll site hs).waited
  identity : (d.afterAll site hs).identity = (c.afterAll site hs).identity
  /-- Only as long as the answer to the CER is on its way are they in different phases. -/
  phase : (c.afterAll site hs).phase ≠ .closed →
    (d.afterAll site hs).phase = (c.afterAll site hs).phase

/-- How a connection that takes the CER with the turn `y`, after the turns `bs`, compares to one that
takes it with the turn `x`, having been begun with it. -/
structure TakesOver (site : Site) (stream : Nat) (name : Option String) (bs : List Beat)
    (x y : Beat) : Prop where
  taken : x.conn.Takes x.input ∧ y.conn.Takes y.input
  /-- The stream is the only one that has been attached before the CER is taken. -/
  listened : listened site bs = [⟨1, stream⟩]
  ids : (y.turn site).ids = (x.turn site).ids
  conn : (y.turn site).conn = (x.turn site).conn.waited
  /-- They do the same, but for notices that name the peer or the phase before. -/
  effects : ∃ es, (x.turn site).effects = .listen ⟨1, stream⟩ :: es ∧
    List.Forall₂ (Effect.Resembles name) es (y.turn site).effects
  /-- The same may befall the two then. -/
  admits : ∀ hs, (y.turn site).conn.AdmitsAll site hs ↔ (x.turn site).conn.AdmitsAll site hs
  goes : ∀ hs, (x.turn site).conn.AdmitsAll site hs →
    GoAlike site name (x.turn site).conn (y.turn site).conn hs
  /-- The same messages have been written in all. -/
  written : ∀ hs, (x.turn site).conn.AdmitsAll site hs →
    (bs ++ y :: (y.turn site).conn.beats site hs).filterMap Beat.wrote =
      (x :: (x.turn site).conn.beats site hs).filterMap Beat.wrote

namespace Connection

variable {site : Site} {stream : Nat} {cer : Message} {bs : List Beat} {d : Connection}

lemma takes_handed (m : Moment) :
    (Beat.handed stream cer m).conn.Takes (Beat.handed stream cer m).input :=
  .internal ⟨by simp [Beat.handed, fresh], rfl⟩ rfl

variable (site stream cer)

lemma welcomed_handed (m : Moment) :
    ((Beat.handed stream cer m).turn site).conn.Welcomed cer.originHost? := by
  have ht : (Beat.handed stream cer m).conn.Takes (Beat.handed stream cer m).input :=
    takes_handed m
  obtain ⟨out, n, s, hn, hc, -⟩ := ht.follows (n := 0) (s := .closed (.acceptedCer stream cer))
    rfl trivial m.now m.serial m.ids
  refine ⟨n, s, hn.sound trivial, hn.greets.resolve_left ?_, hc⟩
  rintro rfl
  have hd : ((Beat.handed stream cer m).turn site).conn.phase = .shutdown ∨
      ((Beat.handed stream cer m).turn site).conn.writing.isSome :=
    Turn.answerFirstCer_decisive cer
  rcases hd with hp | hw
  · exact absurd (hp.symm.trans (congrArg Shape.phase hc)) (by simp [Stage.phase])
  · exact absurd (hw.symm.trans (congrArg (fun x : Shape => x.writing.isSome) hc))
      (by simp [Stage.shape])

variable {cer} in
lemma abreast_handed (hc : cer.isCer) (m : Moment) :
    Turn.Abreast cer.originHost? [.listen ⟨1, stream⟩] []
      ((Beat.handed stream cer m).turn site)
      ((Beat.reading (awaiting stream) (.message cer) m).turn site) := by
  let x := Beat.handed stream cer m
  let y := Beat.reading (awaiting stream) (.message cer) m
  let t : Turn := { (x.begun.attach stream).2 with
    conn.responder := some (x.begun.attach stream).1 }
  have hx : x.turn site = t.answerFirstCer site cer := rfl
  have hy : y.turn site = y.begun.answerFirstCer site cer := by
    show y.begun.onReceived site .responder 1 cer = _
    rw [Turn.onReceived, show y.begun.conn.phase = .waitCer from rfl]
    exact if_pos hc
  have ha : Turn.Abreast cer.originHost? [.listen ⟨1, stream⟩] [] t y.begun :=
    ⟨rfl, rfl, rfl, rfl, rfl, [], [], rfl, rfl, .nil⟩
  show Turn.Abreast _ _ _ (x.turn site) (y.turn site)
  rw [hx, hy]
  exact ha.answerFirstCer

variable {site stream cer}

lemma Run.listened_awaiting (h : Run site (fresh none (.accepted stream)) bs (awaiting stream)) :
    listened site bs = [⟨1, stream⟩] := by
  have hm : (⟨1, stream⟩ : Link) ∈ listened site bs :=
    h.mem_listened trivial
      (show (awaiting stream).link? .responder = some ⟨1, stream⟩ from rfl)
  have hl : (listened site bs).length = 1 := by
    rw [← List.length_map (f := Link.id), h.numbered]
    rfl
  obtain ⟨link, hb⟩ := List.length_eq_one_iff.mp hl
  rw [hb, List.mem_singleton] at hm
  rw [hb, hm]

lemma Welcomed.goAlike {name : Option String} {c : Connection} {hs : List Happening}
    (h : c.Welcomed name) (hx : c.AdmitsAll site hs) : GoAlike site name c c.waited hs := by
  obtain ⟨ht, hl⟩ := (h.follows site hs).2 hx
  exact ⟨ht, hl, by rw [hl]; rfl, fun hp => by rw [hl, waited_eq_blind hp]; rfl⟩

/-- **Two ways to take over a stream.** The one connection is begun with the stream and the CER, the
other with the stream, and it waits for the CER, which stands at the head of the stream in a frame
that is not too long. Its reader delivers the CER, and leaves what comes behind. With that turn, and
with whatever befalls the two from then on, they write the same messages, draw the same identifiers
and end up bound to the same peer, or to none, in the same state. Until the answer to the CER has been
written the notices of the one name the host that the CER names, where those of the other name
nobody, and leave another phase; after that there is no difference in what they do. -/
theorem Run.takesOver {frame : Octets} (hc : cer.isCer) (hd : Message.decode frame = .ok (cer, []))
    (hl : frame.length ≤ site.settings.maxMessageSize)
    (h : Run site (fresh none (.accepted stream)) bs d) (hp : d.phase = .waitCer)
    (hw : d.writing = none) (m : Moment) :
    (∀ (s : Network.Stream) (rest : Octets), s.unread = frame ++ rest →
      s.deliver site.settings.maxMessageSize =
        (some (.message cer), { s with begun := [], inbound := rest })) ∧
    TakesOver site stream cer.originHost? bs (.handed stream cer m)
      (.reading d (.message cer) m) := by
  refine ⟨fun s rest => Network.Stream.deliver_of_decode hd hl, ?_⟩
  obtain ⟨rfl, hq⟩ := h.awaits hp hw
  have ha := abreast_handed site stream hc m
  have hwel := welcomed_handed site stream cer m
  obtain ⟨es, ds, hes, hds, hr⟩ := ha.effects
  have goes (hs : List Happening)
      (hx : ((Beat.handed stream cer m).turn site).conn.AdmitsAll site hs) :
      GoAlike site cer.originHost? ((Beat.handed stream cer m).turn site).conn
        ((Beat.reading (awaiting stream) (.message cer) m).turn site).conn hs :=
    ha.conn ▸ hwel.goAlike hx
  exact {
    taken := ⟨takes_handed m, .queued ⟨by simp [Beat.reading, awaiting], rfl⟩ rfl⟩
    listened := h.listened_awaiting
    ids := ha.ids
    conn := ha.conn
    effects := ⟨es, hes, hds ▸ hr⟩
    admits := fun hs => ha.conn ▸ (hwel.follows site hs).1
    goes
    written := fun hs hx => by
      have hb := Beat.filterMap_wrote (goes hs hx).turns
      rw [List.filterMap_append, hq]
      exact hb }

/-- A connection that has waited for the CER of `b`, and one that is begun with it. -/
theorem takesOver_plain :
    let site : Site := ⟨Node.plain "a", {}⟩
    let cer := ((Node.plain "b").cer {}).1
    let wait : Beat := opening (.accepted 0)
    cer.isCer ∧ Message.decode cer.encode = .ok (cer, []) ∧
      cer.encode.length ≤ site.settings.maxMessageSize ∧
      Run site (fresh none (.accepted 0)) [wait] (wait.turn site).conn ∧
      (wait.turn site).conn.phase = .waitCer ∧ (wait.turn site).conn.writing = none ∧
      TakesOver site 0 cer.originHost? [wait] (.handed 0 cer ⟨5, 1, {}⟩)
        (.reading (wait.turn site).conn (.message cer) ⟨5, 1, {}⟩) := by
  have hc : (((Node.plain "b").cer {}).1).isCer := by decide +kernel
  have hd : Message.decode ((Node.plain "b").cer {}).1.encode =
      .ok (((Node.plain "b").cer {}).1, []) := by decide +kernel
  have hl : ((Node.plain "b").cer {}).1.encode.length ≤
      (⟨Node.plain "a", {}⟩ : Site).settings.maxMessageSize := by decide +kernel
  exact ⟨hc, hd, hl, run_opening _ _, rfl, rfl,
    (Run.takesOver hc hd hl (run_opening _ _) rfl rfl _).2⟩

end Connection

end Diameter
