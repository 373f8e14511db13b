import Diameter.Proofs.EventHandling

/-!
The moves of a turn, and which of them handling an event takes, as far as requests are concerned.

Most of what a turn does leaves requests alone: it is made of moves that neither enter nor end an
exchange, except that the shutdown ends all of them at once (`Turn.Leads`). The few other things
that may happen to a request are listed in `Turn.Outcome`. Main statement: `Turn.handle_outcome`.
-/

namespace Diameter

/-- Nothing that a waiter gets, and no note. -/
def Effect.IsPlain : Effect → Prop
  | .note _ | .complete _ | .abandon _ => False
  | _ => True

lemma Effect.IsSilent.isPlain {e : Effect} (h : e.IsSilent) : e.IsPlain := by
  cases e <;> first | exact trivial | exact h.elim

/-- What is written is no request, and it reports a failure of this kind or none. -/
def Goal.Reports (A : Failure → Prop) : Goal → Prop
  | .reject e | .turnAway _ e | .complain e => A e
  | .request => False
  | _ => True

lemma Goal.IsAside.reports {A : Failure → Prop} {g : Goal} (h : g.IsAside A) : g.Reports A := by
  cases g <;> first | exact h | exact trivial

namespace Turn

/-- Moves lead from one turn to another that leave requests alone and report only failures of a
kind. -/
inductive Leads (site : Site) (A : Failure → Prop) (t : Turn) : Turn → Prop
  | refl : Leads site A t t
  | adjust {u v : Turn} (h : Leads site A t u) (he : v.effects = u.effects)
    (hp : v.conn.pending = u.conn.pending) (hf : v.conn.phase = u.conn.phase)
    (hw : v.conn.writing = u.conn.writing) : Leads site A t v
  | emit {u : Turn} (h : Leads site A t u) {e : Effect} (he : e.IsPlain) : Leads site A t (u.emit e)
  | report {u : Turn} (h : Leads site A t u) {e : Failure} (he : A e) : Leads site A t (u.report e)
  | transition {u : Turn} (h : Leads site A t u) (p : Phase) : Leads site A t (u.transition site p)
  | begin {u : Turn} (h : Leads site A t u) {w : Writing} (hw : w.goal.Reports A) :
    Leads site A t { u with conn.writing := some w }

/-- The kind covers whatever is wrong with a message or a stream, and mistakes of a peer. -/
structure Covers (A : Failure → Prop) : Prop where
  foreign {e : Failure} (h : e.IsForeign) : A e
  mistake (p : Phase) {event : String} (h : event ∈ peerMistakes) : A (.notAcceptable p event)

variable {site : Site} {A : Failure → Prop} {t u v : Turn}

lemma Covers.spans (hA : Covers A) : Spans A where
  remote h := hA.foreign h.isForeign
  mistake := hA.mistake

lemma Bypass.leads (h : Bypass site A t u) : Leads site A t u := by
  induction h with
  | refl => exact .refl
  | adjust _ he hd hw ih =>
    exact ih.adjust he (congrArg Duty.pending hd) (congrArg Duty.phase hd) hw
  | emit _ he ih => exact ih.emit he.isPlain
  | report _ he ih => exact ih.report he
  | transition _ _ ih => exact ih.transition _
  | part _ ih => exact (ih.transition _).transition _
  | begin _ hw ih => exact ih.begin hw.reports

namespace Leads

/-! ### Moves -/

lemma trans (h : Leads site A t u) (hv : Leads site A u v) : Leads site A t v := by
  induction hv with
  | refl => exact h
  | adjust _ he hp hf hw ih => exact ih.adjust he hp hf hw
  | emit _ he ih => exact ih.emit he
  | report _ he ih => exact ih.report he
  | transition _ p ih => exact ih.transition p
  | begin _ hw ih => exact ih.begin hw

lemma giveUp (h : Leads site A t u) {e : Failure} (he : A e) : Leads site A t (u.giveUp site e) :=
  (h.report he).transition _

lemma armIdle (h : Leads site A t u) : Leads site A t (u.armIdle site) :=
  h.adjust rfl rfl rfl rfl

lemma stir (h : Leads site A t u) : Leads site A t (u.stir site) := by
  unfold Turn.stir
  split
  · exact h.armIdle
  · exact h

lemma openAs (h : Leads site A t u) (peer : PeerIdentity) (p : Phase) :
    Leads site A t (u.openAs site peer p) := by
  have hi : Leads site A t { u with conn.identity := some peer } := h.adjust rfl rfl rfl rfl
  have hs : Leads site A t (({ u with conn.identity := some peer } : Turn).emit (.showPeer peer)) :=
    hi.emit trivial
  have hf : Leads site A t { ({ u with conn.identity := some peer } : Turn).emit (.showPeer peer)
      with conn.failures := 0, conn.outstanding := none } := hs.adjust rfl rfl rfl rfl
  exact (hf.transition p).armIdle

/-! ### Writing -/

lemma settle (h : Leads site A t u) {g : Goal} (hg : g.Reports A) (m : Message)
    {result : Option Failure} (hr : ∀ e, result = some e → A e) :
    Leads site A t (u.settle site g m result) := by
  have aside : g.IsAside A → g.IsSettled → Leads site A t (u.settle site g m result) :=
    fun ha hs => h.trans (Bypass.refl.settle ha hs m hr).leads
  cases g with
  | accept peer =>
    cases result with
    | none => exact h.openAs peer _
    | some e => exact h.giveUp (hr e rfl)
  | disconnect =>
    cases result with
    | none => exact (h.transition _).adjust rfl rfl rfl rfl
    | some e => exact h.giveUp (hr e rfl)
  | probe hopByHop =>
    cases result with
    | none => exact h.adjust rfl rfl rfl rfl
    | some e => exact h.giveUp (hr e rfl)
  | request => exact hg.elim
  | _ => exact aside hg trivial

lemma settle_request (m : Message) :
    Leads site A (u.note (.sent m.header.command m.header.application m.header.hopByHop
      m.header.isRetransmit)) (u.settle site .request m none) := by
  unfold Turn.settle
  dsimp only
  split
  · exact Leads.refl.armIdle
  · exact .refl

/-! ### The watchdog -/

lemma onDwa (h : Leads site A t u) (m : Message) : Leads site A t (u.onDwa site m) := by
  unfold Turn.onDwa
  split
  · exact h
  · dsimp only
    split
    · exact h.adjust rfl rfl rfl rfl
    · exact h.adjust rfl rfl rfl rfl

lemma onWatchdogReply (h : Leads site A t u) (hA : ∀ k, A (.watchdogExpired k))
    (hopByHop : UInt32) :
    Leads site A t (u.onWatchdogReply site hopByHop) := by
  unfold Turn.onWatchdogReply
  split
  · exact h
  · have hm : Leads site A t
        { u with conn.outstanding := none, conn.failures := u.conn.failures + 1 } :=
      h.adjust rfl rfl rfl rfl
    dsimp only
    split
    · exact hm.giveUp (hA _)
    · exact hm.armIdle

end Leads

/-! ### Requests -/

/-- What handling an event comes to, as far as requests are concerned. -/
inductive Outcome (site : Site) (A : Failure → Prop) (t : Turn) : Event → Turn → Prop
  /-- Requests are left alone. -/
  | moves {e : Event} {u : Turn} (h : Leads site A t u) (he : ∀ j m, e ≠ .send j m) :
    Outcome site A t e u
  /-- An answer came on the stream that carries traffic. -/
  | answered {link : Nat} {m : Message} {u : Turn} (h : Leads site A t u)
    (hl : t.conn.activeLink?.map (·.id) = some link) (hm : m.header.isRequest = false) :
    Outcome site A t (.received link m) (u.onAnswer m)
  /-- What came was no answer, but named a request. -/
  | failed {e : Event} (he : ∀ j m, e ≠ .send j m) (hopByHop : UInt32) (r : ResultCode)
    {f : Failure} (hf : A f) : Outcome site A t e ((t.failExchange site hopByHop r).report f)
  | expired (hopByHop : UInt32) :
    Outcome site A t (.exchangeTimeout hopByHop) (t.onExchangeTimeout site hopByHop)
  | refused (waiter : Nat) (request : Message) :
    Outcome site A t (.send waiter request) (t.refuseToSend site waiter request)
  | entered (waiter : Nat) (request : Message) (link : Link) (deadline : Nat) :
    Outcome site A t (.send waiter request)
      { t.enter site waiter request with conn.writing := some ⟨link, request, .request, deadline⟩ }
  /-- The request could not even begin to be written. -/
  | lost (waiter : Nat) (request : Message) {f : Failure} (hf : A f) :
    Outcome site A t (.send waiter request) ((t.enter site waiter request).giveUp site f)

/-- **What handling an event does to requests.** The event either suits the phase, or failures of
every kind are covered. -/
theorem handle_outcome (hA : Covers A) {e : Event}
    (he : e.Suits t.conn.phase ∨ ∀ f, A f) : Outcome site A t e (t.handle site e) := by
  have hc : ∀ f, e.failure? = some f → A f := fun f hf =>
    he.elim (fun hs => hA.foreign (hs.isForeign hf)) fun h => h f
  have hu : Upshot site A t e (t.handle site e) :=
    handle_upshot hA.spans (he.imp_right fun h _ _ => h _) hc
  generalize t.handle site e = u at hu
  cases hu with
  | bypass h hn => exact .moves h.leads hn.ne_send
  | stale he =>
    refine .moves .refl fun j m => ?_
    rintro rfl
    exact he trivial
  | fallen h _ ha _ =>
    rcases ha with rfl | ⟨_, rfl⟩
    · exact .moves h.leads (by simp)
    · exact .moves h.leads (by simp)
  | opened h _ => exact .moves (h.leads.openAs _ _) (by simp)
  | heard _ h => exact .moves (Leads.refl.stir.trans h.leads) (by simp)
  | dispatched _ => exact .moves (Leads.refl.stir.emit trivial) (by simp)
  | reassured _ => exact .moves (Leads.refl.onDwa _) (by simp)
  | answered h hm =>
    obtain ⟨k, hk, hl⟩ := Connection.link?_of_sideOf? h.attached
    exact .answered Leads.refl.stir (by simp [Connection.activeLink?, h.active, hk, hl]) hm
  | failed hn k r hf => exact .failed hn.ne_send k r hf
  | expired k => exact .expired k
  | refused j m => exact .refused j m
  | entered j m link deadline => exact .entered j m link deadline
  | lost j m hf => exact .lost j m hf
  | @probing _ _ _ _ ids link m deadline =>
    have hi : Leads site A t { t with ids := ids } := Leads.refl.adjust rfl rfl rfl rfl
    exact .moves (hi.begin (w := ⟨link, m, .probe _, deadline⟩) trivial) (by simp)
  | missed _ => exact .moves (Leads.refl.onWatchdogReply (fun _ => hA.foreign trivial) _) (by simp)

end Turn

end Diameter
