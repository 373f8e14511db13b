import Diameter.Proofs.Expected
import Diameter.Proofs.Lifetime

/-!
At most one live connection to a host.

The connections that a table begins live on by themselves, and may be shut down at any moment, also
between a look-up and what follows from it. The table forgets connections only once they are shut
down, and begins one only where it has none (`Network.Served`). So every connection that is live is
under its host (`Network.Orderly`), and everything else follows. Main statement:
`Network.one_live_connection`.
-/

namespace Diameter

section Lookup

variable {α β : Type} [BEq α] [LawfulBEq α] {l : List (α × β)} {k : α} {b : β}
  {p : α × β → Bool}

lemma List.lookup_filter_of_eq_some (h : l.lookup k = some b) (hp : p (k, b)) :
    (l.filter p).lookup k = some b := by
  obtain ⟨as, ds, rfl, ha⟩ := List.lookup_eq_some_iff.mp h
  refine List.lookup_eq_some_iff.mpr ⟨as.filter p, ds.filter p, ?_, fun x hx => ?_⟩
  · rw [List.filter_append, List.filter_cons_of_pos hp]
  · exact ha x (List.mem_filter.mp hx).1

lemma List.lookup_filter_of_forall (hp : ∀ b, p (k, b)) :
    (l.filter p).lookup k = l.lookup k := by
  cases h : l.lookup k with
  | some b => exact List.lookup_filter_of_eq_some h (hp b)
  | none =>
    rw [List.lookup_eq_none_iff] at h ⊢
    exact fun x hx => h x (List.mem_filter.mp hx).1

end Lookup

namespace PeerTable

variable {t : PeerTable} {host other : String} {i : Nat} {live : Nat → Bool}

lemma get?_congr (t : PeerTable) (h : Identity.same host other) : t.get? host = t.get? other := by
  rw [get?, Identity.same_iff.mp h, get?]

lemma get?_prune (h : t.get? host = some i) (hl : live i) : (t.prune live).get? host = some i :=
  List.lookup_filter_of_eq_some h hl

lemma get?_insert_self (t : PeerTable) (host : String) (i : Nat) :
    (t.insert host i).get? host = some i := by
  have he : (t.erase host).entries.lookup (Identity.lower host) = none := by
    rw [List.lookup_eq_none_iff]
    intro x hx
    have := (List.mem_filter.mp hx).2
    rwa [bne_comm]
  rw [get?, insert, List.lookup_append, he]
  simp

lemma get?_insert_of_ne (h : Identity.same other host = false) :
    (t.insert host i).get? other = t.get? other := by
  have hk : (Identity.lower other == Identity.lower host) = false := h
  have he : (t.erase host).entries.lookup (Identity.lower other) = t.get? other :=
    List.lookup_filter_of_forall fun _ => by rw [bne, hk]; rfl
  rw [get?, insert, List.lookup_append, he]
  simp [List.lookup_cons, hk]

lemma mem_insert {x : String × Nat} (h : x ∈ (t.insert host i).entries) :
    x ∈ t.entries ∨ x = (Identity.lower host, i) := by
  rcases List.mem_append.mp h with h | h
  · exact .inl (List.mem_filter.mp h).1
  · exact .inr (List.mem_singleton.mp h)

end PeerTable

/-! ### Connections that the table begins -/

/-- A stage of a connection that was begun for a CER that names no host. -/
def Stage.Shunned : Stage → Prop
  | closed first => ∃ stream cer, first = .acceptedCer stream cer ∧ cer.originHost? = none
  | rejecting source _ _ _ _ => source = .closed
  | shut _ _ => True
  | _ => False

lemma Stage.not_shunned_alone (i : Option Link) : ¬(alone i).Shunned := by
  cases i <;> exact id

lemma Stage.Shunned.next {site : Site} {expected : Option String} {n n' : Nat} {s s' : Stage}
    {i : Input} {out : List Effect} (h : s.Shunned) (hn : Next site expected n s i out n' s') :
    s'.Shunned := by
  cases hn with
  | acceptFirst hp _ _ =>
    obtain ⟨stream, cer, he, hc⟩ := h
    obtain ⟨rfl, rfl⟩ := Event.acceptedCer.inj he
    exact absurd (hc.symm.trans (Node.originHost?_of_identify hp)) (by simp)
  | rejectFirst => rfl
  | fall => trivial
  | stay | refuse => exact h
  | dial | await =>
    obtain ⟨_, _, he, -⟩ := h
    cases he
  | turnAway | turnAwayUnanswered => exact (Stage.not_shunned_alone _ h).elim
  | _ => exact h.elim

lemma Course.shunned {site : Site} {expected : Option String} {first : Event} {bs : List Beat}
    {n : Nat} {s : Stage} (h : Course site expected first bs n s)
    (hf : (Stage.closed first).Shunned) : s.Shunned := by
  induction h with
  | nil => exact hf
  | turn _ _ _ hn _ ih => exact ih.next hn

lemma Stage.Shunned.not_isOpen {s : Stage} (h : s.Shunned) : s.phase.isOpen = false := by
  cases s with
  | closed => rfl
  | rejecting => obtain rfl := h; rfl
  | shut => rfl
  | _ => exact h.elim

namespace Network

/-- How the table begins a connection: it dials a host, or it has read the CER of a stream and
expects the host that the CER names, if it names any. -/
inductive Entrance : Option String → Event → Prop
  | dialed (host : String) : Entrance (some host) .start
  | accepted (stream : Nat) (cer : Message) :
    Entrance cer.originHost? (.acceptedCer stream cer)

variable {site : Site} {expected : Option String} {first : Event} {bs : List Beat}
  {c : Connection} {w w' : Network} {o o' : Outlook} {i : Nat} {host : String}

lemma Entrance.isOpening (h : Entrance expected first) : first.IsOpening := by
  cases h <;> trivial

lemma Entrance.shunned (h : Entrance none first) : (Stage.closed first).Shunned := by
  generalize he : none = expected at h
  cases h with
  | dialed => cases he
  | accepted stream cer => exact ⟨stream, cer, rfl, he.symm⟩

/-- A connection from the table by now, and how it is seen. -/
structure Outlook.Known (site : Site) (o : Outlook) : Prop where
  run : ∃ expected first bs, Entrance expected first ∧
    Connection.Run site (.fresh expected first) bs o.conn
  sight : o.sight = ⟨o.conn.phase, o.conn.identity⟩
  finished : o.finished → o.conn.phase = .shutdown

namespace Outlook.Known

lemma lives (h : o.Known site) (hl : o.Lives site o') : o'.Known site := by
  obtain ⟨⟨expected, first, bs, he, hr⟩, hs, hf⟩ := h
  obtain ⟨ds, hd, hs', hf'⟩ := hl
  refine ⟨⟨expected, first, bs ++ ds, he, hr.append hd⟩, ?_, hf' hf⟩
  rw [hs', hs, ← (hr.lawful he.isOpening).2, ← Sight.seeAll_append, ← Beat.effectsOf_append,
    ((hr.append hd).lawful he.isOpening).2]

lemma expectedHost_eq (h : o.Known site) (hl : o.Lives site o') :
    o'.conn.expectedHost = o.conn.expectedHost := by
  obtain ⟨⟨expected, first, bs, he, hr⟩, -⟩ := h
  obtain ⟨ds, hd, -⟩ := hl
  rw [(hr.append hd).expectedHost_eq he.isOpening, hr.expectedHost_eq he.isOpening]

lemma shutdown (h : o.Known site) (hl : o.Lives site o') (hp : o.conn.phase = .shutdown) :
    o'.conn.phase = .shutdown := by
  obtain ⟨⟨expected, first, bs, he, hr⟩, -⟩ := h
  obtain ⟨ds, hd, -⟩ := hl
  exact hr.shutdown_of_shutdown he.isOpening hd hp

lemma same (h : o.Known site) (he : o.conn.expectedHost = some host) {peer : PeerIdentity}
    (hp : o.conn.identity = some peer) : Identity.same host peer.host := by
  obtain ⟨⟨expected, first, bs, hf, hr⟩, -⟩ := h
  obtain rfl := (hr.expectedHost_eq hf.isOpening).symm.trans he
  exact hr.same_of_identity hf.isOpening hp

lemma not_isOpen (h : o.Known site) (he : o.conn.expectedHost = none) :
    o.conn.phase.isOpen = false := by
  obtain ⟨⟨expected, first, bs, hf, hr⟩, -⟩ := h
  obtain rfl := (hr.expectedHost_eq hf.isOpening).symm.trans he
  obtain ⟨n, s, hs, hc⟩ := hr.course hf.isOpening
  rw [Stage.phase_of_shape hc]
  exact (hs.shunned hf.shunned).not_isOpen

lemma identity_of_isOpen (h : o.Known site) (hp : o.conn.phase.isOpen) :
    ∃ peer, o.conn.identity = some peer := by
  obtain ⟨⟨expected, first, bs, hf, hr⟩, -⟩ := h
  obtain ⟨hl, hs⟩ := hr.lawful hf.isOpening
  have hb := hl.isSome_of_isOpen (by simp [Phase.isOpen])
  rw [hs] at hb
  exact Option.isSome_iff_exists.mp (hb hp)

end Outlook.Known

lemma isLive_of_known (ho : w.outlook? i = some o) (hk : o.Known site)
    (hp : o.conn.phase ≠ .shutdown) : w.isLive i := by
  obtain ⟨m, hm, rfl⟩ := outlook?_eq_some.mp ho
  have hs : m.shownPhase = m.conn.phase := congrArg Sight.phase hk.sight
  have hp : m.conn.phase ≠ .shutdown := hp
  simp [isLive, phaseOf, hm, hs, Phase.isTerminal, hp]

/-! ### What the table knows -/

/-- Connections are as the table began them, the live ones are under their hosts, and nothing else
is in the table but connections that were under their hosts. -/
structure Orderly (w : Network) : Prop where
  known : ∀ i o, w.outlook? i = some o → o.Known w.site
  stored : ∀ i o host, w.outlook? i = some o → o.conn.expectedHost = some host →
    o.conn.phase ≠ .shutdown → w.table.get? host = some i
  tracked : ∀ x ∈ w.table.entries, ∃ o host, w.outlook? x.2 = some o ∧
    o.conn.expectedHost = some host ∧ x.1 = Identity.lower host

/-- The table begins a connection to a host. -/
def enroll (host : String) (first : Event) (w : Network) : Network :=
  let (i, w) := w.spawn (some host) first
  { w with table := w.table.insert host i }

/-- Whatever may happen to a network whose connections are the table's. -/
inductive Served (w₀ : Network) : Network → Prop
  | begin : Served w₀ w₀
  /-- Connections live on, or are shut down. -/
  | live {v w : Network} (h : Served w₀ v) (hl : Evolves v w) : Served w₀ w
  /-- The table forgets some connections, none of which is live. -/
  | forget {v : Network} (h : Served w₀ v) (stays : Nat → Bool) (hs : ∀ i, v.isLive i → stays i) :
    Served w₀ { v with table := v.table.prune stays }
  /-- There is nothing under a host, and the table begins a connection to it. -/
  | enroll {v : Network} {host : String} {first : Event} (h : Served w₀ v)
    (he : Entrance (some host) first) (hn : v.table.get? host = none) :
    Served w₀ (v.enroll host first)
  /-- The table begins a connection to nobody in particular. -/
  | stray {v : Network} {first : Event} (h : Served w₀ v) (he : Entrance none first) :
    Served w₀ (v.spawn none first).2

lemma site_spawn (expected : Option String) (first : Event) (w : Network) :
    (w.spawn expected first).2.site = w.site := (calm_wake _ _).site

lemma table_spawn (expected : Option String) (first : Event) (w : Network) :
    (w.spawn expected first).2.table = w.table := (calm_wake _ _).table

lemma outlook?_spawn (expected : Option String) (first : Event) (w : Network) (j : Nat) :
    (w.spawn expected first).2.outlook? j =
      if j = w.members.size then some ⟨.fresh expected first, {}, false⟩ else w.outlook? j := by
  rw [spawn, (calm_wake _ _).outlook, outlook?, Array.getElem?_push]
  split <;> rfl

lemma known_spawn (hk : ∀ i o, w.outlook? i = some o → o.Known w.site)
    (he : Entrance expected first) (ho : (w.spawn expected first).2.outlook? i = some o) :
    o.Known w.site := by
  rw [outlook?_spawn] at ho
  split at ho
  · obtain rfl := Option.some.inj ho
    exact ⟨⟨expected, first, [], he, .nil⟩, rfl, fun h => absurd h (by simp)⟩
  · exact hk i o ho

namespace Orderly

lemma live (h : w.Orderly) (hl : Evolves w w') : w'.Orderly := by
  refine ⟨fun i o' ho' => ?_, fun i o' host ho' he hp => ?_, fun x hx => ?_⟩
  · obtain ⟨o, ho, hl'⟩ := hl.before ho'
    exact hl.site ▸ (h.known i o ho).lives hl'
  · obtain ⟨o, ho, hl'⟩ := hl.before ho'
    have hk := h.known i o ho
    rw [hl.table]
    exact h.stored i o host ho ((hk.expectedHost_eq hl').symm.trans he) fun hs =>
      hp (hk.shutdown hl' hs)
  · obtain ⟨o, host, ho, he, hx⟩ := h.tracked x (hl.table ▸ hx)
    obtain ⟨o', ho', hl'⟩ := hl.outlook x.2 o ho
    exact ⟨o', host, ho', ((h.known x.2 o ho).expectedHost_eq hl').trans he, hx⟩

lemma forget (h : w.Orderly) {stays : Nat → Bool} (hs : ∀ i, w.isLive i → stays i) :
    ({ w with table := w.table.prune stays } : Network).Orderly where
  known := h.known
  stored i o host ho he hp :=
    have hl := isLive_of_known ho (h.known i o ho) hp
    PeerTable.get?_prune (h.stored i o host ho he hp) (hs i hl)
  tracked x hx := h.tracked x (List.mem_filter.mp hx).1

lemma enroll (h : w.Orderly) (he : Entrance (some host) first) (hn : w.table.get? host = none) :
    (w.enroll host first).Orderly := by
  have ho : ∀ j, (w.enroll host first).outlook? j =
      if j = w.members.size then some ⟨.fresh (some host) first, {}, false⟩ else w.outlook? j :=
    outlook?_spawn (some host) first w
  have ht : (w.enroll host first).table = w.table.insert host w.members.size :=
    congrArg (PeerTable.insert · host w.members.size) (table_spawn (some host) first w)
  refine ⟨fun i o hi => ?_, fun i o other hi he hp => ?_, fun x hx => ?_⟩
  · have hk : o.Known w.site := known_spawn h.known he hi
    exact (site_spawn (some host) first w).symm ▸ hk
  · -- the new member has the host's only entry
    rw [ho] at hi
    rw [ht]
    split at hi
    · rename_i hn
      obtain rfl := Option.some.inj hi
      obtain rfl := Option.some.inj he
      exact hn ▸ PeerTable.get?_insert_self _ _ _
    · -- no other member answers to the host, or it would have been found
      have hg := h.stored i o other hi he hp
      have hne : Identity.same other host = false := by
        by_contra hs
        rw [PeerTable.get?_congr _ (Bool.not_eq_false _ ▸ hs), hn] at hg
        cases hg
      exact (PeerTable.get?_insert_of_ne hne).trans hg
  · rw [ht] at hx
    rcases PeerTable.mem_insert hx with hx | rfl
    · -- entries that were there
      obtain ⟨o, other, hi, he, hk⟩ := h.tracked x hx
      refine ⟨o, other, (ho _).trans ?_, he, hk⟩
      rw [if_neg (Nat.ne_of_lt (outlook?_isSome.mp (by rw [hi]; rfl))), hi]
    · -- the entry of the new member
      exact ⟨_, host, (ho _).trans (if_pos rfl), rfl, rfl⟩

lemma stray (h : w.Orderly) (he : Entrance none first) : (w.spawn none first).2.Orderly := by
  refine ⟨fun i o ho => ?_, fun i o host ho ht hp => ?_, fun x hx => ?_⟩
  · exact (site_spawn none first w).symm ▸ known_spawn h.known he ho
  · rw [outlook?_spawn] at ho
    split at ho
    · obtain rfl := Option.some.inj ho
      cases ht
    · rw [table_spawn]
      exact h.stored i o host ho ht hp
  · rw [table_spawn] at hx
    obtain ⟨o, host, ho, ht, hk⟩ := h.tracked x hx
    refine ⟨o, host, ?_, ht, hk⟩
    rw [outlook?_spawn, if_neg, ho]
    exact Nat.ne_of_lt (outlook?_isSome.mp (by rw [ho]; rfl))

end Orderly

lemma Served.orderly {w₀ : Network} (h : Served w₀ w) (h₀ : w₀.Orderly) : w.Orderly := by
  induction h with
  | begin => exact h₀
  | live _ hl ih => exact ih.live hl
  | forget _ stays hs ih => exact ih.forget hs
  | enroll _ he hn ih => exact ih.enroll he hn
  | stray _ he ih => exact ih.stray he

lemma Served.site_eq {w₀ : Network} (h : Served w₀ w) : w.site = w₀.site := by
  induction h with
  | begin => rfl
  | live _ hl ih => exact hl.site.trans ih
  | forget _ _ _ ih => exact ih
  | enroll _ _ _ ih | stray _ _ ih => exact (site_spawn _ _ _).trans ih

lemma orderly_create (site : Site) (registry : Registry) (ids : Identifiers) (dialing : Dialing) :
    (create site registry ids dialing).Orderly where
  known i o ho := by simp [create, outlook?] at ho
  stored i o host ho := by simp [create, outlook?] at ho
  tracked x hx := by simp [create] at hx

/-! ### Handing streams over -/

/-- A stream is brought to a connection and to no other. It waits there for its turn; where nothing
is handled any more, its acceptor is told so. -/
structure Hands (i : Nat) (a : Acceptor) (cer : Message) (w w' : Network) : Prop where
  others : ∀ j, j ≠ i → w'.members[j]? = w.members[j]?
  waits : ∀ m, w.members[i]? = some m → m.finished = false → w'.members[i]? =
    some { m with mailbox := m.mailbox.offer (.acceptor a.id) (.acceptedCer a.stream cer) }
  late : ∀ m, w.members[i]? = some m → m.finished →
    w'.members[i]? = some m ∧ w'.accepted = w.accepted ++ [(a.id, .error .closed)]

lemma members_wake (a : Activity) (w : Network) : (w.wake a).members = w.members := by
  unfold wake
  split <;> rfl

lemma hands_post (i : Nat) (a : Acceptor) (cer : Message) (w : Network) :
    Hands i a cer w (w.post i (.acceptor a.id) (.acceptedCer a.stream cer)) := by
  unfold post
  split
  · -- there is no such member
    rename_i hm
    refine ⟨fun j _ => rfl, fun m h => ?_, fun m h => ?_⟩ <;>
      exact absurd (hm.symm.trans h) (by simp)
  · rename_i m hm
    split
    · -- it has finished, and the stream is discarded
      rename_i hf
      refine ⟨fun j _ => rfl, fun n hn h => ?_, fun n hn _ => ⟨hn, rfl⟩⟩
      obtain rfl := Option.some.inj (hm.symm.trans hn)
      exact absurd (hf.symm.trans h) (by simp)
    · -- only its mailbox changes
      rename_i hf
      refine ⟨fun j hj => ?_, fun n hn _ => ?_, fun n hn h => ?_⟩
      · rw [members_wake, members_modifyMember, if_neg (Ne.symm hj)]
      · rw [members_wake, members_modifyMember, if_pos rfl, hn]
        rfl
      · obtain rfl := Option.some.inj (hm.symm.trans hn)
        exact absurd h hf

lemma hands_letIn {a : Acceptor} {h : Header} {body : Octets} {cer : Message}
    (hs : PeerTable.screen w.site.node h body = .named host cer)
    (hg : (w.table.prune w.isLive).get? host = some i) : Hands i a cer w (w.letIn a h body) := by
  have hp : ∀ as t, Hands i a cer w (({ w with acceptors := as, table := t } : Network).post i
      (.acceptor a.id) (.acceptedCer a.stream cer)) := fun as t =>
    let hp := hands_post i a cer { w with acceptors := as, table := t }
    ⟨hp.others, hp.waits, hp.late⟩
  unfold letIn
  rw [hs]
  dsimp only
  rw [hg]
  dsimp only
  split
  · rename_i hq
    refine ⟨(hp _ _).others, (hp _ _).waits, fun m hm hf => ?_⟩
    simp [hm, hf] at hq
  · exact hp _ _

/-- There is a connection to a host that is not shut down. -/
def LiveTo (w : Network) (i : Nat) (host : String) : Prop :=
  ∃ m : Member, w.members[i]? = some m ∧ m.conn.expectedHost = some host ∧
    m.conn.phase ≠ .shutdown

/-- What the table sees to. -/
structure Exclusive (w : Network) : Prop where
  /-- What is seen of a connection is how it is. -/
  shown : ∀ (i : Nat) (m : Member), w.members[i]? = some m →
    m.shownPhase = m.conn.phase ∧ m.shownPeer = m.conn.identity
  /-- No two connections to one host are both live. -/
  apart : ∀ i j host other, w.LiveTo i host → w.LiveTo j other → Identity.same host other → i = j
  /-- A connection to nobody in particular is not in the table, and is never open. -/
  unnamed : ∀ (i : Nat) (m : Member), w.members[i]? = some m → m.conn.expectedHost = none →
    m.conn.phase.isOpen = false ∧ ∀ x ∈ w.table.entries, x.2 ≠ i
  /-- An open connection is in the table, under the host that it is bound to in lower case. -/
  stored : ∀ (i : Nat) (m : Member), w.members[i]? = some m → m.conn.phase.isOpen →
    ∃ peer, m.conn.identity = some peer ∧
      w.table.entries.lookup (Identity.lower peer.host) = some i
  /-- A further stream of a host to which there is a live connection is for that connection: the
  look-up finds it, and the stream is brought to it, at once or at any time later. -/
  handed : ∀ i host (a : Acceptor) h body named cer, w.LiveTo i host →
    PeerTable.screen w.site.node h body = .named named cer → Identity.same host named →
    (w.table.prune w.isLive).get? named = some i ∧ Hands i a cer w (w.letIn a h body) ∧
      ∀ v : Network, Hands i a cer v (v.post i (.acceptor a.id) (.acceptedCer a.stream cer))

namespace Orderly

lemma get?_of_liveTo (h : w.Orderly) (hl : w.LiveTo i host) {other : String}
    (hs : Identity.same host other) : w.table.get? other = some i ∧ w.isLive i := by
  obtain ⟨m, hm, he, hp⟩ := hl
  have ho := outlook?_of_member hm
  rw [← PeerTable.get?_congr _ hs]
  exact ⟨h.stored i _ host ho he hp, isLive_of_known ho (h.known i _ ho) hp⟩

lemma exclusive (h : w.Orderly) : w.Exclusive where
  shown i m hm :=
    have hs := (h.known i _ (outlook?_of_member hm)).sight
    ⟨congrArg Sight.phase hs, congrArg Sight.peer hs⟩
  apart i j host other hi hj hs := by
    have hi := (h.get?_of_liveTo hi hs).1
    have hj := (h.get?_of_liveTo hj (Identity.same_iff.mpr rfl)).1
    exact Option.some.inj (hi.symm.trans hj)
  unnamed i m hm he := by
    have ho := outlook?_of_member hm
    refine ⟨(h.known i _ ho).not_isOpen he, ?_⟩
    rintro x hx rfl
    obtain ⟨o, host, ho', ht, -⟩ := h.tracked x hx
    obtain rfl := Option.some.inj (ho.symm.trans ho')
    exact absurd (he.symm.trans ht) (by simp)
  stored i m hm hp := by
    have hk := h.known i _ (outlook?_of_member hm)
    obtain ⟨peer, hi⟩ := hk.identity_of_isOpen hp
    refine ⟨peer, hi, ?_⟩
    cases he : m.conn.expectedHost with
    | none => exact absurd ((hk.not_isOpen he).symm.trans hp) (by simp)
    | some host =>
      refine (h.get?_of_liveTo ⟨m, hm, he, fun hs => ?_⟩ (hk.same he hi)).1
      rw [hs] at hp
      cases hp
  handed i host a hd body named cer hl hs hn := by
    obtain ⟨hg, hv⟩ := h.get?_of_liveTo hl hn
    have hg : (w.table.prune w.isLive).get? named = some i := PeerTable.get?_prune hg hv
    exact ⟨hg, hands_letIn hs hg, hands_post i a cer⟩

end Orderly

/-! ### Everything that is done with a table -/

lemma entrance_of_screen {n : Node} {h : Header} {body : Octets} {cer : Message} (stream : Nat) :
    (PeerTable.screen n h body = .unnamed cer → Entrance none (.acceptedCer stream cer)) ∧
      ∀ host, PeerTable.screen n h body = .named host cer →
        Entrance (some host) (.acceptedCer stream cer) := by
  have he := Entrance.accepted stream cer
  unfold PeerTable.screen
  split
  · simp
  · split
    · simp
    · split <;> rename_i ho
      · refine ⟨fun hc => ?_, by simp⟩
        obtain rfl := PeerTable.Admission.unnamed.inj hc
        exact ho ▸ he
      · refine ⟨by simp, fun host hc => ?_⟩
        obtain ⟨rfl, rfl⟩ := PeerTable.Admission.named.inj hc
        exact ho ▸ he

namespace Served

variable {w₀ : Network}

lemma calm (h : Served w₀ w) (hc : Calm w w') : Served w₀ w' := h.live (.of_calm hc)

lemma prune (h : Served w₀ w) : Served w₀ { w with table := w.table.prune w.isLive } :=
  h.forget w.isLive fun _ hi => hi

lemma letIn (h : Served w₀ w) (a : Acceptor) (hd : Header) (body : Octets) :
    Served w₀ (w.letIn a hd body) := by
  unfold Network.letIn
  split
  · -- refused, so nobody is served
    exact h.calm (calm_turnAway a _ _ w)
  · -- a CER that names nobody gets a connection of its own, outside the table
    rename_i cer hs
    exact (h.stray ((entrance_of_screen a.stream).1 hs)).calm (.of_eq rfl rfl rfl)
  · rename_i host cer hs
    dsimp only
    split
    · -- nobody serves the host yet
      rename_i hn
      have he := h.prune.enroll ((entrance_of_screen a.stream).2 host hs) hn
      exact he.calm (.of_eq rfl rfl rfl)
    · -- the stream is handed to the member that serves the host
      rename_i i _
      have hh : ∀ as, Served w₀
          { w with table := w.table.prune w.isLive, acceptors := as } := fun _ =>
        h.prune.calm (.of_eq rfl rfl rfl)
      have hp := fun as => (hh as).calm
        (calm_post i (.acceptor a.id) (.acceptedCer a.stream cer) _)
      split
      · exact (hp _).calm (.of_eq rfl rfl rfl)
      · exact hp _

lemma piece (h : Served w₀ w) (hp : w.Piece w') : Served w₀ w' := by
  rcases evolves_of_piece hp with hl | ⟨v, a, hd, body, hc, rfl⟩
  · exact h.live hl
  · exact (h.calm hc).letIn a hd body

lemma lasting (w₀ : Network) : Lasting (Served w₀) where
  piece := piece
  wait {v} a rest _ _ h := by
    have hr : Calm v { v with ready := rest } := .of_eq rfl rfl rfl
    exact h.calm (hr.trans (calm_suspend a _))
  handle {v} i link request jobs h := by
    have hj : Calm v { v with jobs := jobs } := .of_eq rfl rfl rfl
    exact h.calm (hj.trans (calm_post i .other _ _))
  ring h := h.live (evolves_ring _)
  drain {v} s h := by
    have hs : Calm v (v.modifyStream s Stream.drain) := .of_eq rfl rfl rfl
    exact h.calm (hs.trans (calm_wakeWriter s _))
  later now h := h.calm (.of_eq rfl rfl rfl)

lemma settle (h : Served w₀ w) : Served w₀ w.settle := (lasting w₀).settle h

/-! ### Users and far ends -/

lemma dialSucceeds (h : Served w₀ w) (i : Nat) (name : String) (far : FarEnd) :
    Served w₀ (w.dialSucceeds i name far) := by
  refine settle ((h.calm (calm_openStream name far w)).calm ?_)
  split
  · exact calm_post i .other _ _
  · exact .of_eq rfl rfl rfl

lemma dialFails (h : Served w₀ w) (i : Nat) (text : String) :
    Served w₀ (w.dialFails i text) := by
  refine settle (h.calm ?_)
  split
  · exact calm_post i .other _ w
  · exact .refl w

lemma incoming (h : Served w₀ w) (i : Nat) (name : String) (far : FarEnd) (cer : Message) :
    Served w₀ (w.incoming i name far cer).2 :=
  settle ((h.calm (calm_openStream name far w)).calm (calm_post i .other _ _))

lemma send (h : Served w₀ w) (i : Nat) (requests : List Message) :
    Served w₀ (w.send i requests) := by
  refine settle (h.calm (Calm.foldl (fun w request => .trans ?_ (calm_wake _ _)) _ _))
  exact .of_eq rfl rfl rfl

lemma stop (h : Served w₀ w) (i : Nat) (cause : DisconnectCause) :
    Served w₀ (w.stop i cause) :=
  settle ((h.calm (calm_ticket w)).calm (calm_post i .other _ _))

lemma tableAccept (h : Served w₀ w) (b : Octets) (gone : Bool) :
    Served w₀ (w.tableAccept b gone) := by
  refine settle (h.calm (.trans ?_ (calm_wake _ _)))
  dsimp only
  split <;> exact .of_eq rfl rfl rfl

lemma tableConnect (h : Served w₀ w) (host : String) :
    Served w₀ (w.tableConnect host).2.2 := by
  have hp := (h.calm (calm_ticket w)).prune
  unfold Network.tableConnect
  dsimp only
  split
  · exact hp
  · rename_i hn
    exact settle (hp.enroll (.dialed host) hn)

lemma tableHosts (h : Served w₀ w) : Served w₀ w.tableHosts.2 := h.prune

lemma farWriteTo (h : Served w₀ w) (i : Nat) (b : Octets) :
    Served w₀ (w.farWriteTo i b).2 := by
  fun_induction Network.farWriteTo i b w with
  | case1 | case2 | case3 | case4 => exact h
  | case5 w c b s _ _ _ n v _ ih =>
    have hv : Calm w v := .of_eq rfl rfl rfl
    exact ih (settle (h.calm (hv.trans (calm_wakeReaders i v))))

lemma farWrite (h : Served w₀ w) (name : String) (b : Octets) :
    Served w₀ (w.farWrite name b).2 := by
  unfold Network.farWrite
  split
  · exact h
  · exact h.farWriteTo _ b

lemma farRead (h : Served w₀ w) (name : String) : Served w₀ (w.farRead name) := by
  unfold Network.farRead
  split
  · exact h
  · exact settle (h.calm (.of_eq rfl rfl rfl))

lemma farClose (h : Served w₀ w) (name : String) : Served w₀ (w.farClose name) := by
  unfold Network.farClose
  split
  · exact h
  · rename_i s _ _
    have hs : Calm w (w.modifyStream s Stream.closeFar) := .of_eq rfl rfl rfl
    exact settle (h.calm ((hs.trans (calm_wakeReaders s _)).trans (calm_wakeWriter s _)))

lemma look (h : Served w₀ w) : Served w₀ w.look.2 := by
  refine h.calm ⟨rfl, rfl, fun j => ?_⟩
  simp only [outlook?, Network.look, Array.getElem?_map, Option.map_map]
  rfl

end Served

/-- A network that users and far ends make of another. They leave it to the table to begin
connections, and take none out of it; to look one up changes nothing. -/
inductive Tabled (w₀ : Network) : Network → Prop
  | begin : Tabled w₀ w₀
  | tableConnect {v : Network} (h : Tabled w₀ v) (host : String) :
    Tabled w₀ (v.tableConnect host).2.2
  | tableAccept {v : Network} (h : Tabled w₀ v) (b : Octets) (gone : Bool) :
    Tabled w₀ (v.tableAccept b gone)
  | tableHosts {v : Network} (h : Tabled w₀ v) : Tabled w₀ v.tableHosts.2
  | dialSucceeds {v : Network} (h : Tabled w₀ v) (i : Nat) (name : String) (far : FarEnd) :
    Tabled w₀ (v.dialSucceeds i name far)
  | dialFails {v : Network} (h : Tabled w₀ v) (i : Nat) (text : String) :
    Tabled w₀ (v.dialFails i text)
  | incoming {v : Network} (h : Tabled w₀ v) (i : Nat) (name : String) (far : FarEnd)
    (cer : Message) : Tabled w₀ (v.incoming i name far cer).2
  | send {v : Network} (h : Tabled w₀ v) (i : Nat) (requests : List Message) :
    Tabled w₀ (v.send i requests)
  | stop {v : Network} (h : Tabled w₀ v) (i : Nat) (cause : DisconnectCause) :
    Tabled w₀ (v.stop i cause)
  | farWrite {v : Network} (h : Tabled w₀ v) (name : String) (b : Octets) :
    Tabled w₀ (v.farWrite name b).2
  | farRead {v : Network} (h : Tabled w₀ v) (name : String) : Tabled w₀ (v.farRead name)
  | farClose {v : Network} (h : Tabled w₀ v) (name : String) : Tabled w₀ (v.farClose name)
  | advance {v : Network} (h : Tabled w₀ v) (ms : Nat) : Tabled w₀ (v.advance ms)
  | look {v : Network} (h : Tabled w₀ v) : Tabled w₀ v.look.2

lemma Tabled.served {w₀ : Network} (h : Tabled w₀ w) : Served w₀ w := by
  induction h with
  | begin => exact .begin
  | tableConnect _ host ih => exact ih.tableConnect host
  | tableAccept _ b gone ih => exact ih.tableAccept b gone
  | tableHosts _ ih => exact ih.tableHosts
  | dialSucceeds _ i name far ih => exact ih.dialSucceeds i name far
  | dialFails _ i text ih => exact ih.dialFails i text
  | incoming _ i name far cer ih => exact ih.incoming i name far cer
  | send _ i requests ih => exact ih.send i requests
  | stop _ i cause ih => exact ih.stop i cause
  | farWrite _ name b ih => exact ih.farWrite name b
  | farRead _ name ih => exact ih.farRead name
  | farClose _ name ih => exact ih.farClose name
  | advance _ ms ih => exact (Served.lasting w₀).advance ms ih
  | look _ ih => exact ih.look


variable {registry : Registry} {ids : Identifiers} {dialing : Dialing}

/-- **One live connection per host.** In a network whose connections are begun by its table, and
none of which is taken out of it, no two connections to one host are both live, whatever becomes of
them and whenever; an open connection is in the table under its host; and a further stream of a host
to which there is a live connection is for that connection and for no other. All that users and far
ends do, save to begin connections themselves, keeps to this. -/
theorem one_live_connection (site : Site) (registry : Registry) (ids : Identifiers)
    (dialing : Dialing) :
    (∀ w, Served (create site registry ids dialing) w → w.Exclusive) ∧
      ∀ w, Tabled (create site registry ids dialing) w →
        Served (create site registry ids dialing) w :=
  ⟨fun _ h => (h.orderly (orderly_create site registry ids dialing)).exclusive,
    fun _ h => h.served⟩

/-- The table dials the host B when a stream comes whose CER names the host b. -/
theorem one_live_connection_dialed :
    let site : Site := ⟨Node.plain "a", {}⟩
    let cer := ((Node.plain "b").cer {}).1
    let w := ((create site {} {} .pending).tableConnect "B").2.2
    Tabled (create site {} {} .pending) w ∧ w.LiveTo 0 "B" ∧
      PeerTable.screen site.node cer.header (cer.encode.drop 20) = .named "b" cer ∧
      Hands 0 ⟨2, 0, 30000, none⟩ cer w
        (w.letIn ⟨2, 0, 30000, none⟩ cer.header (cer.encode.drop 20)) := by
  intro site cer w
  have all := one_live_connection site {} {} .pending
  have ht : Tabled (create site {} {} .pending) w := .tableConnect .begin "B"
  have hd : w.members[0]?.map (fun m => (m.conn.expectedHost, m.conn.phase)) =
      some (some "B", .waitConnAck) := by decide +kernel
  have hl : w.LiveTo 0 "B" := by
    obtain ⟨m, hm, he⟩ := Option.map_eq_some_iff.mp hd
    obtain ⟨he, hp⟩ := Prod.mk.inj he
    exact ⟨m, hm, he, by rw [hp]; decide⟩
  have hm : Message.ofBody cer.header (cer.encode.drop 20) = .ok cer := by decide +kernel
  have hc : cer.isCer ∧ cer.originHost? = some "b" := by decide +kernel
  have hs : PeerTable.screen site.node cer.header (cer.encode.drop 20) = .named "b" cer := by
    simp [PeerTable.screen, hm, hc]
  have hw : w.site = site := (all.2 w ht).site_eq
  have hb : Identity.lower "B" = "b" ∧ Identity.lower "b" = "b" := by decide +kernel
  have handed := (all.1 w (all.2 w ht)).handed 0 "B" ⟨2, 0, 30000, none⟩ cer.header
    (cer.encode.drop 20) "b" cer hl (by rw [hw]; exact hs)
    (Identity.same_iff.mpr (hb.1.trans hb.2.symm))
  exact ⟨ht, hl, hs, handed.2.1⟩

end Network

end Diameter
