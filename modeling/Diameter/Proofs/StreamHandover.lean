import Mathlib.Data.List.Flatten
import Diameter.Network.Outside
import Diameter.Proofs.AttachedStreams
import Diameter.Proofs.Tidy

/-!
What most of a network's work leaves alone.

The streams of a network are held by its connections, by the events that wait to be handled, and by
the acceptors that have not handed them over. Posting, waking, replying and looking on write nothing
and leave every connection as it is, but for alarms that ring; a stream changes hands at most
(`Network.Passes`).
-/

namespace Diameter

lemma List.count_flatMap_modify {α β : Type} [BEq β] {l : List α} {i : Nat} {a : α}
    (h : l[i]? = some a) (f : α → α) (g : α → List β) (b : β) :
    ((l.modify i f).flatMap g).count b + (g a).count b =
      (l.flatMap g).count b + (g (f a)).count b := by
  induction l generalizing i with
  | nil => simp at h
  | cons x l ih =>
    cases i with
    | zero =>
      obtain rfl : x = a := by simpa using h
      simp only [List.modify_zero_cons, List.flatMap_cons, List.count_append]
      omega
    | succ i =>
      have := ih (by simpa using h)
      simp only [List.modify_succ_cons, List.flatMap_cons, List.count_append]
      omega

lemma List.count_le_flatMap {α β : Type} [BEq β] {l : List α} {a : α} (h : a ∈ l)
    (g : α → List β) (b : β) : (g a).count b ≤ (l.flatMap g).count b :=
  (List.sublist_flatten_of_mem (List.mem_map_of_mem h)).count_le b

lemma List.count_add_count_le_flatMap {α β : Type} [BEq β] {l : List α} {i j : Nat} {a c : α}
    (hi : l[i]? = some a) (hj : l[j]? = some c) (hij : i ≠ j) (g : α → List β) (b : β) :
    (g a).count b + (g c).count b ≤ (l.flatMap g).count b := by
  have one : ∀ {l : List α} {j : Nat} {c : α}, l[j]? = some c →
      (g c).count b ≤ (l.flatMap g).count b := fun h =>
    List.count_le_flatMap (List.mem_of_getElem? h) g b
  induction l generalizing i j with
  | nil => simp at hi
  | cons x l ih =>
    rw [List.flatMap_cons, List.count_append]
    cases i with
    | zero =>
      obtain rfl : x = a := by simpa using hi
      cases j with
      | zero => exact absurd rfl hij
      | succ j => exact Nat.add_le_add_left (one (by simpa using hj)) _
    | succ i =>
      have hi : l[i]? = some a := by simpa using hi
      cases j with
      | zero =>
        obtain rfl : x = c := by simpa using hj
        have := one hi
        omega
      | succ j =>
        have := ih hi (by simpa using hj) (by omega)
        omega

lemma List.count_flatMap_filter {α β : Type} [BEq β] {l : List α} {a : α} (ha : a ∈ l)
    {p : α → Bool} (hp : p a = false) (g : α → List β) (b : β) :
    ((l.filter p).flatMap g).count b + (g a).count b ≤ (l.flatMap g).count b := by
  have less : ∀ as : List α, ((as.filter p).flatMap g).count b ≤ (as.flatMap g).count b :=
    fun as => (List.Sublist.flatMap List.filter_sublist g).count_le b
  obtain ⟨as, ds, rfl⟩ := List.append_of_mem ha
  have := less as
  have := less ds
  simp only [List.filter_append, List.filter_cons_of_neg (Bool.not_eq_true _ ▸ hp),
    List.flatMap_append, List.flatMap_cons, List.count_append]
  omega

lemma List.count_flatMap_map {α β : Type} [BEq β] {l : List α} {a : α} (ha : a ∈ l) {f : α → α}
    {g : α → List β} {b : β} (hf : ∀ x, (g (f x)).count b ≤ (g x).count b) :
    ((l.map f).flatMap g).count b + (g a).count b ≤
      (l.flatMap g).count b + (g (f a)).count b := by
  have less : ∀ as : List α, ((as.map f).flatMap g).count b ≤ (as.flatMap g).count b := by
    intro as
    induction as with
    | nil => exact Nat.le_refl _
    | cons x as ih =>
      simp only [List.map_cons, List.flatMap_cons, List.count_append]
      exact Nat.add_le_add (hf x) ih
  obtain ⟨as, ds, rfl⟩ := List.append_of_mem ha
  have := less as
  have := less ds
  simp only [List.map_append, List.map_cons, List.flatMap_append, List.flatMap_cons,
    List.count_append]
  omega

namespace Network

/-- Events that wait to be handled, or to be allowed to wait for it. -/
def Mailbox.events (m : Mailbox) : List Event :=
  m.queued ++ m.called.map (·.event) ++ m.waiting.map (·.event)

/-- The streams that they bring. -/
def Mailbox.streams (m : Mailbox) : List Nat := m.events.filterMap Event.stream?

/-- The streams of a connection and of what waits for it. -/
def Member.streams (m : Member) : List Nat := m.conn.streams ++ m.mailbox.streams

/-- The stream of an acceptor that has not handed it over. -/
def Acceptor.streams (a : Acceptor) : List Nat := if a.handingTo.isNone then [a.stream] else []

/-- Every stream that somebody has. -/
def held (w : Network) : List Nat :=
  w.members.toList.flatMap Member.streams ++ w.acceptors.flatMap Acceptor.streams

/-- What waits on a stream for its far end. -/
def outboundOf (w : Network) (s : Nat) : Octets := (w.streams[s]?.map (·.outbound)).getD []

/-- A connection as it is begun. -/
def Member.IsNew (m : Member) : Prop :=
  ∃ expected first, Event.IsOpening first ∧ m.conn = .fresh expected first

/-- The connection is as it was, but for alarms that have rung. -/
structure Member.Still (m m' : Member) : Prop where
  conn : ∃ alarms, m'.conn = { m.conn with alarms := alarms } ∧
    alarms.armed.Sublist m.conn.alarms.armed
  unwritten : m'.unwritten = m.unwritten

/-- Nothing is written and no connection takes a turn. Some streams come to be held, and others are
let go. -/
structure Passes (gain loss : List Nat) (w w' : Network) : Prop where
  site : w'.site = w.site
  size : w'.streams.size = w.streams.size
  outbound : ∀ s, w'.outboundOf s = w.outboundOf s
  grows : w.members.size ≤ w'.members.size
  members : ∀ (i : Nat) (m' : Member), w'.members[i]? = some m' →
    ∃ m : Member, (w.members[i]? = some m ∨ w.members[i]? = none ∧ m.IsNew) ∧ m.Still m'
  balance : ∀ k, w'.held.count k + loss.count k ≤ w.held.count k + gain.count k

namespace Member.Still

variable {m m' m'' : Member}

lemma refl (m : Member) : m.Still m := ⟨⟨_, rfl, .refl _⟩, rfl⟩

lemma trans (h : m.Still m') (h' : m'.Still m'') : m.Still m'' := by
  obtain ⟨⟨_, hc, ha⟩, hu⟩ := h
  obtain ⟨⟨_, hc', ha'⟩, hu'⟩ := h'
  refine ⟨⟨_, by rw [hc', hc], ?_⟩, hu'.trans hu⟩
  rw [hc] at ha'
  exact ha'.trans ha

lemma of_eq (hc : m'.conn = m.conn) (hu : m'.unwritten = m.unwritten) : m.Still m' :=
  ⟨⟨m.conn.alarms, hc, .refl _⟩, hu⟩

lemma shape (h : m.Still m') : m'.conn.shape = m.conn.shape := by
  obtain ⟨_, hc, -⟩ := h.conn
  rw [hc]
  rfl

lemma writing (h : m.Still m') : m'.conn.writing = m.conn.writing :=
  congrArg Shape.writing h.shape

end Member.Still

/-! ### The queue of a connection -/

namespace Mailbox

variable {m m' : Mailbox} {p : Poster} {e : Event} {x : Waiter}

lemma streams_eq (m : Mailbox) : m.streams = m.queued.flatMap (·.stream?.toList) ++
    m.called.flatMap (·.event.stream?.toList) ++ m.waiting.flatMap (·.event.stream?.toList) := by
  simp only [streams, events, List.filterMap_append, List.filterMap_map]
  simp only [List.filterMap_eq_flatMap_toList]
  rfl

lemma count_offer (m : Mailbox) (p : Poster) (e : Event) (k : Nat) :
    (m.offer p e).streams.count k = m.streams.count k + e.stream?.toList.count k := by
  unfold offer
  split
  all_goals
    simp only [streams_eq, List.flatMap_append, List.count_append, List.flatMap_singleton]
    omega

lemma streams_call (m : Mailbox) : m.call.2.streams = m.streams := by
  simp only [streams_eq, call, List.flatMap_append, List.append_assoc]
  rw [← List.flatMap_append, List.take_append_drop]

lemma count_pop (h : m.pop? = some (e, m')) (k : Nat) :
    m'.streams.count k + e.stream?.toList.count k = m.streams.count k := by
  unfold pop? at h
  split at h
  · cases h
  · rename_i hq
    cases h
    simp only [streams_eq, hq, List.count_append, List.flatMap_cons]
    omega

lemma count_enter (h : x ∈ m.called) (k : Nat) :
    (m.enter x).streams.count k ≤ m.streams.count k := by
  have := List.count_flatMap_filter h (p := (·.number ≠ x.number)) (by simp)
    (·.event.stream?.toList) k
  simp only [streams_eq, enter, List.flatMap_append, List.count_append, List.flatMap_singleton]
  omega

lemma count_keep (m : Mailbox) (stays : Waiter → Bool) (k : Nat) :
    (m.keep stays).streams.count k ≤ m.streams.count k := by
  have hc := (List.Sublist.flatMap (m.called.filter_sublist (p := stays))
    (·.event.stream?.toList)).count_le k
  have hw := (List.Sublist.flatMap (m.waiting.filter_sublist (p := stays))
    (·.event.stream?.toList)).count_le k
  simp only [streams_eq, keep, List.count_append]
  omega

end Mailbox

namespace Passes

variable {b c l r : List Nat} {w w' w'' : Network} {i : Nat} {m : Member}

lemma trans (h : Passes b l w w') (h' : Passes c r w' w'') :
    Passes (b ++ c) (l ++ r) w w'' where
  site := h'.site.trans h.site
  size := h'.size.trans h.size
  outbound s := (h'.outbound s).trans (h.outbound s)
  grows := Nat.le_trans h.grows h'.grows
  members i m'' hm := by
    obtain ⟨m', hm' | ⟨hn, hnew⟩, hs'⟩ := h'.members i m'' hm
    · obtain ⟨m, hm, hs⟩ := h.members i m' hm'
      exact ⟨m, hm, hs.trans hs'⟩
    · have hn : w.members[i]? = none :=
        Array.getElem?_eq_none (Nat.le_trans h.grows (Array.getElem?_eq_none_iff.mp hn))
      exact ⟨m', .inr ⟨hn, hnew⟩, hs'⟩
  balance k := by
    have := h.balance k
    have := h'.balance k
    simp only [List.count_append]
    omega

lemma after (h : Passes b l w w') (h' : Passes [] [] w' w'') : Passes b l w w'' := by
  simpa using h.trans h'

lemma before (h : Passes [] [] w w') (h' : Passes b l w' w'') : Passes b l w w'' := h.trans h'

lemma idle (h : Passes [] l w w') : Passes b l w w' where
  site := h.site
  size := h.size
  outbound := h.outbound
  grows := h.grows
  members := h.members
  balance k := Nat.le_trans (h.balance k) (Nat.add_le_add_left (Nat.zero_le _) _)

lemma keep (h : Passes b l w w') : Passes b [] w w' where
  site := h.site
  size := h.size
  outbound := h.outbound
  grows := h.grows
  members := h.members
  balance k := Nat.le_trans (Nat.add_le_add_left (Nat.zero_le _) _) (h.balance k)

lemma member (h : Passes b l w w') (hm : w.members[i]? = some m) :
    ∃ m' : Member, w'.members[i]? = some m' ∧ m.Still m' := by
  have hi : i < w'.members.size :=
    Nat.lt_of_lt_of_le (Array.getElem?_eq_some_iff.mp hm).1 h.grows
  have hm' : w'.members[i]? = some w'.members[i] := Array.getElem?_eq_getElem hi
  obtain ⟨m₀, hm₀ | ⟨hn, -⟩, hs⟩ := h.members i _ hm'
  · obtain rfl := Option.some.inj (hm.symm.trans hm₀)
    exact ⟨_, hm', hs⟩
  · exact absurd (hm.symm.trans hn) (by simp)

lemma of_eq (hs : w'.site = w.site) (hst : w'.streams = w.streams) (hm : w'.members = w.members)
    (ha : w'.acceptors = w.acceptors) : Passes [] [] w w' where
  site := hs
  size := by rw [hst]
  outbound s := by rw [outboundOf, hst, outboundOf]
  grows := Nat.le_of_eq (by rw [hm])
  members i m h := ⟨m, .inl (hm ▸ h), .refl m⟩
  balance k := Nat.le_of_eq (by rw [held, hm, ha, held])

lemma refl (w : Network) : Passes [] [] w w := of_eq rfl rfl rfl rfl

lemma cancel (h : Passes b b w w') : Passes [] [] w w' where
  site := h.site
  size := h.size
  outbound := h.outbound
  grows := h.grows
  members := h.members
  balance k := by
    have := h.balance k
    simp only [List.count_nil]
    omega

lemma foldl {α : Type} {f : Network → α → Network} {as : List α}
    (hf : ∀ w, ∀ a ∈ as, Passes [] [] w (f w a)) (w : Network) :
    Passes [] [] w (as.foldl f w) := by
  induction as generalizing w with
  | nil => exact .refl w
  | cons a as ih =>
    exact (hf w a List.mem_cons_self).trans
      (ih (fun w b hb => hf w b (List.mem_cons_of_mem _ hb)) _)

end Passes

variable {b c l : List Nat} {w w' : Network} {i : Nat} {m : Member}

/-! ### Members, streams and acceptors -/

lemma held_modifyMember (hm : w.members[i]? = some m) (f : Member → Member) (k : Nat) :
    (w.modifyMember i f).held.count k + m.streams.count k =
      w.held.count k + (f m).streams.count k := by
  have hl : w.members.toList[i]? = some m := by simpa using hm
  have := List.count_flatMap_modify hl f Member.streams k
  simp only [held, modifyMember, Array.toList_modify, List.count_append] at this ⊢
  omega

lemma members_modifyMember (f : Member → Member) (j : Nat) :
    (w.modifyMember i f).members[j]? = if i = j then w.members[j]?.map f else w.members[j]? :=
  Array.getElem?_modify

lemma members_modifyMember_cases (hm : w.members[i]? = some m) {f : Member → Member} {j : Nat}
    {m' : Member} (h : (w.modifyMember i f).members[j]? = some m') :
    (j = i ∧ m' = f m) ∨ j ≠ i ∧ w.members[j]? = some m' := by
  rw [members_modifyMember] at h
  split at h
  · rename_i hij
    rw [← hij, hm] at h
    exact .inl ⟨hij.symm, (Option.some.inj h).symm⟩
  · rename_i hij
    exact .inr ⟨Ne.symm hij, h⟩

lemma modifyMember_of_none (h : w.members[i]? = none) (f : Member → Member) :
    w.modifyMember i f = w := by
  have hm : w.members.modify i f = w.members := by
    refine Array.ext_getElem? fun j => ?_
    rw [Array.getElem?_modify]
    split
    · rename_i hij
      rw [← hij, h]
      rfl
    · rfl
  rw [modifyMember, hm]

lemma passes_modifyMember (w : Network) {f : Member → Member} (hm : w.members[i]? = some m)
    (hf : m.Still (f m))
    (hs : ∀ k, (f m).streams.count k + l.count k ≤ m.streams.count k + b.count k) :
    Passes b l w (w.modifyMember i f) where
  site := rfl
  size := rfl
  outbound _ := rfl
  grows := by simp [modifyMember]
  members j m' h := by
    rcases members_modifyMember_cases hm h with ⟨rfl, rfl⟩ | ⟨-, h⟩
    · exact ⟨m, .inl hm, hf⟩
    · exact ⟨m', .inl h, .refl m'⟩
  balance k := by
    have := held_modifyMember hm f k
    have := hs k
    omega

lemma passes_modifyMember_aside (w : Network) (i : Nat) {f : Member → Member}
    (hc : ∀ m, (f m).conn = m.conn) (hu : ∀ m, (f m).unwritten = m.unwritten)
    (hs : ∀ m k, (f m).mailbox.streams.count k ≤ m.mailbox.streams.count k) :
    Passes [] [] w (w.modifyMember i f) := by
  cases hm : w.members[i]? with
  | none =>
    rw [modifyMember_of_none hm]
    exact .refl w
  | some m =>
    refine passes_modifyMember w hm (.of_eq (hc m) (hu m)) fun k => ?_
    have := hs m k
    simp only [Member.streams, hc, List.count_append, List.count_nil]
    omega

lemma outboundOf_modifyStream (s : Nat) {f : Stream → Stream}
    (hf : ∀ st, w.streams[s]? = some st → (f st).outbound = st.outbound) (j : Nat) :
    (w.modifyStream s f).outboundOf j = w.outboundOf j := by
  simp only [outboundOf, modifyStream, Array.getElem?_modify]
  split
  · rename_i hj
    subst hj
    cases hs : w.streams[s]? with
    | none => rfl
    | some st => simp [hf st hs]
  · rfl

lemma passes_modifyStream (w : Network) (s : Nat) {f : Stream → Stream}
    (hf : ∀ st, w.streams[s]? = some st → (f st).outbound = st.outbound) :
    Passes [] [] w (w.modifyStream s f) where
  site := rfl
  size := by simp [modifyStream]
  outbound := outboundOf_modifyStream s hf
  grows := Nat.le_refl _
  members i m h := ⟨m, .inl h, .refl m⟩
  balance _ := Nat.le_refl _

lemma passes_acceptors (hs : w'.site = w.site) (hst : w'.streams = w.streams)
    (hm : w'.members = w.members)
    (ha : ∀ k, (w'.acceptors.flatMap Acceptor.streams).count k + l.count k ≤
      (w.acceptors.flatMap Acceptor.streams).count k) : Passes [] l w w' where
  site := hs
  size := by rw [hst]
  outbound s := by rw [outboundOf, hst, outboundOf]
  grows := Nat.le_of_eq (by rw [hm])
  members i m h := ⟨m, .inl (hm ▸ h), .refl m⟩
  balance k := by
    have := ha k
    simp only [held, hm, List.count_append, List.count_nil]
    omega

/-! ### Waking, replying, posting -/

lemma passes_wake (a : Activity) (w : Network) : Passes [] [] w (w.wake a) := by
  unfold wake
  split
  · exact .refl w
  · exact .of_eq rfl rfl rfl rfl

lemma passes_wakeIf (p : Prop) [Decidable p] (a : Activity) (w : Network) :
    Passes [] [] w (if p then w.wake a else w) := by
  split
  · exact passes_wake a w
  · exact .refl w

lemma passes_closeNear (s : Nat) (w : Network) : Passes [] [] w (w.closeNear s) :=
  passes_modifyStream w s fun _ _ => rfl

lemma passes_reply (id : Nat) (m : Message) (w : Network) : Passes [] [] w (w.reply id m) := by
  refine .before ?_ (passes_wake (.sender id) _)
  exact .of_eq rfl rfl rfl rfl

lemma passes_abandon (id : Nat) (w : Network) : Passes [] [] w (w.abandon id) := by
  unfold abandon
  split
  · exact passes_reply _ _ w
  · exact .refl w

lemma passes_release (i id : Nat) (w : Network) : Passes [] [] w (w.release i id) :=
  .of_eq rfl rfl rfl rfl

lemma passes_conclude (id : Nat) (r : Except Failure (Option String)) (w : Network) :
    Passes [] [] w (w.conclude id r) :=
  passes_acceptors rfl rfl rfl fun k =>
    (List.Sublist.flatMap List.filter_sublist _).count_le k

lemma passes_conclude_of_mem {a : Acceptor} (ha : a ∈ w.acceptors) (hh : a.handingTo = none)
    (r : Except Failure (Option String)) : Passes [] [a.stream] w (w.conclude a.id r) :=
  passes_acceptors rfl rfl rfl fun k => by
    have := List.count_flatMap_filter ha (p := (·.id ≠ a.id)) (by simp) Acceptor.streams k
    rwa [Acceptor.streams, hh] at this

lemma passes_handing {a : Acceptor} (ha : a ∈ w.acceptors) (hh : a.handingTo = none) (i : Nat) :
    Passes [] [a.stream] w { w with
      acceptors := w.acceptors.map fun b =>
        if b.id = a.id then { b with handingTo := some i } else b } :=
  passes_acceptors rfl rfl rfl fun k => by
    have hf : ∀ b : Acceptor,
        (if b.id = a.id then { b with handingTo := some i } else b).streams.count k ≤
          b.streams.count k := by
      intro b
      split
      · exact Nat.zero_le _
      · exact Nat.le_refl _
    have := List.count_flatMap_map ha hf
    rwa [if_pos rfl, Acceptor.streams, hh] at this

lemma passes_closeNear_conclude {a : Acceptor} (ha : a ∈ w.acceptors) (hh : a.handingTo = none)
    (r : Except Failure (Option String)) :
    Passes [] [a.stream] w ((w.closeNear a.stream).conclude a.id r) :=
  .before (passes_closeNear a.stream w)
    (passes_conclude_of_mem (w := w.closeNear a.stream) ha hh r)

lemma passes_discard (i : Nat) (p : Poster) (e : Event) (w : Network) :
    Passes [] [] w (w.discard i p e) := by
  unfold discard
  extract_lets w'
  have hw : Passes [] [] w w' := by
    unfold w'
    split
    · exact passes_abandon _ w
    · exact passes_release _ _ w
    · exact passes_closeNear _ w
    · exact passes_closeNear _ w
    · exact passes_closeNear _ w
    · exact .refl w
  split
  · exact .before hw (passes_conclude _ _ _)
  · exact hw

lemma passes_callWaiters (i : Nat) (w : Network) : Passes [] [] w (w.callWaiters i) := by
  unfold callWaiters
  split
  · exact .refl w
  · rename_i m hm
    refine .before (passes_modifyMember w hm (.of_eq rfl rfl) fun k => ?_)
      (Passes.foldl (fun w x _ => passes_wake _ w) _)
    have hs : m.mailbox.call.2.streams.count k = _ := congrArg (List.count k) m.mailbox.streams_call
    simp only [Mailbox.call] at hs
    simp only [Member.streams, List.count_append, hs]
    omega

lemma passes_enter (w : Network) {x : Waiter} (hm : w.members[i]? = some m)
    (hx : x ∈ m.mailbox.called) : Passes [] [] w (w.enter i x) := by
  refine .before (passes_modifyMember w hm (.of_eq rfl rfl) fun k => ?_) (passes_wake _ _)
  have := Mailbox.count_enter hx k
  simp only [Member.streams, List.count_append]
  omega

lemma passes_post (i : Nat) (p : Poster) (e : Event) (w : Network) :
    Passes e.stream?.toList [] w (w.post i p e) := by
  unfold post
  split
  · exact .idle (.refl w)
  · rename_i m hm
    split
    · exact .idle (passes_discard i p e w)
    · refine .after (passes_modifyMember w hm (.of_eq rfl rfl) fun k => ?_) (passes_wake _ _)
      simp only [Member.streams, List.count_append, Mailbox.count_offer, List.count_nil]
      omega

lemma passes_post_of_none {e : Event} (he : e.stream? = none) (i : Nat) (p : Poster)
    (w : Network) : Passes [] [] w (w.post i p e) := by
  have := passes_post i p e w
  rwa [he] at this

/-! ### Turns -/

lemma passes_perform (i : Nat) (w : Network) (e : Effect) : Passes [] [] w (w.perform i e) := by
  cases e with
  | note | dispatch => exact .of_eq rfl rfl rfl rfl
  | showPhase | showPeer =>
    exact passes_modifyMember_aside w i (fun _ => rfl) (fun _ => rfl) fun _ _ => Nat.le_refl _
  | complete c => exact passes_reply _ _ w
  | abandon waiter => exact passes_abandon waiter w
  | release waiter => exact passes_release i waiter w
  | dial =>
    simp only [perform]
    split
    · exact .refl w
    · exact passes_post_of_none rfl i .other w
  | abandonDial => exact .refl w
  | listen link =>
    refine .before ?_ (passes_wake _ _)
    exact passes_modifyMember_aside w i (fun _ => rfl) (fun _ => rfl) fun _ _ => Nat.le_refl _
  | hangUp link =>
    refine .before ?_ (passes_closeNear _ _)
    exact passes_modifyMember_aside w i (fun _ => rfl) (fun _ => rfl) fun m =>
      m.mailbox.count_keep _
  | refuse stream => exact passes_closeNear stream w

lemma passes_spawn (expected : Option String) {first : Event} (hf : first.IsOpening) (w : Network) :
    Passes first.stream?.toList [] w (w.spawn expected first).2 := by
  refine .after ?_ (passes_wake _ _)
  refine ⟨rfl, rfl, fun _ => rfl, by simp, fun i m hm => ?_, fun k => ?_⟩
  · rw [Array.getElem?_push] at hm
    split at hm
    · rename_i hi
      obtain rfl := Option.some.inj hm
      exact ⟨_, .inr ⟨by simp [hi], expected, first, hf, rfl⟩, .refl _⟩
    · exact ⟨m, .inl hm, .refl m⟩
  · have hc : (Connection.fresh expected first).streams = first.stream?.toList :=
      Connection.streams_of_stage (n := 0) (s := .closed first) rfl hf
    rw [Connection.fresh] at hc
    simp only [held, Array.toList_push, List.flatMap_append, List.flatMap_singleton,
      List.count_append, Member.streams, hc, List.count_nil]
    simp [Mailbox.streams, Mailbox.events]
    omega

/-- A connection after a turn. -/
def Member.after (t : Turn) (m : Member) : Member :=
  { m with
    conn := t.conn
    unwritten := match t.conn.writing with
      | some x => x.message.encode
      | none => []
    mailbox := m.mailbox.keep (staysInLine t.conn) }

lemma passes_turn (i : Nat) (m : Member) (input : Input) (w : Network) :
    Passes [] [] (w.modifyMember i (.after (m.conn.step w.site w.now w.serial w.ids input)))
      (w.turn i m input) := by
  unfold turn
  refine .before ?_ (passes_wakeIf _ _ _)
  refine .before ?_ (passes_callWaiters i _)
  refine .before ?_ (Passes.foldl (fun w e _ => passes_perform i w e) _)
  exact .of_eq rfl rfl rfl rfl

end Network

end Diameter
