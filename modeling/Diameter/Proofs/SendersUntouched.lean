import Diameter.Proofs.Outgoing
import Diameter.Proofs.PendingTurns
import Diameter.Proofs.NetworkUse

/-!
What happens in a network and is nothing to its senders.

Most of what happens leaves senders, their answers and the identifiers of the node alone, and posts
no requests (`Network.Aloof`). Main statements: `Network.aloof_post`, `Network.aloof_letIn`.
-/

namespace Diameter

namespace Network

/-- An attempt waits at some connection. -/
def Posts (w : Network) (id : Nat) (m : Message) : Prop :=
  ∃ (i : Nat) (n : Member), w.members[i]? = some n ∧ .send id m ∈ n.mailbox.events

/-- What happened is nothing to senders. -/
structure Aloof (w w' : Network) : Prop where
  site : w'.site = w.site
  ids : w'.ids = w.ids
  tickets : w'.tickets = w.tickets
  senders : w'.senders = w.senders
  answers : w'.answers = w.answers
  posts : ∀ id m, w'.Posts id m → w.Posts id m
  ready : ∀ id, .sender id ∈ w.ready → .sender id ∈ w'.ready

variable {w w' w'' : Network} {i : Nat} {m : Member}

namespace Aloof

lemma of_members (hs : w'.site = w.site) (hi : w'.ids = w.ids) (ht : w'.tickets = w.tickets)
    (hse : w'.senders = w.senders) (ha : w'.answers = w.answers) (hr : w'.ready = w.ready)
    (hm : w'.members = w.members) : Aloof w w' :=
  ⟨hs, hi, ht, hse, ha, fun id m h => by rwa [Posts, hm] at h, fun id h => hr.symm ▸ h⟩

lemma refl (w : Network) : Aloof w w := of_members rfl rfl rfl rfl rfl rfl rfl

lemma trans (h : Aloof w w') (h' : Aloof w' w'') : Aloof w w'' :=
  ⟨h'.site.trans h.site, h'.ids.trans h.ids, h'.tickets.trans h.tickets,
    h'.senders.trans h.senders, h'.answers.trans h.answers,
    fun id m hp => h.posts id m (h'.posts id m hp), fun id hr => h'.ready id (h.ready id hr)⟩

lemma foldl {α : Type} {f : Network → α → Network} {as : List α}
    (hf : ∀ w, ∀ a ∈ as, Aloof w (f w a)) (w : Network) : Aloof w (as.foldl f w) := by
  induction as generalizing w with
  | nil => exact .refl w
  | cons a as ih =>
    exact (hf w a List.mem_cons_self).trans
      (ih (fun w b hb => hf w b (List.mem_cons_of_mem _ hb)) _)

end Aloof

/-! ### The queue of a connection -/

namespace Mailbox

variable {b b' : Mailbox} {e f : Event}

lemma mem_events : e ∈ b.events ↔
    e ∈ b.queued ∨ (∃ x ∈ b.called, x.event = e) ∨ ∃ x ∈ b.waiting, x.event = e := by
  simp only [events, List.mem_append, List.mem_map, or_assoc]

lemma mem_events_offer {p : Poster} (h : f ∈ (b.offer p e).events) : f = e ∨ f ∈ b.events := by
  unfold offer at h
  split at h <;> simp only [mem_events, List.mem_append, List.mem_singleton] at h ⊢
  · rcases h with (h | rfl) | h
    · exact .inr (.inl h)
    · exact .inl rfl
    · exact .inr (.inr h)
  · rcases h with h | h | ⟨x, h | rfl, rfl⟩
    · exact .inr (.inl h)
    · exact .inr (.inr (.inl h))
    · exact .inr (.inr (.inr ⟨x, h, rfl⟩))
    · exact .inl rfl

lemma events_call (b : Mailbox) : b.call.2.events = b.events := by
  simp only [events, call, List.map_append, List.append_assoc]
  rw [← List.map_append, List.take_append_drop]

lemma mem_events_pop (h : b.pop? = some (e, b')) (hf : f ∈ b'.events) : f ∈ b.events := by
  unfold pop? at h
  split at h
  · cases h
  · rename_i hq
    cases h
    rw [mem_events] at hf ⊢
    exact hf.imp_left fun hf => hq ▸ List.mem_cons_of_mem _ hf

lemma mem_events_enter {x : Waiter} (hx : x ∈ b.called) (hf : f ∈ (b.enter x).events) :
    f ∈ b.events := by
  simp only [mem_events, enter, List.mem_append, List.mem_singleton] at hf ⊢
  rcases hf with (hf | rfl) | ⟨y, hy, rfl⟩ | hf
  · exact .inl hf
  · exact .inr (.inl ⟨x, hx, rfl⟩)
  · exact .inr (.inl ⟨y, List.mem_of_mem_filter hy, rfl⟩)
  · exact .inr (.inr hf)

lemma mem_events_keep {stays : Waiter → Bool} (hf : f ∈ (b.keep stays).events) : f ∈ b.events := by
  simp only [mem_events, keep] at hf ⊢
  rcases hf with hf | ⟨y, hy, rfl⟩ | ⟨y, hy, rfl⟩
  · exact .inl hf
  · exact .inr (.inl ⟨y, List.mem_of_mem_filter hy, rfl⟩)
  · exact .inr (.inr ⟨y, List.mem_of_mem_filter hy, rfl⟩)

end Mailbox

/-! ### What is nothing to senders -/

lemma aloof_modifyMember (w : Network) (i : Nat) {f : Member → Member}
    (hf : ∀ m, w.members[i]? = some m → ∀ e ∈ (f m).mailbox.events, e ∈ m.mailbox.events) :
    Aloof w (w.modifyMember i f) := by
  refine ⟨rfl, rfl, rfl, rfl, rfl, fun id x hp => ?_, fun _ h => h⟩
  obtain ⟨j, n, hn, he⟩ := hp
  rw [members_modifyMember] at hn
  split at hn
  · rename_i hij
    subst hij
    obtain ⟨n, hn', rfl⟩ := Option.map_eq_some_iff.mp hn
    exact ⟨i, n, hn', hf n hn' _ he⟩
  · exact ⟨j, n, hn, he⟩

lemma aloof_modifyMember_of_mailbox (w : Network) (i : Nat) {f : Member → Member}
    (hf : ∀ m, (f m).mailbox = m.mailbox) : Aloof w (w.modifyMember i f) :=
  aloof_modifyMember w i fun m _ _ he => hf m ▸ he

lemma mem_ready_wake {a b : Activity} (h : a ∈ w.ready) : a ∈ (w.wake b).ready := by
  unfold wake
  split
  · exact h
  · exact List.mem_append_left _ h

lemma mem_ready_wake_self (a : Activity) (w : Network) : a ∈ (w.wake a).ready := by
  unfold wake
  split
  · assumption
  · exact List.mem_append_right _ (List.mem_singleton_self _)

lemma aloof_wake (a : Activity) (w : Network) : Aloof w (w.wake a) := by
  have hr : ∀ id, .sender id ∈ w.ready → .sender id ∈ (w.wake a).ready := fun _ => mem_ready_wake
  unfold wake at hr ⊢
  split
  · exact .refl w
  · rename_i ha
    rw [if_neg ha] at hr
    exact ⟨rfl, rfl, rfl, rfl, rfl, fun _ _ h => h, hr⟩

lemma aloof_wakeIf (p : Prop) [Decidable p] (a : Activity) (w : Network) :
    Aloof w (if p then w.wake a else w) := by
  split
  · exact aloof_wake a w
  · exact .refl w

lemma aloof_modifyStream (s : Nat) (f : Stream → Stream) (w : Network) :
    Aloof w (w.modifyStream s f) := .of_members rfl rfl rfl rfl rfl rfl rfl

lemma aloof_closeNear (s : Nat) (w : Network) : Aloof w (w.closeNear s) :=
  aloof_modifyStream s _ w

lemma aloof_wakeReaders (s : Nat) (w : Network) : Aloof w (w.wakeReaders s) :=
  Aloof.foldl (fun w a _ => aloof_wake a w) w

lemma aloof_wakeWriter (s : Nat) (w : Network) : Aloof w (w.wakeWriter s) :=
  Aloof.foldl (fun w i _ => aloof_wake (.member i) w) w

lemma aloof_callWaiters (i : Nat) (w : Network) : Aloof w (w.callWaiters i) := by
  unfold callWaiters
  split
  · exact .refl w
  · rename_i m hm
    refine .trans (aloof_modifyMember w i fun n hn e he => ?_)
      (Aloof.foldl (fun w x _ => aloof_wake _ w) _)
    obtain rfl := Option.some.inj (hm.symm.trans hn)
    exact m.mailbox.events_call ▸ he

lemma aloof_enter {x : Waiter} (hm : w.members[i]? = some m) (hx : x ∈ m.mailbox.called) :
    Aloof w (w.enter i x) := by
  refine .trans (aloof_modifyMember w i fun n hn e he => ?_) (aloof_wake _ _)
  obtain rfl := Option.some.inj (hm.symm.trans hn)
  exact Mailbox.mem_events_enter hx he

lemma aloof_discard {e : Event} (he : ¬ (Input.event e).IsSend) (i : Nat) (p : Poster)
    (w : Network) : Aloof w (w.discard i p e) := by
  unfold discard
  extract_lets w'
  have hw : Aloof w w' := by
    unfold w'
    split
    · exact absurd trivial he
    all_goals exact .of_members rfl rfl rfl rfl rfl rfl rfl
  split
  · exact hw.trans (.of_members rfl rfl rfl rfl rfl rfl rfl)
  · exact hw

lemma posts_offer {e : Event} (p : Poster) {id : Nat} {x : Message} (h :
    (w.modifyMember i fun m => { m with mailbox := m.mailbox.offer p e }).Posts id x) :
    e = .send id x ∨ w.Posts id x := by
  obtain ⟨j, n, hn, he⟩ := h
  rw [members_modifyMember] at hn
  split at hn
  · rename_i hij
    subst hij
    obtain ⟨n, hn', rfl⟩ := Option.map_eq_some_iff.mp hn
    exact (Mailbox.mem_events_offer he).imp Eq.symm fun he => ⟨i, n, hn', he⟩
  · exact .inr ⟨j, n, hn, he⟩

lemma aloof_post {e : Event} (he : ¬ (Input.event e).IsSend) (i : Nat) (p : Poster)
    (w : Network) : Aloof w (w.post i p e) := by
  unfold post
  split
  · exact .refl w
  · split
    · exact aloof_discard he i p w
    · refine .trans ?_ (aloof_wake _ _)
      refine ⟨rfl, rfl, rfl, rfl, rfl, fun id x h => (posts_offer p h).resolve_left ?_,
        fun _ h => h⟩
      rintro rfl
      exact he trivial

lemma aloof_spawn (expected : Option String) (first : Event) (w : Network) :
    Aloof w (w.spawn expected first).2 := by
  refine .trans ?_ (aloof_wake _ _)
  refine ⟨rfl, rfl, rfl, rfl, rfl, fun id x h => ?_, fun _ h => h⟩
  obtain ⟨j, n, hn, he⟩ := h
  rw [Array.getElem?_push] at hn
  split at hn
  · obtain rfl := Option.some.inj hn
    cases he
  · exact ⟨j, n, hn, he⟩

lemma aloof_observe (i : Nat) (w : Network) : Aloof w (w.observe i) :=
  aloof_modifyMember_of_mailbox w i fun _ => rfl

lemma aloof_putOn (i : Nat) (m : Member) (x : Writing) (s : Stream) (w : Network) :
    Aloof w (w.putOn i m x s) := by
  refine .trans ?_ (aloof_modifyMember_of_mailbox _ i ?_)
  · exact .of_members rfl rfl rfl rfl rfl rfl rfl
  · exact fun _ => rfl

lemma aloof_turnAway (a : Acceptor) (e : Failure) (answer : Option Message) (w : Network) :
    Aloof w (w.turnAway a e answer) := by
  unfold turnAway
  dsimp only
  split <;> exact .of_members rfl rfl rfl rfl rfl rfl rfl

lemma aloof_letIn (a : Acceptor) (h : Header) (body : Octets) (w : Network) :
    Aloof w (w.letIn a h body) := by
  unfold letIn
  split
  · -- refused
    exact aloof_turnAway a _ _ w
  · -- a CER that names nobody
    exact (aloof_spawn none _ w).trans (.of_members rfl rfl rfl rfl rfl rfl rfl)
  · rename_i host cer _
    have ht : ∀ acceptors, Aloof w
        { w with table := w.table.prune w.isLive, acceptors := acceptors } :=
      fun _ => .of_members rfl rfl rfl rfl rfl rfl rfl
    dsimp only
    split
    · -- nobody serves the host
      refine .trans ((ht w.acceptors).trans
        (aloof_spawn (some host) (.acceptedCer a.stream cer) _)) ?_
      exact .of_members rfl rfl rfl rfl rfl rfl rfl
    · -- a member serves it already
      rename_i i _
      have hp := fun as => (ht as).trans
        (aloof_post (e := .acceptedCer a.stream cer) id i (.acceptor a.id) _)
      split
      · exact (hp _).trans (.of_members rfl rfl rfl rfl rfl rfl rfl)
      · exact hp _

/-! ### What is no request to be sent -/

lemma not_isSend_of_slot? {e : Event} {slot : AlarmSlot} (h : e.slot? = some slot) :
    ¬ (Input.event e).IsSend := by
  cases e <;> first | exact id | cases h

lemma not_isSend_eventOf (link : Nat) (d : Frame.Delivery) :
    ¬ (Input.event (eventOf link d)).IsSend := by
  cases d <;> exact id

lemma not_isSend_of_rung {now : Nat} (h : m.conn.duty.Tidy) {a : Alarm AlarmSlot Event}
    (ha : a ∈ (ringMember now m).1) : ¬ (Input.event a.event).IsSend :=
  not_isSend_of_slot? (h.sorted a (Alarms.mem_armed_of_mem_ringAll ha))

end Network

end Diameter
