import Diameter.Proofs.SendersUntouched
import Diameter.Proofs.NetworkSteps
import Diameter.Proofs.Desk

/-!
Senders of a network are attended to.

What a network has to do with its senders is a desk (`Network.Desk.Shows`), and whatever happens in
the network is nothing to its senders (`Network.Aloof`), or happens at the desk. So what is known of
desks is known of every network in use. Main statement: `Network.retries_in_order`.
-/

namespace Diameter

lemma Connection.InStage.isRequest_of_complete {c : Connection} (hs : c.InStage) {i : Input}
    (ht : c.Takes i) (site : Site) (now serial : Nat) (ids : Identifiers) (d : Completion)
    (hd : .complete d ∈ ((c.without i).step site now serial ids i).effects) :
    d.message.header.isRequest = false := by
  have htr := (ht.trades (fun hp => absurd hp (hs.phase_ne ht)) site now serial ids).trade
  have hl : d ∈ ((c.without i).step site now serial ids i).ledger.filterMap
      Effect.completion? := by
    rw [Turn.filterMap_ledger _ fun e he => by cases e <;> first | rfl | cases he]
    exact List.mem_filterMap.mpr ⟨_, hd, rfl⟩
  rcases htr.delivers with hn | ⟨link, m, x, -, -, hm, -, -, he⟩
  · obtain ⟨x, r, rfl, -⟩ := hn d hl
    exact Node.isRequest_answerHeader _ _
  · rw [he] at hl
    obtain rfl := List.mem_singleton.mp hl
    exact hm

namespace Network

variable {w w' : Network} {m : Member}

/-! ### Desks of networks -/

namespace Desk

/-- A message is that of an attempt. -/
def Sends (d : Desk) (id : Nat) (m : Message) : Prop :=
  ∃ e, d.errands id = some e ∧ ∃ a ∈ e.attempts, a.message = m

/-- A desk is that of a network. -/
structure Shows (d : Desk) (w : Network) : Prop where
  ids : w.ids = d.ids
  tickets : w.tickets = d.tickets
  senders : w.senders = d.senders
  answers : w.answers = d.answers
  /-- Whatever is handed to connections is an attempt. -/
  posts : ∀ id m, w.Posts id m → d.Sends id m
  /-- A sender that does not wait for an answer is about to go on. -/
  ready : ∀ x ∈ w.senders, (∃ s m, x.state = .waiting s m) ∨ .sender x.id ∈ w.ready

variable {d : Desk} {m : Message}

lemma Sends.amend {id k : Nat} {f : Errand → Errand} (h : d.Sends k m)
    (hf : ∀ e, ∀ a ∈ e.attempts, a ∈ (f e).attempts) : (d.amend id f).Sends k m := by
  obtain ⟨e, he, a, ha, hm⟩ := h
  by_cases hk : k = id
  · subst hk
    exact ⟨f e, errands_amend_self he, a, hf e a ha, hm⟩
  · exact ⟨e, (errands_amend_of_ne hk).trans he, a, ha, hm⟩

lemma Shows.aloof (h : d.Shows w) (ha : Aloof w w') : d.Shows w' where
  ids := ha.ids.trans h.ids
  tickets := ha.tickets.trans h.tickets
  senders := ha.senders.trans h.senders
  answers := ha.answers.trans h.answers
  posts id m hp := h.posts id m (ha.posts id m hp)
  ready x hx := (h.ready x (ha.senders ▸ hx)).imp_right (ha.ready x.id)

end Desk

lemma Desk.Shows.request {site : Site} {seed : Identifiers} {d : Desk} (h : d.Shows w)
    (hk : d.Kept site seed) (i : Nat) (m : Message) : (d.take i m).Shows (w.addSender i m) := by
  have hw : Aloof _ (w.addSender i m) := aloof_wake (.sender (w.tickets + 1)) _
  refine ⟨hw.ids.trans h.ids, hw.tickets.trans (congrArg (· + 1) h.tickets), hw.senders.trans ?_,
    hw.answers.trans h.answers, fun k x hp => ?_, fun x hx => ?_⟩
  · rw [take, ← h.tickets, ← h.senders]
  · obtain ⟨e, he, a, ha, hx⟩ := h.posts k x (hw.posts k x hp)
    exact ⟨e, hk.errands_take he i m, a, ha, hx⟩
  · rw [hw.senders] at hx
    rcases List.mem_append.mp hx with hx | hx
    · exact (h.ready x hx).imp_right (hw.ready x.id)
    · obtain rfl := List.mem_singleton.mp hx
      exact .inr (mem_ready_wake_self _ _)

/-- A sender gets an answer, if it is the one and waits for it. -/
def Sender.hears (id : Nat) (r : Message) (x : Sender) : Sender :=
  if x.id = id then
    match x.state with
    | .waiting s _ => { x with state := .answered s r }
    | _ => x
  else x

namespace Sender

variable {x : Sender} {s : Sending} {m r : Message}

lemma id_hears (id : Nat) (r : Message) (x : Sender) : (x.hears id r).id = x.id := by
  unfold hears
  split
  · split <;> rfl
  · rfl

lemma find?_eq_some {l : List Sender} (hn : (l.map Sender.id).Nodup) (hx : x ∈ l) :
    l.find? (·.id = x.id) = some x := by
  obtain ⟨y, hy⟩ : ∃ y, l.find? (·.id = x.id) = some y :=
    Option.isSome_iff_exists.mp (List.find?_isSome.mpr ⟨x, hx, by simp⟩)
  have hi : y.id = x.id := by simpa using List.find?_some hy
  rwa [List.inj_on_of_nodup_map hn (List.mem_of_find?_eq_some hy) hx hi] at hy

lemma hears_of_waiting (hs : x.state = .waiting s m) :
    x.hears x.id r = { x with state := .answered s r } := by
  rw [hears, if_pos rfl, hs]

lemma hears_eq_self {id : Nat} (h : x.id = id → ¬ ∃ s m, x.state = .waiting s m) :
    x.hears id r = x := by
  unfold hears
  split
  · rename_i hi
    split
    · exact absurd ⟨_, _, ‹_›⟩ (h hi)
    · rfl
  · rfl

end Sender

/-- The desk of the network has come of one that was kept in order. -/
structure Attended (site : Site) (seed : Identifiers) (d₀ : Desk) (w : Network) : Prop where
  site_eq : w.site = site
  kept : d₀.Kept site seed
  desk : ∃ d, Desk.Reached site d₀ d ∧ d.Shows w

namespace Attended

variable {site : Site} {seed : Identifiers} {d₀ : Desk}

lemma aloof (h : Attended site seed d₀ w) (ha : Aloof w w') : Attended site seed d₀ w' := by
  obtain ⟨d, hr, hd⟩ := h.desk
  exact ⟨ha.site.trans h.site_eq, h.kept, d, hr, hd.aloof ha⟩

lemma draw (h : Attended site seed d₀ w) (ids : Identifiers) (serial : Nat) :
    Attended site seed d₀ { w with ids, serial } := by
  obtain ⟨d, hr, hd⟩ := h.desk
  have back : ∀ x y : UInt32, y = x + UInt32.ofNat (y - x).toNat := fun x y => by
    rw [UInt32.ofNat_toNat, UInt32.add_comm, UInt32.sub_add_cancel]
  exact ⟨h.site_eq, h.kept, _, hr.step (.draw ids _ _ (back _ _) (back _ _)),
    rfl, hd.tickets, hd.senders, hd.answers, hd.posts, hd.ready⟩

lemma reply (h : Attended site seed d₀ w) (id : Nat) {r : Message}
    (hr : r.header.isRequest = false) : Attended site seed d₀ (w.reply id r) := by
  obtain ⟨d, hr', hd⟩ := h.desk
  have hw : Aloof { w with senders := w.senders.map (Sender.hears id r) } (w.reply id r) :=
    aloof_wake (.sender id) _
  by_cases hx : ∃ x ∈ d.senders, x.id = id ∧ ∃ s m, x.state = .waiting s m
  · -- the caller waits for this answer
    obtain ⟨x, hx, rfl, s, m, hst⟩ := hx
    have hsenders : w.senders.map (Sender.hears x.id r) = (d.hear x.id s r).senders := by
      refine Eq.trans ?_ (congrArg (List.map _) hd.senders)
      refine List.map_congr_left fun y hy => ?_
      by_cases hi : y.id = x.id
      · -- no other caller has its number
        obtain rfl : y = x :=
          List.inj_on_of_nodup_map (hr'.kept h.kept).once (hd.senders ▸ hy) hx hi
        rw [if_pos rfl, Sender.hears_of_waiting hst]
      · rw [if_neg hi, Sender.hears_eq_self fun h => absurd h hi]
    refine ⟨hw.site.trans h.site_eq, h.kept, _, hr'.step (.hear hx hst r hr), hw.ids.trans hd.ids,
      hw.tickets.trans hd.tickets, hw.senders.trans hsenders, hw.answers.trans hd.answers,
      fun k m hp => (hd.posts k m (hw.posts k m hp)).amend fun _ _ ha => ha, fun y hy => ?_⟩
    rw [hw.senders] at hy
    obtain ⟨z, hz, rfl⟩ := List.mem_map.mp hy
    by_cases hi : z.id = x.id
    · rw [Sender.id_hears, hi]
      exact .inr (mem_ready_wake_self _ _)
    · rw [Sender.hears_eq_self fun h => absurd h hi]
      exact (hd.ready z hz).imp_right (hw.ready z.id)
  · -- nobody waits for it, so no caller changes
    have hsenders : w.senders.map (Sender.hears id r) = w.senders :=
      (List.map_congr_left fun y hy => Sender.hears_eq_self fun hi hwait =>
        hx ⟨y, hd.senders ▸ hy, hi, hwait⟩).trans (List.map_id _)
    refine h.aloof (.trans ?_ hw)
    exact .of_members rfl rfl rfl hsenders rfl rfl rfl

lemma abandon (h : Attended site seed d₀ w) (id : Nat) : Attended site seed d₀ (w.abandon id) := by
  unfold Network.abandon
  split
  · exact h.reply id (Node.isRequest_answerHeader _ _)
  · exact h

lemma discard (h : Attended site seed d₀ w) (i : Nat) (p : Poster) (e : Event) :
    Attended site seed d₀ (w.discard i p e) := by
  cases e with
  | send id m =>
    unfold Network.discard
    dsimp only
    split
    · exact (h.abandon id).aloof (.of_members rfl rfl rfl rfl rfl rfl rfl)
    · exact h.abandon id
  | _ => exact h.aloof (aloof_discard id i p w)

lemma foldl {α : Type} {f : Network → α → Network} {as : List α}
    (hf : ∀ w, ∀ a ∈ as, Attended site seed d₀ w → Attended site seed d₀ (f w a))
    (h : Attended site seed d₀ w) : Attended site seed d₀ (as.foldl f w) := by
  induction as generalizing w with
  | nil => exact h
  | cons a as ih =>
    exact ih (fun w b hb => hf w b (List.mem_cons_of_mem _ hb)) (hf w a List.mem_cons_self h)

lemma finish (h : Attended site seed d₀ w) (i : Nat) (m : Member) :
    Attended site seed d₀ (w.finish i m) := by
  have hw : Aloof w (w.modifyMember i fun m =>
      { m with finished := true, mailbox := m.mailbox.clear }) :=
    aloof_modifyMember w i fun _ _ e he => by cases he
  exact foldl (fun w x _ hw => hw.discard i x.1 x.2) (h.aloof hw)

/-! ### Senders -/

lemma start_congr (h : Attended site seed d₀ w) {d : Desk} (hd : d.Shows w) (m : Message) :
    Sending.start w.site.node w.site.settings.retries.toNat w.ids m =
      Sending.start site.node site.settings.retries.toNat d.ids m := by
  rw [h.site_eq, hd.ids]

lemma answered (h : Attended site seed d₀ w) {x : Sender} {r : Message} (hx : x ∈ w.senders)
    (he : w.Ends x r) : Attended site seed d₀ { w with
      senders := w.senders.filter (·.id ≠ x.id), answers := w.answers ++ [(x.id, r)] } := by
  obtain ⟨d, hr, hd⟩ := h.desk
  have hx' : x ∈ d.senders := hd.senders ▸ hx
  have hs : d.Step site (d.close x.id r) := by
    cases he with
    | refused hs hst => exact .refuse hx' hs (h.start_congr hd _ ▸ hst)
    | last hs hn => exact .finish hx' hs hn
  refine ⟨h.site_eq, h.kept, _, hr.step hs, hd.ids, hd.tickets, congrArg (List.filter _) hd.senders,
    congrArg (· ++ _) hd.answers, fun k m hp => (hd.posts k m hp).amend fun _ _ ha => ha,
    fun y hy => hd.ready y (List.mem_of_mem_filter hy)⟩

lemma attempting (h : Attended site seed d₀ w) {x : Sender} {s : Sending} {ids : Identifiers}
    (hx : x ∈ w.senders) (ht : w.Tries x s ids) :
    (w.attempting x s ids).site = site ∧ ∃ d, Desk.Reached site d₀ d ∧
      d.Shows (w.attempting x s ids) ∧ d.Sends x.id (s.attempt ids).1 := by
  obtain ⟨d, hr, hd⟩ := h.desk
  have hx' : x ∈ d.senders := hd.senders ▸ hx
  obtain ⟨e, he, -⟩ := (hr.kept h.kept).stands x hx'
  obtain ⟨named, hs⟩ : ∃ named, d.Step site (d.attempt x.id named s ids) := by
    cases ht with
    | first hs hst => exact ⟨_, .first hx' hs (h.start_congr hd _ ▸ hst)⟩
    | again hs hn =>
      have hstep : d.Step site (d.attempt x.id none s d.ids) := .again hx' hs hn
      exact ⟨none, hd.ids ▸ hstep⟩
  have hsends : (d.attempt x.id named s ids).Sends x.id (s.attempt ids).1 :=
    ⟨_, Desk.errands_amend_self (d := d.setState x.id (.waiting s (s.attempt ids).1)) he, _,
      List.mem_append_right _ (List.mem_singleton_self _), rfl⟩
  refine ⟨h.site_eq, _, hr.step hs, ⟨rfl, hd.tickets, congrArg (List.map _) hd.senders,
    hd.answers, fun k m hp => (hd.posts k m hp).amend fun _ _ ha => List.mem_append_left _ ha,
    fun y hy => ?_⟩, hsends⟩
  obtain ⟨z, hz, rfl⟩ := List.mem_map.mp hy
  split
  · exact .inl ⟨_, _, rfl⟩
  · exact hd.ready z hz

lemma post_send {d : Desk} (hs : w.site = site) (hk : d₀.Kept site seed)
    (hr : Desk.Reached site d₀ d) (hd : d.Shows w) {id : Nat} {x : Message} (hx : d.Sends id x)
    (i : Nat) :
    Attended site seed d₀ (w.post i .other (.send id x)) := by
  have h : Attended site seed d₀ w := ⟨hs, hk, d, hr, hd⟩
  unfold post
  split
  · exact h
  · split
    · exact h.discard i .other _
    · have hv : Attended site seed d₀ (w.modifyMember i fun m =>
          { m with mailbox := m.mailbox.offer .other (.send id x) }) := by
        refine ⟨hs, hk, d, hr, hd.ids, hd.tickets, hd.senders, hd.answers, fun k m hp => ?_,
          hd.ready⟩
        rcases posts_offer .other hp with he | hp
        · obtain ⟨rfl, rfl⟩ := Event.send.inj he
          exact hx
        · exact hd.posts k m hp
      exact hv.aloof (aloof_wake _ _)

/-! ### Turns -/

lemma perform (h : Attended site seed d₀ w) (i : Nat) {e : Effect}
    (he : ∀ c, e = .complete c → c.message.header.isRequest = false) :
    Attended site seed d₀ (w.perform i e) := by
  cases e with
  | note | dispatch | release | refuse => exact h.aloof (.of_members rfl rfl rfl rfl rfl rfl rfl)
  | showPhase | showPeer => exact h.aloof (aloof_modifyMember_of_mailbox w i fun _ => rfl)
  | abandonDial => exact h
  | complete c => exact h.reply c.waiter (he c rfl)
  | abandon waiter => exact h.abandon waiter
  | dial =>
    simp only [Network.perform]
    split
    · exact h
    · exact h.aloof (aloof_post id i .other w)
  | listen link =>
    refine h.aloof (.trans ?_ (aloof_wake _ _))
    exact aloof_modifyMember_of_mailbox w i fun _ => rfl
  | hangUp link =>
    refine h.aloof (.trans ?_ (aloof_closeNear _ _))
    exact aloof_modifyMember w i fun _ _ _ => Mailbox.mem_events_keep

lemma turn (h : Attended site seed d₀ w) (i : Nat) (m : Member) (input : Input)
    (hc : ∀ c, .complete c ∈ (m.conn.step w.site w.now w.serial w.ids input).effects →
      c.message.header.isRequest = false) : Attended site seed d₀ (w.turn i m input) := by
  unfold Network.turn
  refine aloof ?_ (aloof_wakeIf _ _ _)
  refine aloof ?_ (aloof_callWaiters i _)
  refine foldl (fun w e he hw => hw.perform i fun c hec => hc c (hec ▸ he)) ?_
  refine (h.draw _ _).aloof (aloof_modifyMember _ i fun n _ _ => ?_)
  exact Mailbox.mem_events_keep

lemma takes (h : Attended site seed d₀ w) (i : Nat) {c : Connection} (hs : c.InStage)
    {input : Input} (ht : c.Takes input) {m : Member} (hm : m.conn = c.without input) :
    Attended site seed d₀ (w.turn i m input) :=
  h.turn i m input fun d hd => hs.isRequest_of_complete ht w.site _ _ _ d (hm ▸ hd)

end Attended

/-! ### Everything that goes on -/

namespace Attended

variable {site : Site} {seed : Identifiers} {d₀ : Desk} {log : List Deed}

lemma piece (h : Attended site seed d₀ w) (hl : Sound log w) (hp : w.Piece w') :
    Attended site seed d₀ w' := by
  cases hp with
  | @finish i m hm hp => exact h.finish i m
  | @own i m e rest hm hf ha hi =>
    exact h.takes i (hl.stage i m hm).1 (.internal ha hi)
      (Connection.without_of_internal (by rw [hi]; rfl) e).symm
  | @queued i m e mailbox hm hf ha hi hq =>
    have hv : Aloof w (w.modifyMember i fun m => { m with mailbox := mailbox }) := by
      refine aloof_modifyMember w i fun n hn f hf => ?_
      obtain rfl := Option.some.inj (hm.symm.trans hn)
      exact Mailbox.mem_events_pop hq hf
    exact (h.aloof (hv.trans (aloof_callWaiters i _))).takes i (hl.stage i m hm).1 (.queued ha hi)
      (Connection.without_of_internal (by rw [hi]; rfl) e).symm
  | @failed i m x e hm hf hx =>
    exact h.takes i (hl.stage i m hm).1 (.written hx (some e)) rfl
  | put hm hx hs => exact h.aloof (aloof_putOn _ _ _ _ w)
  | @written i m x s hm hf hx hs hr =>
    exact (h.aloof (aloof_putOn i m x s w)).takes i (hl.stage i m hm).1 (.written hx none) rfl
  | @late i m x s hm hf hx hs =>
    exact (h.aloof (aloof_putOn i m x s w)).takes i (hl.stage i m hm).1
      (.written hx (some .timeout)) rfl
  | enter hm hx => exact h.aloof (aloof_enter hm hx)
  | concludes hm hx =>
    exact h.aloof ((aloof_enter hm hx).trans (.of_members rfl rfl rfl rfl rfl rfl rfl))
  | take hs ho => exact h.aloof (aloof_modifyStream _ _ w)
  | @deliver i link s st st' read d hs ho =>
    refine h.aloof (.trans (.trans (aloof_modifyStream s (fun _ => st') w) ?_)
      (aloof_post (not_isSend_eventOf link d) i _ _))
    exact aloof_modifyMember_of_mailbox _ i fun _ => rfl
  | letIn ha hh hs ho => exact h.aloof ((aloof_modifyStream _ _ w).trans (aloof_letIn _ _ _ _))
  | turnAway ha hh hs ho =>
    exact h.aloof ((aloof_modifyStream _ _ w).trans (aloof_turnAway _ _ none _))
  | answered hx he => exact h.answered hx he
  | refused r hx ht =>
    obtain ⟨hs, d, hr, hd, -⟩ := h.attempting hx ht
    exact Attended.reply ⟨hs, h.kept, d, hr, hd⟩ _ (Node.isRequest_answerHeader _ _)
  | attempt hx ht =>
    obtain ⟨hs, d, hr, hd, hsends⟩ := h.attempting hx ht
    exact post_send hs h.kept hr hd hsends _
  | @rings i m hm =>
    have hr : Aloof w (w.modifyMember i fun _ => (ringMember w.now m).2) := by
      refine aloof_modifyMember w i fun n hn f hf => ?_
      obtain rfl := Option.some.inj (hm.symm.trans hn)
      exact hf
    refine h.aloof (hr.trans (Aloof.foldl (fun v a ha => ?_) _))
    exact aloof_post (not_isSend_of_rung (hl.stage i m hm).2 ha) i .alarm v

lemma ring (h : Attended site seed d₀ w) (hl : Sound log w) : Attended site seed d₀ w.ring := by
  have hm : Aloof w { w with members := (w.members.map (ringMember w.now)).map Prod.snd } := by
    refine ⟨rfl, rfl, rfl, rfl, rfl, fun id x hp => ?_, fun _ h => h⟩
    obtain ⟨i, n, hn, he⟩ := hp
    simp only [Array.getElem?_map, Option.map_map, Option.map_eq_some_iff] at hn
    obtain ⟨m, hm, rfl⟩ := hn
    exact ⟨i, m, hm, he⟩
  refine h.aloof ?_
  unfold Network.ring
  dsimp only
  refine .trans ?_ (Aloof.foldl (fun w a _ => aloof_wake (.acceptor a.id) w) _)
  refine .trans ?_ (Aloof.foldl (fun w i _ => aloof_wake (.member i) w) _)
  refine hm.trans (Aloof.foldl (fun v x hx => ?_) _)
  simp only [List.mem_mergeSort, List.mem_flatten, Array.mem_toList_iff, Array.mem_mapIdx,
    Array.size_map, Array.getElem_map] at hx
  obtain ⟨l, ⟨i, hi, rfl⟩, hx⟩ := hx
  obtain ⟨a, ha, rfl⟩ := List.mem_map.mp hx
  have ht := (hl.stage i _ (Array.getElem?_eq_getElem hi)).2
  exact aloof_post (not_isSend_of_rung ht ha) i .alarm v

lemma state_of_workSender {x : Sender} (hn : (w.senders.map Sender.id).Nodup) (hx : x ∈ w.senders)
    (h : w.workSender x.id = none) : ∃ s m, x.state = .waiting s m := by
  simp only [workSender, Sender.find?_eq_some hn hx, Option.bind_eq_bind, Option.bind_some] at h
  split at h
  · exact ⟨_, _, ‹_›⟩
  all_goals split at h <;> cases h

lemma wait (h : Attended site seed d₀ w) {a : Activity} {rest : List Activity}
    (hr : w.ready = a :: rest) (hw : w.work a = none) :
    Attended site seed d₀ (suspend a { w with ready := rest }) := by
  obtain ⟨d, hd, hs⟩ := h.desk
  have hv : Attended site seed d₀ { w with ready := rest } := by
    refine ⟨h.site_eq, h.kept, d, hd, hs.ids, hs.tickets, hs.senders, hs.answers, hs.posts,
      fun x hx => ?_⟩
    rcases hs.ready x hx with hx' | hx'
    · exact .inl hx'
    · rcases List.mem_cons.mp (hr ▸ hx') with rfl | hx'
      · exact .inl (state_of_workSender (w := w) (hs.senders ▸ (hd.kept h.kept).once) hx hw)
      · exact .inr hx'
  cases a with
  | member i => exact hv.aloof (aloof_observe i _)
  | _ => exact hv

lemma handle (h : Attended site seed d₀ w) (i link : Nat) (request : Message)
    (jobs : List (Nat × Nat × Message)) :
    Attended site seed d₀ (({ w with jobs } : Network).handleJob i link request) := by
  have hj : Aloof w { w with jobs := jobs } := .of_members rfl rfl rfl rfl rfl rfl rfl
  exact h.aloof (hj.trans (aloof_post id i .other _))

lemma request (h : Attended site seed d₀ w) (i : Nat) (m : Message) :
    Attended site seed d₀ (w.addSender i m) := by
  obtain ⟨d, hr, hd⟩ := h.desk
  exact ⟨(aloof_wake (.sender (w.tickets + 1)) _).site.trans h.site_eq, h.kept, _,
    hr.step (.take i m), hd.request (hr.kept h.kept) i m⟩

lemma ticket (h : Attended site seed d₀ w) : Attended site seed d₀ w.ticket.2 := by
  obtain ⟨d, hr, hd⟩ := h.desk
  exact ⟨h.site_eq, h.kept, _, hr.step .number, hd.ids, congrArg (· + 1) hd.tickets, hd.senders,
    hd.answers, hd.posts, hd.ready⟩

lemma look (h : Attended site seed d₀ w) : Attended site seed d₀ w.look.2 := by
  obtain ⟨d, hr, hd⟩ := h.desk
  refine ⟨h.site_eq, h.kept, _, hr.step .look, hd.ids, hd.tickets, hd.senders, rfl,
    fun k m hp => ?_, hd.ready⟩
  obtain ⟨i, n, hn, he⟩ := hp
  simp only [Network.look, Array.getElem?_map, Option.map_eq_some_iff] at hn
  obtain ⟨n, hn, rfl⟩ := hn
  exact hd.posts k m ⟨i, n, hn, he⟩

lemma touch (h : Attended site seed d₀ w) (ht : w.Touch w') : Attended site seed d₀ w' := by
  have stream : ∀ (name : String) (far : FarEnd), Aloof w (w.openStream name far).2 :=
    fun _ _ => .of_members rfl rfl rfl rfl rfl rfl rfl
  cases ht with
  | connect expected => exact h.aloof (aloof_spawn expected _ w)
  | accept name far cer => exact h.aloof ((stream name far).trans (aloof_spawn _ _ _))
  | acceptStream name far => exact h.aloof ((stream name far).trans (aloof_spawn _ _ _))
  | dialed i name far => exact h.aloof ((stream name far).trans (aloof_post id i .other _))
  | undialed name far => exact h.aloof ((stream name far).trans (aloof_closeNear _ _))
  | dialFailed i text => exact h.aloof (aloof_post id i .other w)
  | incoming i name far cer => exact h.aloof ((stream name far).trans (aloof_post id i .other _))
  | request i m => exact h.request i m
  | ticket => exact h.ticket
  | stop i id' cause => exact h.aloof (aloof_post id i .other w)
  | arrive id' deadline name b gone =>
    refine h.aloof (.trans ?_ (aloof_wake _ _))
    cases gone <;> exact .of_members rfl rfl rfl rfl rfl rfl rfl
  | enroll host =>
    exact h.aloof ((aloof_spawn (some host) _ w).trans (.of_members rfl rfl rfl rfl rfl rfl rfl))
  | forget table => exact h.aloof (.of_members rfl rfl rfl rfl rfl rfl rfl)
  | farWrite s b =>
    exact h.aloof ((aloof_modifyStream s _ w).trans (aloof_wakeReaders s _))
  | farRead s => exact h.aloof (aloof_modifyStream s _ w)
  | farClose s =>
    exact h.aloof (((aloof_modifyStream s _ w).trans (aloof_wakeReaders s _)).trans
      (aloof_wakeWriter s _))
  | look => exact h.look

end Attended

/-- What is known of steps, and that senders are attended to. -/
def Minded (site : Site) (seed : Identifiers) (d₀ : Desk) (w : Network) : Prop :=
  (∃ log, Sound log w) ∧ Attended site seed d₀ w

namespace Minded

variable {site : Site} {seed : Identifiers} {d₀ : Desk}

lemma goes (h : Minded site seed d₀ w) (hg : Goes w w')
    (ha : ∀ log, Sound log w → Attended site seed d₀ w') : Minded site seed d₀ w' := by
  obtain ⟨⟨log, hl⟩, -⟩ := h
  obtain ⟨ds, hr⟩ := hg log hl
  exact ⟨⟨_, hr.sound hl⟩, ha log hl⟩

lemma lasting (site : Site) (seed : Identifiers) (d₀ : Desk) : Lasting (Minded site seed d₀) where
  piece h hp := h.goes (goes_piece hp) fun _ hl => h.2.piece hl hp
  wait a rest hr hw h :=
    h.goes ((lasting_goes _).wait a rest hr hw (.refl _)) fun _ _ => h.2.wait hr hw
  handle i link request jobs h :=
    h.goes ((lasting_goes _).handle i link request jobs (.refl _)) fun _ _ =>
      h.2.handle i link request jobs
  ring h := h.goes (goes_ring _) fun _ hl => h.2.ring hl
  drain s h :=
    h.goes ((lasting_goes _).drain s (.refl _)) fun _ _ =>
      h.2.aloof ((aloof_modifyStream s _ _).trans (aloof_wakeWriter s _))
  later now h := h.goes ((lasting_goes _).later now (.refl _)) fun _ _ =>
    h.2.aloof (.of_members rfl rfl rfl rfl rfl rfl rfl)

lemma touch (h : Minded site seed d₀ w) (ht : w.Touch w') : Minded site seed d₀ w' :=
  h.goes (goes_touch ht) fun _ _ => h.2.touch ht

end Minded

variable {site : Site} {registry : Registry} {ids : Identifiers} {dialing : Dialing}

lemma shows_create : ({ ids } : Desk).Shows (create site registry ids dialing) := by
  refine ⟨rfl, rfl, rfl, rfl, fun id m hp => ?_, List.forall_mem_nil _⟩
  obtain ⟨i, n, hn, -⟩ := hp
  simp [create] at hn

lemma InUse.minded {d : Desk} (h : InUse (create site registry ids dialing) w)
    (hd : Desk.Reached site { ids } d) (hs : d.Shows w) : Minded site ids d w := by
  obtain ⟨log, hl⟩ := h.reached
  have hw := (Minded.lasting site ids { ids }).inUse Minded.touch
    ⟨⟨[], sound_create⟩, rfl, .init site ids, _, .begin, shows_create⟩ h
  exact ⟨⟨log, hl.sound sound_create⟩, hw.2.site_eq, hd.kept (.init site ids), d, .begin, hs⟩

lemma Minded.send {seed : Identifiers} {d : Desk} (h : Minded site seed d w) (hs : d.Shows w)
    (i : Nat) (requests : List Message) :
    Minded site seed (d.takeAll i requests) (w.send i requests) := by
  refine (lasting site seed _).settle ?_
  induction requests generalizing w d with
  | nil => exact ⟨h.1, h.2.site_eq, h.2.kept, d, .begin, hs⟩
  | cons m requests ih =>
    obtain ⟨hl, ha⟩ := h.touch (.request i m)
    have hd := hs.request h.2.kept i m
    exact ih ⟨hl, ha.site_eq, h.2.kept.take i m, _, .begin, hd⟩ hd

/-- **Requests are tried again in order.** Whatever is done with a network is done at its desk,
where each request is kept with its attempts and what came back for them. A request that may not be
sent is answered at once, and nothing of it is handed to a connection. Any other is tried at most
once more than there are retries, each time as it is but for identifiers and the mark of a
retransmission, and after the first time only because the last answer tells so. Its sender gets the
last answer, and at rest nobody waits but for an answer to an attempt. -/
theorem retries_in_order (site : Site) (registry : Registry) (ids : Identifiers)
    (dialing : Dialing) :
    ({ ids } : Desk).Shows (create site registry ids dialing) ∧
    (∀ d, Desk.Reached site { ids } d → d.InOrder site ids ∧
      ∀ d', Desk.Reached site d d' → ∀ id e, d.errands id = some e →
        ∃ e', d'.errands id = some e' ∧ e.Grows e') ∧
    ∀ w d, InUse (create site registry ids dialing) w → Desk.Reached site { ids } d → d.Shows w →
      (∀ i requests, ∃ d', Desk.Reached site (d.takeAll i requests) d' ∧
        d'.Shows (w.send i requests)) ∧
      (∀ w', InUse w w' → ∃ d', Desk.Reached site d d' ∧ d'.Shows w') ∧
      (w.ready = [] → ∀ id e, d.errands id = some e → e.result = none →
        e.replies.length < e.attempts.length) := by
  refine ⟨shows_create, fun d hd => ?_, fun w d hw hd hs => ⟨fun i requests => ?_, fun w' hw' => ?_,
    fun hr id e he hn => ?_⟩⟩
  · -- over any use of a desk
    have hk := hd.kept (.init site ids)
    exact ⟨hk.inOrder, fun d' hd' id e he => hd'.grows hk he⟩
  · -- a call of `send`
    exact ((hw.minded hd hs).send hs i requests).2.desk
  · -- any other use of the network
    exact ((Minded.lasting site ids d).inUse Minded.touch (hw.minded hd hs) hw').2.desk
  · -- at rest, no caller whose errand is open has an answer left to read
    obtain ⟨x, hx, -, hwait⟩ := (hd.kept (.init site ids)).inOrder.attended id e he hn
    refine hwait.mpr ((hs.ready x (hs.senders ▸ hx)).resolve_right fun hm => ?_)
    rw [hr] at hm
    cases hm

/-- A request for a connection that is not open comes back at once. It is tried again once, and is
then done with. -/
theorem retries_in_order_undelivered :
    let site : Site := ⟨Node.plain "a", { retries := 1 }⟩
    let m := Message.request 272 4
    let v := (create site {} {} .pending).connect none
    ∃ d e r, InUse (create site {} {} .pending) v ∧ Desk.Reached site { ids := {} } d ∧
      d.Shows (v.send 0 [m]) ∧ d.errands 1 = some e ∧ e.request = m ∧ e.result = some r ∧
      r.IsRetryable ∧ e.attempts.length = 2 := by
  intro site m v
  have all := retries_in_order site {} {} .pending
  have hv : InUse (create site {} {} .pending) v := .connect .begin none
  obtain ⟨d₁, hr₁, hs₁⟩ := (all.2.2 _ { ids := {} } .begin .begin all.1).2.1 v hv
  obtain ⟨d, hr, hs⟩ := (all.2.2 v d₁ hv hr₁ hs₁).1 0 [m]
  have hr₂ : Desk.Reached site { ids := {} } (d₁.takeAll 0 [m]) := hr₁.step (.take 0 m)
  have ht : d₁.tickets = 0 := hs₁.tickets.symm.trans (by decide +kernel)
  have hm : (d₁.takeAll 0 [m]).errands 1 = some { request := m } := if_pos (by rw [ht])
  obtain ⟨e, he, hg⟩ := (all.2.1 _ hr₂).2 d hr 1 _ hm
  have hd := (all.2.1 d (hr₂.trans hr)).1
  have ha : (v.send 0 [m]).answers.map (fun x => (x.1, x.2.resultCode?)) = [(1, some 3002)] := by
    decide +kernel
  obtain ⟨⟨k, r⟩, hk, ha⟩ := List.mem_map.mp (ha ▸ List.mem_singleton_self (1, some 3002))
  obtain ⟨rfl, hc⟩ := Prod.mk.inj ha
  obtain ⟨e', he', hres⟩ := hd.answers 1 r (hs.answers ▸ hk)
  obtain rfl := Option.some.inj (he.symm.trans he')
  have hretry : r.IsRetryable := ⟨3002, hc, by decide⟩
  refine ⟨d, e, r, hv, hr₂.trans hr, hs, he, hg.request, hres, hretry, ?_⟩
  cases hd.disciplined 1 e he with
  | untried _ _ hn => exact absurd (hn.symm.trans hres) (by simp)
  | refused hn =>
    have hs : m.Sendable := ⟨by decide +kernel, by decide +kernel, by decide +kernel⟩
    exact absurd (hg.request ▸ hs) hn.not_sendable
  | tried ht =>
    have hcount : e.attempts.length ≤ 2 := ht.count
    have hmore : ¬ e.attempts.length < 2 := fun hlt => (ht.ended r hres).2.2 hlt hretry
    omega

end Network

end Diameter
