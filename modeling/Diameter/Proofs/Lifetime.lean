import Diameter.Proofs.StreamHandover
import Diameter.Proofs.NetworkWork
import Diameter.Proofs.Sight

/-!
What becomes of the connections of a network while it is at work.

Of a connection the rest of the world sees what it has shown, and whether anything is handled any
more (`Network.Outlook`). Most work leaves that as it is (`Network.Calm`), and a turn shows what it
does (`Network.Shows`). Whatever is done, connections live on, and none comes or goes, but for
streams that are let in (`Network.Evolves`). Main statements: `Network.evolves_turn`,
`Network.evolves_of_piece`, `Network.evolves_ring`.
-/

namespace Diameter

namespace Connection.Run

variable {site : Site} {c₀ c d : Connection} {bs ds : List Beat} {expected : Option String}
  {first : Event}

lemma append (h : Run site c₀ bs c) (hd : Run site c ds d) : Run site c₀ (bs ++ ds) d := by
  induction hd with
  | nil => simpa using h
  | ring _ time ih => exact ih.ring time
  | turn _ ht ih =>
    rw [← List.append_assoc]
    exact ih.turn ht

lemma shutdown_of_shutdown (h : Run site (fresh expected first) bs c) (hf : first.IsOpening)
    (hd : Run site c ds d) (hp : c.phase = .shutdown) : d.phase = .shutdown := by
  obtain ⟨hl, hs⟩ := (h.append hd).lawful hf
  rw [Beat.effectsOf_append, Sight.lawful_append, (h.lawful hf).2] at hl
  rw [Beat.effectsOf_append, Sight.seeAll_append, (h.lawful hf).2] at hs
  exact (congrArg Sight.phase hs).symm.trans (hl.2.eq_shutdown hp)

lemma expectedHost_eq (h : Run site (fresh expected first) bs c) (hf : first.IsOpening) :
    c.expectedHost = expected := by
  obtain ⟨n, s, -, hc⟩ := h.course hf
  exact (congrArg Shape.expectedHost hc).trans (Stage.expectedHost_shape expected n s)

end Connection.Run

namespace Network

/-- A connection and what the rest of the world sees of it. -/
structure Outlook where
  conn : Connection
  sight : Sight
  /-- Nothing will be handled any more. -/
  finished : Bool

def Member.outlook (m : Member) : Outlook := ⟨m.conn, ⟨m.shownPhase, m.shownPeer⟩, m.finished⟩

def outlook? (w : Network) (i : Nat) : Option Outlook := w.members[i]?.map Member.outlook

/-- The table and the connections are as they were, whatever waits for them. -/
structure Calm (w w' : Network) : Prop where
  site : w'.site = w.site
  table : w'.table = w.table
  outlook : ∀ j, w'.outlook? j = w.outlook? j

/-- A connection has shown something. -/
structure Shows (i : Nat) (es : List Effect) (w w' : Network) : Prop where
  site : w'.site = w.site
  table : w'.table = w.table
  outlook : ∀ j, w'.outlook? j = (w.outlook? j).map fun o =>
    if i = j then { o with sight := o.sight.seeAll es } else o

/-- A connection has come from one outlook to the other by turns, and shown what they show. Only one
that is shut down handles nothing any more. -/
def Outlook.Lives (site : Site) (o o' : Outlook) : Prop :=
  ∃ bs, Connection.Run site o.conn bs o'.conn ∧
    o'.sight = o.sight.seeAll (Beat.effectsOf site bs) ∧
    ((o.finished → o.conn.phase = .shutdown) → o'.finished → o'.conn.phase = .shutdown)

/-- The table is as it was, and the connections have lived on. -/
structure Evolves (w w' : Network) : Prop where
  site : w'.site = w.site
  table : w'.table = w.table
  size : w'.members.size = w.members.size
  outlook : ∀ j o, w.outlook? j = some o → ∃ o', w'.outlook? j = some o' ∧ o.Lives w.site o'

variable {w w' w'' : Network} {i : Nat} {m : Member} {es ds : List Effect}

lemma outlook?_of_member (hm : w.members[i]? = some m) : w.outlook? i = some m.outlook := by
  rw [outlook?, hm, Option.map_some]

lemma outlook?_eq_some {o : Outlook} :
    w.outlook? i = some o ↔ ∃ m, w.members[i]? = some m ∧ m.outlook = o := Option.map_eq_some_iff

lemma outlook?_isSome : (w.outlook? i).isSome ↔ i < w.members.size := by
  rw [outlook?, Option.isSome_map]
  simp

lemma size_eq_of_outlook? (h : ∀ j, (w'.outlook? j).isSome = (w.outlook? j).isSome) :
    w'.members.size = w.members.size := by
  have hj : ∀ j, j < w'.members.size ↔ j < w.members.size := fun j => by
    rw [← outlook?_isSome, ← outlook?_isSome, h]
  have := hj w.members.size
  have := hj w'.members.size
  omega

/-! ### Calm -/

namespace Calm

lemma of_eq (hs : w'.site = w.site) (ht : w'.table = w.table) (hm : w'.members = w.members) :
    Calm w w' := ⟨hs, ht, fun j => by rw [outlook?, hm, outlook?]⟩

lemma refl (w : Network) : Calm w w := of_eq rfl rfl rfl

lemma trans (h : Calm w w') (h' : Calm w' w'') : Calm w w'' :=
  ⟨h'.site.trans h.site, h'.table.trans h.table, fun j => (h'.outlook j).trans (h.outlook j)⟩

lemma foldl {α : Type} {f : Network → α → Network} (hf : ∀ w a, Calm w (f w a)) (as : List α)
    (w : Network) : Calm w (as.foldl f w) := by
  induction as generalizing w with
  | nil => exact refl w
  | cons a as ih => exact (hf w a).trans (ih _)

lemma size (h : Calm w w') : w'.members.size = w.members.size :=
  size_eq_of_outlook? fun j => by rw [h.outlook]

end Calm

lemma calm_modifyMember (w : Network) (i : Nat) {f : Member → Member}
    (hf : ∀ m, (f m).outlook = m.outlook) : Calm w (w.modifyMember i f) := by
  refine ⟨rfl, rfl, fun j => ?_⟩
  rw [outlook?, members_modifyMember, outlook?]
  split
  · rw [Option.map_map]
    exact congrArg (Option.map · _) (funext hf)
  · rfl

lemma calm_wake (a : Activity) (w : Network) : Calm w (w.wake a) := by
  unfold wake
  split <;> exact .of_eq rfl rfl rfl

lemma calm_reply (id : Nat) (m : Message) (w : Network) : Calm w (w.reply id m) := by
  refine .trans ?_ (calm_wake _ _)
  exact .of_eq rfl rfl rfl

lemma calm_abandon (id : Nat) (w : Network) : Calm w (w.abandon id) := by
  unfold abandon
  split
  · exact calm_reply _ _ w
  · exact .refl w

lemma calm_discard (i : Nat) (p : Poster) (e : Event) (w : Network) :
    Calm w (w.discard i p e) := by
  unfold discard
  extract_lets w'
  have hw : Calm w w' := by
    unfold w'
    split
    · exact calm_abandon _ w
    all_goals exact .of_eq rfl rfl rfl
  split
  · exact hw.trans (.of_eq rfl rfl rfl)
  · exact hw

lemma calm_callWaiters (i : Nat) (w : Network) : Calm w (w.callWaiters i) := by
  unfold callWaiters
  split
  · exact .refl w
  · rename_i m _
    have hw : Calm w (w.modifyMember i fun n => { n with mailbox := m.mailbox.call.2 }) :=
      calm_modifyMember w i fun _ => rfl
    exact hw.trans (Calm.foldl (fun w x => calm_wake _ w) _ _)

lemma calm_enter (i : Nat) (x : Waiter) (w : Network) : Calm w (w.enter i x) := by
  have hw : Calm w (w.modifyMember i fun m => { m with mailbox := m.mailbox.enter x }) :=
    calm_modifyMember w i fun _ => rfl
  exact hw.trans (calm_wake _ _)

lemma calm_post (i : Nat) (p : Poster) (e : Event) (w : Network) : Calm w (w.post i p e) := by
  unfold post
  split
  · exact .refl w
  · split
    · exact calm_discard i p e w
    · have hw : Calm w (w.modifyMember i fun m => { m with mailbox := m.mailbox.offer p e }) :=
        calm_modifyMember w i fun _ => rfl
      exact hw.trans (calm_wake _ _)

lemma calm_openStream (name : String) (far : FarEnd) (w : Network) :
    Calm w (w.openStream name far).2 := .of_eq rfl rfl rfl

lemma calm_ticket (w : Network) : Calm w w.ticket.2 := .of_eq rfl rfl rfl

lemma calm_wakeReaders (s : Nat) (w : Network) : Calm w (w.wakeReaders s) :=
  Calm.foldl (fun w a => calm_wake a w) _ _

lemma calm_wakeWriter (s : Nat) (w : Network) : Calm w (w.wakeWriter s) :=
  Calm.foldl (fun w i => calm_wake (.member i) w) _ _

/-! ### Showing -/

namespace Shows

lemma of_calm {e : Effect} (he : ∀ v : Sight, v.see e = v) (h : Calm w w') :
    Shows i [e] w w' := by
  refine ⟨h.site, h.table, fun j => ?_⟩
  rw [h.outlook]
  cases w.outlook? j with
  | none => rfl
  | some o => simp [he]

lemma trans (h : Shows i es w w') (h' : Shows i ds w' w'') : Shows i (es ++ ds) w w'' := by
  refine ⟨h'.site.trans h.site, h'.table.trans h.table, fun j => ?_⟩
  rw [h'.outlook, h.outlook, Option.map_map]
  refine congrArg (Option.map · _) (funext fun o => ?_)
  by_cases hij : i = j <;> simp [hij]

lemma before (h : Calm w w') (h' : Shows i es w' w'') : Shows i es w w'' :=
  ⟨h'.site.trans h.site, h'.table.trans h.table, fun j => by rw [h'.outlook, h.outlook]⟩

lemma after (h : Shows i es w w') (h' : Calm w' w'') : Shows i es w w'' :=
  ⟨h'.site.trans h.site, h'.table.trans h.table, fun j => by rw [h'.outlook, h.outlook]⟩

lemma size (h : Shows i es w w') : w'.members.size = w.members.size :=
  size_eq_of_outlook? fun j => by rw [h.outlook, Option.isSome_map]

end Shows

lemma shows_modifyMember (w : Network) (i : Nat) {f : Member → Member} {e : Effect}
    (hf : ∀ m, (f m).outlook = { m.outlook with sight := m.outlook.sight.see e }) :
    Shows i [e] w (w.modifyMember i f) := by
  refine ⟨rfl, rfl, fun j => ?_⟩
  rw [outlook?, members_modifyMember, outlook?, Option.map_map]
  split
  · rw [Option.map_map]
    exact congrArg (Option.map · _) (funext hf)
  · rfl

lemma shows_perform (i : Nat) (w : Network) (e : Effect) : Shows i [e] w (w.perform i e) := by
  cases e with
  | showPhase p => exact shows_modifyMember w i fun _ => rfl
  | showPeer q => exact shows_modifyMember w i fun _ => rfl
  | note | dispatch | release | refuse =>
    exact .of_calm (fun _ => rfl) (.of_eq rfl rfl rfl)
  | abandonDial => exact .of_calm (fun _ => rfl) (.refl w)
  | complete c => exact .of_calm (fun _ => rfl) (calm_reply _ _ w)
  | abandon waiter => exact .of_calm (fun _ => rfl) (calm_abandon waiter w)
  | dial =>
    refine .of_calm (fun _ => rfl) ?_
    simp only [perform]
    split
    · exact .refl w
    · exact calm_post i .other _ w
  | listen link =>
    have hw : Calm w (w.modifyMember i fun m => { m with readers := m.readers ++ [{ link }] }) :=
      calm_modifyMember w i fun _ => rfl
    exact .of_calm (fun _ => rfl) (hw.trans (calm_wake _ _))
  | hangUp link =>
    have hw : Calm w (w.modifyMember i fun m => { m with
        readers := m.readers.filter (·.link.id ≠ link.id)
        mailbox := m.mailbox.keep (·.poster ≠ .reader link.id) }) :=
      calm_modifyMember w i fun _ => rfl
    exact .of_calm (fun _ => rfl) (hw.trans (.of_eq rfl rfl rfl))

lemma shows_foldl (i : Nat) (es : List Effect) (w : Network) :
    Shows i es w (es.foldl (perform i) w) := by
  induction es generalizing w with
  | nil => exact ⟨rfl, rfl, fun j => by cases hj : w.outlook? j <;> simp [hj]⟩
  | cons e es ih => exact (shows_perform i w e).trans (ih _)

lemma shows_turn (i : Nat) (m : Member) (input : Input) (w : Network) :
    Shows i (m.conn.step w.site w.now w.serial w.ids input).effects
      (w.modifyMember i (.after (m.conn.step w.site w.now w.serial w.ids input)))
      (w.turn i m input) := by
  have bell : ∀ (p : Prop) [Decidable p] (v : Network),
      Calm v (if p then v.wake (.bell i) else v) := by
    intro p _ v
    split
    · exact calm_wake _ v
    · exact .refl v
  unfold turn
  refine .after ?_ (bell _ _)
  refine .after ?_ (calm_callWaiters i _)
  refine .before ?_ (shows_foldl i _ _)
  exact .of_eq rfl rfl rfl

/-! ### Living on -/

namespace Outlook.Lives

variable {site : Site} {o o' o'' : Outlook}

lemma refl (site : Site) (o : Outlook) : o.Lives site o := ⟨[], .nil, rfl, id⟩

lemma trans (h : o.Lives site o') (h' : o'.Lives site o'') : o.Lives site o'' := by
  obtain ⟨bs, hr, hs, hf⟩ := h
  obtain ⟨ds, hr', hs', hf'⟩ := h'
  refine ⟨bs ++ ds, hr.append hr', ?_, fun hi => hf' (hf hi)⟩
  rw [hs', hs, Beat.effectsOf_append, Sight.seeAll_append]

end Outlook.Lives

namespace Evolves

lemma of_calm (h : Calm w w') : Evolves w w' :=
  ⟨h.site, h.table, h.size, fun j o ho => ⟨o, (h.outlook j).trans ho, .refl w.site o⟩⟩

lemma trans (h : Evolves w w') (h' : Evolves w' w'') : Evolves w w'' := by
  refine ⟨h'.site.trans h.site, h'.table.trans h.table, h'.size.trans h.size, fun j o ho => ?_⟩
  obtain ⟨o', ho', hl⟩ := h.outlook j o ho
  obtain ⟨o'', ho'', hl'⟩ := h'.outlook j o' ho'
  exact ⟨o'', ho'', hl.trans (h.site ▸ hl')⟩

lemma before (h : Evolves w w') {o' : Outlook} (ho' : w'.outlook? i = some o') :
    ∃ o, w.outlook? i = some o ∧ o.Lives w.site o' := by
  have hi : (w.outlook? i).isSome := by
    rw [outlook?_isSome, ← h.size, ← outlook?_isSome, ho']
    rfl
  obtain ⟨o, ho⟩ := Option.isSome_iff_exists.mp hi
  obtain ⟨o₁, ho₁, hl⟩ := h.outlook i o ho
  obtain rfl := Option.some.inj (ho₁.symm.trans ho')
  exact ⟨o, ho, hl⟩

end Evolves

lemma evolves_modifyMember (hm : w.members[i]? = some m) {f : Member → Member}
    (hl : m.outlook.Lives w.site (f m).outlook) : Evolves w (w.modifyMember i f) := by
  refine ⟨rfl, rfl, by simp [modifyMember], fun j o ho => ?_⟩
  rw [outlook?, members_modifyMember]
  split
  · rename_i hij
    obtain rfl := Option.some.inj ((outlook?_of_member (hij ▸ hm)).symm.trans ho)
    exact ⟨_, by rw [← hij, hm]; rfl, hl⟩
  · exact ⟨o, ho, .refl w.site o⟩

/-- A connection that takes a turn lives on. -/
lemma evolves_turn {o : Outlook} {input : Input} (ho : w.outlook? i = some o)
    (hc : m.conn = o.conn.without input) (ht : o.conn.Takes input) (hf : o.finished = false) :
    Evolves w (w.turn i m input) := by
  obtain ⟨n, hn, rfl⟩ := outlook?_eq_some.mp ho
  let b : Beat := ⟨n.conn, ⟨w.now, w.serial, w.ids⟩, input⟩
  have hb : m.conn.step w.site w.now w.serial w.ids input = b.turn w.site := by rw [hc]; rfl
  have hs := shows_turn i m input w
  rw [hb] at hs
  refine ⟨hs.site, hs.table, hs.size.trans (by simp [modifyMember]), fun j o hj => ?_⟩
  -- the member that takes the turn
  by_cases hij : i = j
  · subst hij
    obtain rfl := Option.some.inj (ho.symm.trans hj)
    refine ⟨⟨(b.turn w.site).conn, n.outlook.sight.seeAll (b.turn w.site).effects, n.finished⟩,
      ?_, [b], .turn (b := b) .nil ht, by rw [Beat.effectsOf_singleton], ?_⟩
    · rw [hs.outlook, outlook?, members_modifyMember, if_pos rfl, hn]
      simp only [Option.map_some, if_true]
      rfl
    · exact fun _ h => absurd (hf.symm.trans h) (by simp)
  · -- another member, which does not change
    refine ⟨o, ?_, .refl w.site o⟩
    rw [hs.outlook, outlook?, members_modifyMember, if_neg hij, ← outlook?, hj]
    simp [hij]

lemma evolves_calm_turn (hv : Calm w w') {o : Outlook} {input : Input}
    (ho : w.outlook? i = some o) (hc : m.conn = o.conn.without input) (ht : o.conn.Takes input)
    (hf : o.finished = false) : Evolves w (w'.turn i m input) :=
  (Evolves.of_calm hv).trans (evolves_turn ((hv.outlook i).trans ho) hc ht hf)

/-! ### Pieces of work -/

lemma calm_observe (i : Nat) (w : Network) : Calm w (w.observe i) :=
  calm_modifyMember w i fun _ => rfl

lemma calm_suspend (a : Activity) (w : Network) : Calm w (w.suspend a) := by
  cases a with
  | member i => exact calm_observe i w
  | _ => exact .refl w

lemma evolves_finish (hm : w.members[i]? = some m) (hp : m.conn.phase = .shutdown) :
    Evolves w (w.finish i m) := by
  have hw : Evolves w (w.modifyMember i fun m =>
      { m with finished := true, mailbox := m.mailbox.clear }) :=
    evolves_modifyMember hm ⟨[], .nil, rfl, fun _ _ => hp⟩
  exact hw.trans (.of_calm (Calm.foldl
    (fun w (x : Poster × Event) => calm_discard i x.1 x.2 w) _ _))

lemma calm_putOn (i : Nat) (m : Member) (x : Writing) (s : Stream) (w : Network) :
    Calm w (w.putOn i m x s) := by
  refine .trans ?_ (calm_modifyMember _ i ?_)
  · exact .of_eq rfl rfl rfl
  · exact fun _ => rfl

lemma calm_turnAway (a : Acceptor) (e : Failure) (answer : Option Message) (w : Network) :
    Calm w (w.turnAway a e answer) := by
  unfold turnAway
  dsimp only
  split <;> exact .of_eq rfl rfl rfl

lemma Member.lives_ring (site : Site) (now : Nat) (m : Member) :
    m.outlook.Lives site (ringMember now m).2.outlook :=
  ⟨[], Connection.Run.nil.ring now, rfl, id⟩

/-- Whatever is done, connections live on; but a stream may be let in. -/
lemma evolves_of_piece (h : w.Piece w') :
    Evolves w w' ∨ ∃ v a hd body, Calm w v ∧ w' = v.letIn a hd body := by
  have aside : ∀ ids senders, Calm w { w with ids := ids, senders := senders } :=
    fun _ _ => .of_eq rfl rfl rfl
  have taken : ∀ (s : Nat) (st : Stream), Calm w (w.modifyStream s fun _ => st) :=
    fun _ _ => .of_eq rfl rfl rfl
  cases h with
  | finish hm hp => exact .inl (evolves_finish hm hp)
  | @own i m e rest hm hf ha hi =>
    refine .inl (evolves_turn (outlook?_of_member hm) ?_ (.internal ha hi) hf)
    exact (Connection.without_of_internal (by rw [hi]; rfl) e).symm
  | @queued i m e mailbox hm hf ha hi hq =>
    have hv : Calm w (w.modifyMember i fun m => { m with mailbox := mailbox }) :=
      calm_modifyMember w i fun _ => rfl
    refine .inl (evolves_calm_turn (hv.trans (calm_callWaiters i _)) (outlook?_of_member hm) ?_
      (.queued ha hi) hf)
    exact (Connection.without_of_internal (by rw [hi]; rfl) e).symm
  | failed e hm hf hx => exact .inl (evolves_turn (outlook?_of_member hm) rfl (.written hx _) hf)
  | put hm hx hs => exact .inl (.of_calm (calm_putOn _ _ _ _ w))
  | written hm hf hx hs hr =>
    exact .inl (evolves_calm_turn (calm_putOn _ _ _ _ w) (outlook?_of_member hm) rfl
      (.written hx _) hf)
  | late hm hf hx hs =>
    exact .inl (evolves_calm_turn (calm_putOn _ _ _ _ w) (outlook?_of_member hm) rfl
      (.written hx _) hf)
  | enter hm hx => exact .inl (.of_calm (calm_enter _ _ w))
  | concludes hm hx => exact .inl (.of_calm ((calm_enter _ _ w).trans (.of_eq rfl rfl rfl)))
  | take hs ho => exact .inl (.of_calm (taken _ _))
  | @deliver i _ s _ st' _ _ hs ho =>
    refine .inl (.of_calm (.trans (.trans (taken s st') ?_) (calm_post i _ _ _)))
    exact calm_modifyMember _ i fun _ => rfl
  | letIn ha hh hs ho => exact .inr ⟨_, _, _, _, taken _ _, rfl⟩
  | turnAway ha hh hs ho => exact .inl (.of_calm ((taken _ _).trans (calm_turnAway _ _ none _)))
  | answered => exact .inl (.of_calm (.of_eq rfl rfl rfl))
  | refused => exact .inl (.of_calm ((aside _ _).trans (calm_reply _ _ _)))
  | attempt => exact .inl (.of_calm ((aside _ _).trans (calm_post _ _ _ _)))
  | @rings i m hm =>
    have hr : Evolves w (w.modifyMember i fun _ => (ringMember w.now m).2) :=
      evolves_modifyMember hm (m.lives_ring w.site w.now)
    exact .inl (hr.trans (.of_calm (Calm.foldl (fun w a => calm_post i .alarm _ w) _ _)))

lemma evolves_ringMembers (w : Network) :
    Evolves w { w with members := (w.members.map (ringMember w.now)).map Prod.snd } where
  site := rfl
  table := rfl
  size := by simp
  outlook j o ho := by
    obtain ⟨m, hm, rfl⟩ := outlook?_eq_some.mp ho
    refine ⟨_, outlook?_of_member ?_, m.lives_ring w.site w.now⟩
    rw [Array.getElem?_map, Array.getElem?_map, hm]
    rfl

lemma evolves_ring (w : Network) : Evolves w w.ring := by
  unfold ring
  dsimp only
  refine .trans ?_ (.of_calm (Calm.foldl
    (fun w (a : Acceptor) => calm_wake (.acceptor a.id) w) _ _))
  refine .trans ?_ (.of_calm (Calm.foldl (fun w i => calm_wake (.member i) w) _ _))
  exact (evolves_ringMembers w).trans
    (.of_calm (Calm.foldl (fun w (x : Nat × Alarm AlarmSlot Event) =>
      calm_post x.1 .alarm x.2.event w) _ _))

end Network

end Diameter
