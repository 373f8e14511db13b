import Diameter.Proofs.Outgoing
import Diameter.Proofs.NetworkUse

/-!
Whatever a network does, it does in steps.

`Network.run` and all that is made of it, up to the operations of users and of far ends, are steps
one after another (`Network.Goes`). So what is known of networks that are reached in steps is known
of every network in use (`Network.InUse.reached`). Main statement: `Network.puts_whole_messages`.
-/

namespace Diameter

namespace Network

/-- One network becomes another in steps, as long as what is known holds of the first. -/
def Goes (w w' : Network) : Prop := ∀ log, Sound log w → ∃ ds, Reached w ds w'

variable {w w' w'' : Network} {i : Nat} {m : Member}

lemma Reached.trans {log ds : List Deed} (h : Reached w log w') (h' : Reached w' ds w'') :
    Reached w (log ++ ds) w'' := by
  induction h' with
  | begin => simpa using h
  | step _ hs ih => simpa using ih.step hs

namespace Goes

lemma refl (w : Network) : Goes w w := fun _ _ => ⟨[], .begin⟩

lemma trans (h : Goes w w') (h' : Goes w' w'') : Goes w w'' := by
  intro log hl
  obtain ⟨ds, hr⟩ := h log hl
  obtain ⟨ds', hr'⟩ := h' _ (hr.sound hl)
  exact ⟨ds ++ ds', hr.trans hr'⟩

lemma step {ds : List Deed} (hs : w.Step ds w') : Goes w w' := fun _ _ =>
  ⟨_, Reached.begin.step hs⟩

lemma pass (hp : Passes [] [] w w') : Goes w w' := step (.pass hp)

lemma pass_of_known (h : ∀ log, Sound log w → Passes [] [] w w') : Goes w w' := fun log hl =>
  pass (h log hl) log hl

end Goes

/-! ### Connections -/

lemma passes_observe (i : Nat) (w : Network) : Passes [] [] w (w.observe i) :=
  passes_modifyMember_aside w i (fun _ => rfl) (fun _ => rfl) fun _ _ => Nat.le_refl _

lemma passes_finish (i : Nat) (m : Member) (w : Network) : Passes [] [] w (w.finish i m) := by
  refine .before ?_ (Passes.foldl (fun w x _ => passes_discard i x.1 x.2 w) _)
  exact passes_modifyMember_aside w i (fun _ => rfl) (fun _ => rfl) fun _ _ => Nat.zero_le _

lemma modifyStream_congr {s : Nat} {st : Stream} (hs : w.streams[s]? = some st)
    {f g : Stream → Stream} (h : f st = g st) : w.modifyStream s f = w.modifyStream s g := by
  have hm : w.streams.modify s f = w.streams.modify s g := by
    refine Array.ext_getElem? fun j => ?_
    rw [Array.getElem?_modify, Array.getElem?_modify]
    split
    · rename_i hj
      rw [← hj, hs, Option.map_some, Option.map_some, h]
    · rfl
  rw [modifyStream, hm, modifyStream]

lemma goes_putOn {x : Writing} {st : Stream} (hm : w.members[i]? = some m)
    (hx : m.conn.writing = some x) (hs : w.streams[x.link.stream]? = some st) :
    Goes w (w.putOn i m x st) ∧ (w.putOn i m x st).members[i]? =
      some { m with unwritten := (st.put m.unwritten).1 } := by
  have hput : w.putOn i m x st = w.putNext i x.link.stream st.outboundRoom m.unwritten :=
    congrArg (modifyMember i _) (modifyStream_congr hs rfl)
  refine ⟨hput ▸ .step (.put st.outboundRoom hm hx), ?_⟩
  rw [putOn, members_modifyMember, if_pos rfl]
  exact congrArg (Option.map _) hm

lemma passes_taken {s : Nat} {st st' : Stream} (hs : w.streams[s]? = some st)
    (ho : st'.outbound = st.outbound) : Passes [] [] w (w.modifyStream s fun _ => st') :=
  passes_modifyStream w s fun _ h => Option.some.inj (hs.symm.trans h) ▸ ho

lemma stream?_eventOf (link : Nat) (d : Frame.Delivery) : (eventOf link d).stream? = none := by
  cases d <;> rfl

/-! ### Acceptors -/

section Acceptor

variable {a : Acceptor} (ha : a ∈ w.acceptors) (hh : a.handingTo = none)

include ha hh

lemma goes_turnAway (e : Failure) (answer : Option Message) : Goes w (w.turnAway a e answer) := by
  have aside : ∀ {f : Stream → Stream},
      (∀ st, w.streams[a.stream]? = some st → (f st).outbound = st.outbound) →
        Goes w (((w.modifyStream a.stream f).closeNear a.stream).conclude a.id (.error e)) :=
    fun hf => .pass (.before (passes_modifyStream w a.stream hf)
      (passes_closeNear_conclude (w := w.modifyStream a.stream _) ha hh _).keep)
  unfold turnAway
  dsimp only
  split
  · -- there is an answer, and it fits
    rename_i b hb
    obtain ⟨m, rfl, hb⟩ := Option.bind_eq_some_iff.mp hb
    cases hl : m.checkLength with
    | error f => simp [Message.octets?, hl, Except.map, Except.toOption] at hb
    | ok u =>
      obtain rfl : m.encode = b := by
        simpa [Message.octets?, hl, Except.map, Except.toOption] using hb
      cases hs : w.streams[a.stream]? with
      -- the stream is gone
      | none => exact aside fun st h => absurd (hs.symm.trans h) (by simp)
      | some st =>
        by_cases hf : st.farOpen = true
        · -- as much is written as there is room for, and the far end may read it
          have hput : w.modifyStream a.stream
              (fun s => if s.farOpen then (s.put m.encode).2 else s) =
                w.modifyStream a.stream fun s =>
                  { s with outbound := s.outbound ++ m.encode.take st.outboundRoom } :=
            modifyStream_congr hs (by rw [if_pos hf]; rfl)
          rw [hput]
          exact .step (.dismiss st.outboundRoom ha hh hl)
        · -- the far end has closed, and nothing is written
          refine aside fun st' h => ?_
          obtain rfl := Option.some.inj (hs.symm.trans h)
          rw [if_neg hf]
  · -- there is no answer to write
    exact .pass (passes_closeNear_conclude ha hh _).keep

omit hh in
lemma mem_acceptors_spawn (expected : Option String) (first : Event) :
    a ∈ (w.spawn expected first).2.acceptors := by
  show a ∈ (wake _ _).acceptors
  unfold wake
  split <;> exact ha

omit ha in
lemma passes_taken_over {v : Network} (hp : Passes [a.stream] [] w v) (ha : a ∈ v.acceptors)
    (r : Except Failure (Option String)) : Passes [] [] w (v.conclude a.id r) :=
  (hp.trans (passes_conclude_of_mem ha hh r)).cancel

lemma goes_letIn (h : Header) (body : Octets) : Goes w (w.letIn a h body) := by
  have opening : ∀ cer, Event.IsOpening (.acceptedCer a.stream cer) := fun _ => trivial
  unfold letIn
  split
  · -- refused
    exact goes_turnAway ha hh _ _
  · -- a CER that names nobody
    exact .pass (passes_taken_over hh (passes_spawn none (opening _) w)
      (mem_acceptors_spawn ha _ _) _)
  · rename_i host cer _
    have ht : Passes [] [] w { w with table := w.table.prune w.isLive } := .of_eq rfl rfl rfl rfl
    refine .trans (.pass ht) (.pass ?_)
    dsimp only
    split
    · -- nobody serves the host
      have hs := passes_spawn (some host) (opening cer)
        { w with table := w.table.prune w.isLive }
      have hm := mem_acceptors_spawn (w := { w with table := w.table.prune w.isLive }) ha
        (some host) (.acceptedCer a.stream cer)
      refine passes_taken_over hh (hs.after ?_) ?_ _
      · exact .of_eq rfl rfl rfl rfl
      · exact hm
    · -- a member serves it already
      rename_i i _
      have hp := ((passes_handing (w := { w with table := w.table.prune w.isLive }) ha hh i).trans
        (passes_post i (.acceptor a.id) (.acceptedCer a.stream cer) _)).cancel
      split
      · exact hp.after (passes_conclude _ _ _)
      · exact hp

end Acceptor

/-! ### Alarms -/

lemma stream?_of_slot? {e : Event} {slot : AlarmSlot} (h : e.slot? = some slot) :
    e.stream? = none := by
  cases e <;> first | rfl | cases h

lemma Member.still_ring (now : Nat) (m : Member) : m.Still (ringMember now m).2 :=
  ⟨⟨_, rfl, Alarms.sublist_ringAll _ _⟩, rfl⟩

lemma Member.streams_ring (now : Nat) (m : Member) : (ringMember now m).2.streams = m.streams := rfl

lemma stream?_of_rung {now : Nat} (h : m.conn.duty.Tidy) {a : Alarm AlarmSlot Event}
    (ha : a ∈ (ringMember now m).1) : a.event.stream? = none :=
  stream?_of_slot? (h.sorted a (Alarms.mem_armed_of_mem_ringAll ha))

lemma goes_rings (hm : w.members[i]? = some m) :
    Goes w ((ringMember w.now m).1.foldl (fun w a => w.post i .alarm a.event)
      (w.modifyMember i fun _ => (ringMember w.now m).2)) := by
  refine .pass_of_known fun log hl => ?_
  have ht := (hl.stage i m hm).2
  have hr : Passes [] [] w (w.modifyMember i fun _ => (ringMember w.now m).2) :=
    passes_modifyMember w hm (m.still_ring w.now) fun k =>
      Nat.le_of_eq (by rw [m.streams_ring w.now])
  refine hr.before ?_
  exact Passes.foldl (fun w a ha => passes_post_of_none (stream?_of_rung ht ha) i .alarm w) _

lemma passes_ringMembers (w : Network) : Passes [] [] w
    { w with members := (w.members.map (ringMember w.now)).map Prod.snd } where
  site := rfl
  size := rfl
  outbound _ := rfl
  grows := by simp
  members i m' hm := by
    simp only [Array.getElem?_map, Option.map_map, Option.map_eq_some_iff] at hm
    obtain ⟨m, hm, rfl⟩ := hm
    exact ⟨m, .inl hm, m.still_ring w.now⟩
  balance k := by simp [held, List.flatMap_map, Member.streams_ring]

lemma goes_ring (w : Network) : Goes w w.ring := by
  refine .pass_of_known fun log hl => ?_
  unfold ring
  dsimp only
  refine .before ?_ (Passes.foldl (fun w a _ => passes_wake (.acceptor a.id) w) _)
  refine .before ?_ (Passes.foldl (fun w i _ => passes_wake (.member i) w) _)
  refine .before (passes_ringMembers w) (Passes.foldl (fun v x hx => ?_) _)
  simp only [List.mem_mergeSort, List.mem_flatten, Array.mem_toList_iff, Array.mem_mapIdx,
    Array.size_map, Array.getElem_map] at hx
  obtain ⟨l, ⟨i, hi, rfl⟩, hx⟩ := hx
  obtain ⟨a, ha, rfl⟩ := List.mem_map.mp hx
  have ht := (hl.stage i _ (Array.getElem?_eq_getElem hi)).2
  exact passes_post_of_none (stream?_of_rung ht ha) i .alarm v

/-! ### Everything -/

lemma goes_piece (h : w.Piece w') : Goes w w' := by
  have aside : ∀ ids senders, Passes [] [] w { w with ids := ids, senders := senders } :=
    fun _ _ => .of_eq rfl rfl rfl rfl
  cases h with
  | @finish i m hm hp => exact .pass (passes_finish i m w)
  | own hm hf ha hi => exact .step (.own (l := []) hm ha hi (List.forall_mem_nil _))
  | queued hm hf ha hi hq =>
    refine .step (.queued (l := []) hm ha hi ?_ (List.forall_mem_nil _))
    refine .after (passes_modifyMember w hm (.of_eq rfl rfl) fun k => ?_) (passes_callWaiters _ _)
    have := Mailbox.count_pop hq k
    simp only [Member.streams, List.count_append, List.count_nil]
    omega
  | failed e hm hf hx => exact .step (.failed e hm hx)
  | put hm hx hs => exact (goes_putOn hm hx hs).1
  | written hm hf hx hs hr =>
    obtain ⟨hg, hm'⟩ := goes_putOn hm hx hs
    have hs := Step.written hm' hx hr
    exact hg.trans (.step hs)
  | late hm hf hx hs =>
    obtain ⟨hg, hm'⟩ := goes_putOn hm hx hs
    have hs := Step.failed .timeout hm' hx
    exact hg.trans (.step hs)
  | enter hm hx => exact .pass (passes_enter w hm hx)
  | concludes hm hx => exact .pass ((passes_enter w hm hx).after (passes_conclude _ _ _))
  | take hs ho => exact .pass (passes_taken hs ho)
  | @deliver i link _ _ _ _ _ hs ho =>
    refine .pass (.before (.before (passes_taken hs ho) ?_)
      (passes_post_of_none (stream?_eventOf link _) i _ _))
    exact passes_modifyMember_aside _ i (fun _ => rfl) (fun _ => rfl) fun _ _ => Nat.le_refl _
  | letIn ha hh hs ho =>
    refine .trans (.pass (passes_taken hs ho)) ?_
    exact goes_letIn (w := modifyStream _ _ w) ha hh _ _
  | turnAway ha hh hs ho =>
    refine .trans (.pass (passes_taken hs ho)) ?_
    exact goes_turnAway (w := modifyStream _ _ w) ha hh _ none
  | answered => exact .pass (.of_eq rfl rfl rfl rfl)
  | refused => exact .pass (.before (aside _ _) (passes_reply _ _ _))
  | attempt => exact .pass (.before (aside _ _) (passes_post_of_none rfl _ _ _))
  | rings hm => exact goes_rings hm

lemma passes_suspend (a : Activity) (w : Network) : Passes [] [] w (w.suspend a) := by
  cases a with
  | member i => exact passes_observe i w
  | _ => exact .refl w

lemma passes_wakeWriter (s : Nat) (w : Network) : Passes [] [] w (w.wakeWriter s) :=
  Passes.foldl (fun w i _ => passes_wake (.member i) w) _

lemma lasting_goes (w : Network) : Lasting (Goes w) where
  piece h hp := h.trans (goes_piece hp)
  wait {v} a rest _ _ h := by
    refine h.trans (.pass (.before ?_ (passes_suspend a { v with ready := rest })))
    exact .of_eq rfl rfl rfl rfl
  handle {v} i link request jobs h := by
    refine h.trans (.pass (.before ?_ (passes_post_of_none rfl i .other { v with jobs := jobs })))
    exact .of_eq rfl rfl rfl rfl
  ring h := h.trans (goes_ring _)
  drain s h := h.trans (.trans (.step (.far s (f := Stream.drain) fun _ => List.nil_suffix))
    (.pass (passes_wakeWriter s _)))
  later now h := h.trans (.pass (.of_eq rfl rfl rfl rfl))

/-! ### Users and far ends -/

section Outside

variable (w) (name : String) (far : FarEnd)

lemma passes_wakeReaders (s : Nat) : Passes [] [] w (w.wakeReaders s) :=
  Passes.foldl (fun w a _ => passes_wake a w) _

variable {w} in
lemma goes_openStream (h : Passes [w.streams.size] [] (w.openStream name far).2 w') : Goes w w' :=
  .step (.begin (by rfl) h)

lemma passes_newAcceptor {a : Acceptor} (ha : a.handingTo = none) :
    Passes [a.stream] [] w { w with acceptors := w.acceptors ++ [a] } where
  site := rfl
  size := rfl
  outbound _ := rfl
  grows := Nat.le_refl _
  members i m h := ⟨m, .inl h, .refl m⟩
  balance k := by
    simp only [held, List.flatMap_append, List.flatMap_singleton, List.count_append,
      Acceptor.streams, ha, Option.isNone_none, if_true, List.count_nil]
    omega

lemma passes_arrive (b : Octets) (gone : Bool) {s : Nat} {st : Stream}
    (hs : w.streams[s]? = some st) (ho : st.outbound = []) :
    Passes [] [] w (
      let v := w.modifyStream s fun st => { st with inbound := b }
      if gone then v.modifyStream s Stream.closeFar else v) := by
  have hv : Passes [] [] w (w.modifyStream s fun st => { st with inbound := b }) :=
    passes_modifyStream w s fun _ _ => rfl
  dsimp only
  split
  · refine hv.before (passes_modifyStream _ s fun st' h => ?_)
    rw [modifyStream, Array.getElem?_modify, if_pos rfl, hs] at h
    obtain rfl := Option.some.inj h
    exact ho.symm
  · exact hv

lemma passes_look : Passes [] [] w w.look.2 where
  site := rfl
  size := by simp [look]
  outbound s := by
    simp only [outboundOf, look, Array.getElem?_map, Option.map_map]
    rfl
  grows := by simp [look]
  members i m' h := by
    simp only [look, Array.getElem?_map, Option.map_eq_some_iff] at h
    obtain ⟨m, hm, rfl⟩ := h
    exact ⟨m, .inl hm, .of_eq rfl rfl⟩
  balance k := by
    have hs : ∀ m : Member, ({ m with sightings := [] } : Member).streams = m.streams :=
      fun _ => rfl
    simp [held, look, List.flatMap_map, hs]

variable {w} in
/-- Whatever users and far ends do is steps. -/
lemma goes_touch (h : w.Touch w') : Goes w w' := by
  cases h with
  | connect expected =>
    exact .pass (passes_spawn expected (show Event.start.IsOpening from trivial) w)
  | accept name far cer =>
    exact goes_openStream name far (passes_spawn cer.originHost?
      (show (Event.acceptedCer w.streams.size cer).IsOpening from trivial) _)
  | acceptStream name far =>
    exact goes_openStream name far (passes_spawn none
      (show (Event.accepted w.streams.size).IsOpening from trivial) _)
  | dialed i name far =>
    exact goes_openStream name far (passes_post i .other (.dialed w.streams.size) _)
  | undialed name far => exact goes_openStream name far (.idle (passes_closeNear _ _))
  | dialFailed i text => exact .pass (passes_post_of_none rfl i .other w)
  | incoming i name far cer =>
    exact goes_openStream name far (passes_post i .other (.acceptedCer w.streams.size cer) _)
  | request i m =>
    refine .pass (.before ?_ (passes_wake _ _))
    exact .of_eq rfl rfl rfl rfl
  | ticket => exact .pass (.of_eq rfl rfl rfl rfl)
  | stop i id cause => exact .pass (passes_post_of_none rfl i .other w)
  | arrive id deadline name b gone =>
    refine goes_openStream name {} ?_
    refine .before (passes_arrive _ b gone Array.getElem?_push_size rfl)
      (.after ?_ (passes_wake _ _))
    exact passes_newAcceptor (a := ⟨id, w.streams.size, deadline, none⟩) _ rfl
  | enroll host =>
    refine .pass (.before (passes_spawn (some host) (show Event.start.IsOpening from trivial) w) ?_)
    exact .of_eq rfl rfl rfl rfl
  | forget table => exact .pass (.of_eq rfl rfl rfl rfl)
  | farWrite s b =>
    have hs := Step.far (w := w) s (f := fun s => { s with inbound := s.inbound ++ b })
      fun _ => List.suffix_refl _
    exact .trans (.step hs) (.pass (passes_wakeReaders _ s))
  | farRead s => exact .step (.far s fun _ => List.suffix_refl _)
  | farClose s =>
    have hs := Step.far (w := w) s (f := Stream.closeFar) fun _ => List.nil_suffix
    exact .trans (.step hs)
      (.pass ((passes_wakeReaders _ _).before (passes_wakeWriter _ _)))
  | look => exact .pass (passes_look w)

end Outside

variable {site : Site} {registry : Registry} {ids : Identifiers} {dialing : Dialing}

/-- Whatever users and far ends do with a network, it is reached in steps. -/
theorem InUse.reached (h : InUse (create site registry ids dialing) w) :
    ∃ log, Reached (create site registry ids dialing) log w :=
  (lasting_goes _).inUse (fun hg ht => hg.trans (goes_touch ht)) (.refl _) h [] sound_create

/-- **Outgoing octets are whole messages.** Whatever happens in a network, what is put on a stream,
by a connection or by an acceptor, is whole messages and at most a part of one more, none of them
too long, and after a write on a stream has failed nothing is put on it any more. What is put is all
that comes to wait for far ends; and whatever users and far ends do is done in such steps. -/
theorem puts_whole_messages (site : Site) (registry : Registry) (ids : Identifiers)
    (dialing : Dialing) :
    (∀ log w, Reached (create site registry ids dialing) log w →
      WritesWhole log ∧ ∀ ds w', w.Step ds w' → ∀ s,
        ∃ rest, rest <:+ w.outboundOf s ∧ w'.outboundOf s = rest ++ octetsOn s ds) ∧
    ∀ w, InUse (create site registry ids dialing) w →
      ∃ log, Reached (create site registry ids dialing) log w := by
  refine ⟨fun log w h => ⟨h.writesWhole, fun ds w' hs s => ?_⟩, fun w h => h.reached⟩
  have hw : Sound log w := by simpa using h.sound sound_create
  exact hs.outbound hw s

/-- A node has answered the CER on a stream and is open, and what it writes next takes too long. -/
theorem puts_whole_messages_cutShort :
    let site : Site := ⟨Node.plain "a", {}⟩
    let cer := ((Node.plain "b").cer {}).1
    let w₀ := create site {} {} .pending
    (∃ log ds v w, Reached w₀ log v ∧ v.Step ds w ∧ .quit 0 ∈ log ++ ds ∧
      octetsOn 0 (log ++ ds) = (site.node.cea cer .success).encode ++
        (site.node.dpr .rebooting {}).1.encode.take 10 ∧
      WritesWhole (log ++ ds) ∧
      ∃ rest, rest <:+ v.outboundOf 0 ∧ w.outboundOf 0 = rest ++ octetsOn 0 ds) ∧
    ∃ log, Reached w₀ log (w₀.acceptStream "s" { capacity := 16 }) := by
  intro site cer w₀
  have there : ∀ {α : Type} {o : Option α} (h : o.isSome), o = some (o.get h) :=
    fun h => (Option.some_get h).symm
  let st : Stream := { name := "s", capacity := 16, farReads := true }
  let first : Event := .acceptedCer 0 cer
  let w₁ := (({ w₀ with streams := w₀.streams.push st } : Network).spawn none first).2
  have hp : Passes [0] [] { w₀ with streams := w₀.streams.push st } w₁ :=
    passes_spawn none (show first.IsOpening from trivial) _
  have h₁ : Reached w₀ _ w₁ := Reached.begin.step (.begin (by rfl) hp)
  let m₁ := w₁.members[0]?.get (by decide +kernel)
  let w₂ := w₁.turn 0 { m₁ with conn := { m₁.conn with internal := [] } } (.event first)
  have h₂ : Reached w₀ _ w₂ := h₁.step
    (.own (l := []) (there (by decide +kernel)) ⟨by decide +kernel, rfl⟩ rfl
      (List.forall_mem_nil _))
  let m₂ := w₂.members[0]?.get (by decide +kernel)
  let x₂ := m₂.conn.writing.get (by decide +kernel)
  let w₃ := w₂.putNext 0 x₂.link.stream 1000 m₂.unwritten
  have h₃ : Reached w₀ _ w₃ := h₂.step
    (.put 1000 (there (by decide +kernel)) (there (by decide +kernel)))
  let m₃ := w₃.members[0]?.get (by decide +kernel)
  let w₄ := w₃.turn 0 m₃ (.written none)
  have h₄ : Reached w₀ _ w₄ := h₃.step
    (.written (there (by decide +kernel)) (there (by decide +kernel))
      (List.isEmpty_iff.mp (by decide +kernel)))
  let m₄ := w₄.members[0]?.get (by decide +kernel)
  let w₅ := w₄.turn 0 m₄ (.event (.stop 1 .rebooting))
  have h₅ : Reached w₀ _ w₅ := h₄.step
    (.queued (l := []) (there (by decide +kernel))
      ⟨by decide +kernel, Option.isNone_iff_eq_none.mp (by decide +kernel)⟩
      (List.isEmpty_iff.mp (by decide +kernel)) (.refl w₄) (List.forall_mem_nil _))
  let m₅ := w₅.members[0]?.get (by decide +kernel)
  let x₅ := m₅.conn.writing.get (by decide +kernel)
  let w₆ := w₅.putNext 0 x₅.link.stream 10 m₅.unwritten
  have h₆ : Reached w₀ _ w₆ := h₅.step
    (.put 10 (there (by decide +kernel)) (there (by decide +kernel)))
  let m₆ := w₆.members[0]?.get (by decide +kernel)
  let x₆ := m₆.conn.writing.get (by decide +kernel)
  let w₇ := w₆.turn 0 m₆ (.written (some .timeout))
  have last : w₆.Step _ w₇ :=
    .failed (x := x₆) .timeout (there (by decide +kernel)) (there (by decide +kernel))
  have all := puts_whole_messages site {} {} .pending
  have hs : x₆.link.stream = 0 := by decide +kernel
  exact ⟨⟨_, _, w₆, w₇, h₆, last, List.mem_append_right _ (hs ▸ List.mem_singleton_self _),
      by decide +kernel, (all.1 _ _ (h₆.step last)).1, (all.1 _ _ h₆).2 _ _ last 0⟩,
    all.2 _ (.acceptStream .begin "s" { capacity := 16 })⟩

end Network

end Diameter
