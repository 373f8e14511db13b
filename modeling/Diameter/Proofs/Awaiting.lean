import Diameter.Proofs.Detached

/-!
A connection that waits for the CER on an accepted stream.

As long as it waits nothing that befalls it leaves a trace on it: requests are refused, further
streams are closed, alarms do not matter. What does leave a trace ends the waiting, and it is not
taken up again. Main statement: `Connection.Run.awaits`.
-/

namespace Diameter

/-- A connection that waits for the CER on the stream that it has accepted. -/
def Connection.awaiting (stream : Nat) : Connection where
  phase := .waitCer
  attached := 1
  responder := some ⟨1, stream⟩

namespace Stage

/-- A CER has been taken in a phase, or it is too late for one. -/
def IsGreeted (p : Phase) : Stage → Prop
  | accepting source _ _ | rejecting source _ _ _ _ => source = p
  | running _ _ _ _ _ | shut _ _ => True
  | _ => False

variable {expected : Option String} {n : Nat} {s : Stage} {c : Connection}

lemma IsGreeted.leaves {p : Phase} (h : s.IsGreeted p) (hc : c.shape = s.shape expected n)
    (hp : c.phase = .waitCer) : c.writing ≠ none := by
  have hph : s.phase = .waitCer := (phase_of_shape hc).symm.trans hp
  rw [show c.writing = (s.shape expected n).writing from congrArg Shape.writing hc]
  cases s with
  | accepting | rejecting => simp [shape]
  | running closing side => cases closing <;> cases side <;> cases hph
  | shut => cases hph
  | _ => exact h.elim

end Stage

variable {site : Site} {expected : Option String} {bs : List Beat} {b : Beat} {c : Connection}
  {n n' : Nat} {s s' : Stage} {i : Input} {out : List Effect} {stream : Nat}

lemma Next.greeted {p : Phase} (h : Next site expected n s i out n' s') (hs : s.IsGreeted p) :
    s'.IsGreeted p := by
  cases h with
  | turnAway | turnAwayUnanswered =>
    rename Option Link => i
    cases i <;> exact hs.elim
  | stay | refuse => exact hs
  | _ => trivial

/-- Who waits for a CER is greeted, or goes on to wait. -/
lemma Next.awaits {r : Link} (h : Next site expected n (.awaitingCer r) i out n' s') :
    s' = .awaitingCer r ∨ s'.IsGreeted .waitCer := by
  generalize hs : Stage.awaitingCer r = s at h
  cases h with
  | turnAway | turnAwayUnanswered =>
    rename Option Link => i
    cases i <;> cases hs
  | stay | refuse => exact .inl rfl
  | acceptAwaited | rejectAwaited => exact .inr rfl
  | fall => exact .inr trivial
  | _ => cases hs

namespace Turn

variable {t : Turn}

/-- An event leaves a connection that waits for a CER as it is, or it waits no longer. -/
lemma handle_awaiting (ht : t.conn = Connection.awaiting stream) (e : Event) :
    (t.handle site e).conn = Connection.awaiting stream ∨
      (t.handle site e).conn.phase = .shutdown ∨ (t.handle site e).conn.writing.isSome := by
  have hp : t.conn.phase = .waitCer := by rw [ht]; rfl
  have left_alone {l : Nat} (he : e.link? = some l) (hl : t.conn.sideOf? l = none) :
      (t.handle site e).conn = Connection.awaiting stream :=
    (congrArg Turn.conn (handle_of_detached site he hl)).trans ht
  cases e with
  | received l m =>
    cases hl : t.conn.sideOf? l with
    | none => exact .inl (left_alone rfl hl)
    | some side => exact .inr (leaves_of_received hp hl)
  | receivedInvalid l k f =>
    cases hl : t.conn.sideOf? l with
    | none => exact .inl (left_alone rfl hl)
    | some side =>
      cases hr : k.isRequest with
      | true => exact .inr (leaves_of_receivedInvalid hp hl hr f)
      | false =>
        have ha : t.conn.activeSide? = none := by rw [ht]; rfl
        left
        simpa [handle, hl, onReceivedInvalid, hr, ha, hp] using ht
  | disconnected l f =>
    cases hl : t.conn.sideOf? l with
    | none => exact .inl (left_alone rfl hl)
    | some side =>
      refine .inr (.inl ?_)
      simp only [handle, hl, onDisconnected, hp]
      exact phase_giveUp site t _
  | stop waiter cause =>
    refine .inr (.inl ?_)
    simp only [handle, onStop, hp]
    exact phase_transition_shutdown site _
  | watchdogIdle generation =>
    left
    simpa [handle, onWatchdogIdle, hp, Phase.isOpen] using ht
  | _ =>
    obtain ⟨now, serial, ids, c, effects⟩ := t
    obtain rfl : c = Connection.awaiting stream := ht
    exact .inl rfl

end Turn

namespace Connection

/-- What has become of a connection that has accepted a stream: its first event is still at hand, or
it waits for the CER, and nothing has been written; or the CER or something else has ended the
waiting. -/
inductive Received (stream : Nat) (bs : List Beat) (c : Connection) : Prop
  | fresh (h : c = Connection.fresh none (.accepted stream)) (hq : bs.filterMap Beat.wrote = [])
  | awaiting (h : c = Connection.awaiting stream) (hq : bs.filterMap Beat.wrote = [])
  | greeted {n : Nat} {s : Stage} (hs : s.Sound) (hg : s.IsGreeted .waitCer) (hc : c.shape = s.shape none n)

lemma filterMap_wrote_concat (hq : bs.filterMap Beat.wrote = []) (m : Moment) (e : Event) :
    (bs ++ [Beat.mk c m (.event e)]).filterMap Beat.wrote = [] := by
  rw [List.filterMap_append, hq]
  rfl

lemma Received.turn (h : b.conn.Received stream bs) (ht : b.conn.Takes b.input) :
    (b.turn site).conn.Received stream (bs ++ [b]) := by
  obtain ⟨c, m, i⟩ := b
  cases h with
  | fresh h hq =>
    -- the stream is only handed over: its first event is the internal one
    obtain rfl : c = Connection.fresh none (.accepted stream) := h
    cases ht with
    | written hw => cases hw
    | internal _ hi =>
      obtain ⟨rfl, -⟩ := List.cons.inj hi
      exact .awaiting rfl (filterMap_wrote_concat hq m _)
    | queued _ hi => cases hi
  | awaiting h hq =>
    -- it awaits the CER: the next event is a queued one
    obtain rfl : c = Connection.awaiting stream := h
    cases ht with
    | written hw => cases hw
    | internal _ hi => cases hi
    | @queued e ha hi =>
      obtain ⟨out, n', s', hn, hs, -⟩ := (Takes.queued ha hi).follows
        (s := .awaitingCer ⟨1, stream⟩) (n := 1) rfl trivial m.now m.serial m.ids
      rcases hn.awaits with rfl | hg
      · -- the CER has not come, so the connection is what it was
        refine .awaiting ((Turn.handle_awaiting rfl e).resolve_right fun hl => ?_)
          (filterMap_wrote_concat hq m _)
        rcases hl with hp | hw
        · exact absurd (hp.symm.trans (congrArg Shape.phase hs)) (by simp [Stage.phase])
        · obtain ⟨w, hw⟩ := Option.isSome_iff_exists.mp hw
          exact absurd (hw.symm.trans (congrArg Shape.writing hs)) (by simp [Stage.shape])
      · -- the CER has come, and the script says what was handed on
        exact .greeted (hn.sound trivial) hg hs
  -- from there on the connection follows its script
  | @greeted n s hs hg hc =>
    obtain ⟨out, n', s', hn, hs', -⟩ := ht.follows hc hs m.now m.serial m.ids
    exact .greeted (hn.sound hs) (hn.greeted hg) hs'

/-- **A connection that still waits for its CER is as it was when it began to wait**, and it has
written nothing. -/
theorem Run.awaits (h : Run site (fresh none (.accepted stream)) bs c) (hp : c.phase = .waitCer)
    (hw : c.writing = none) : c = awaiting stream ∧ bs.filterMap Beat.wrote = [] := by
  have hr : c.Received stream bs := by
    clear hp hw
    induction h with
    | nil => exact .fresh rfl rfl
    | ring _ time ih =>
      cases ih with
      | fresh h hq => exact .fresh (by rw [h]; rfl) hq
      | awaiting h hq => exact .awaiting (by rw [h]; rfl) hq
      | greeted hs hg hc => exact .greeted hs hg hc
    | turn _ ht ih => exact ih.turn ht
  cases hr with
  | fresh h => rw [h] at hp; cases hp
  | awaiting h hq => exact ⟨h, hq⟩
  | greeted _ hg hc => exact absurd hw (hg.leaves hc hp)

end Connection

end Diameter
