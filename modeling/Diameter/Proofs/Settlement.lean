import Diameter.Proofs.Pending
import Diameter.Proofs.PendingTurns

/-!
Who is answered in a turn, and with what.

A turn neither loses nor doubles a waiter, provided that no identifier is pending twice: those
who are answered and those who are pending afterwards are those who were pending before,
and whoever asked (`Trade.settles`). What they are answered with is an answer of this node, or the
one answer that was received (`Trade.delivers`).
-/

namespace Diameter

def Effect.completion? : Effect → Option Completion
  | .complete c => some c
  | _ => none

@[simp] lemma Effect.completion?_complete (c : Completion) :
    Effect.completion? (.complete c) = some c := rfl

@[simp] lemma Effect.completion?_abandon (w : Nat) : Effect.completion? (.abandon w) = none := rfl

@[simp] lemma Effect.completion?_note (n : Note) : Effect.completion? (.note n) = none := rfl

/-- Who is displaced, and gets no answer of the connection. -/
def Effect.abandoned? : Effect → Option Nat
  | .abandon waiter => some waiter
  | _ => none

@[simp] lemma Effect.abandoned?_complete (c : Completion) :
    Effect.abandoned? (.complete c) = none := rfl

@[simp] lemma Effect.abandoned?_abandon (w : Nat) : Effect.abandoned? (.abandon w) = some w := rfl

@[simp] lemma Effect.abandoned?_note (n : Note) : Effect.abandoned? (.note n) = none := rfl

/-- Who is answered in a turn, and with what. -/
def Beat.completions (site : Site) (b : Beat) : List Completion :=
  (b.turn site).effects.filterMap Effect.completion?

lemma Beat.completions_eq_ledger (site : Site) (b : Beat) :
    b.completions site = (b.turn site).ledger.filterMap Effect.completion? := by
  refine (Turn.filterMap_ledger _ fun e he => ?_).symm
  cases e with
  | complete => rfl
  | _ => exact absurd he (by simp [Effect.completion?])

/-- Who asks with an input for a request to be sent. -/
def Input.waiter? : Input → Option Nat
  | .event (.send j _) => some j
  | _ => none

lemma Input.waiter?_of_not_isSend {i : Input} (h : ¬ i.IsSend) : i.waiter? = none := by
  rcases i with e | _
  · cases e <;> first | rfl | exact absurd trivial h
  · rfl

variable {site : Site} {c : Connection} {i : Input} {l : List Effect} {p : Pending}
  {o : Option Header}

lemma filterMap_completion?_complete (cs : List Completion) :
    (cs.map Effect.complete).filterMap Effect.completion? = cs := by
  simp [Function.comp_def]

lemma filterMap_completion?_abandon (xs : List Exchange) :
    (xs.map fun y => Effect.abandon y.waiter).filterMap Effect.completion? = [] := by
  simp [Function.comp_def]

lemma filterMap_abandoned?_abandon (xs : List Exchange) :
    (xs.map fun y => Effect.abandon y.waiter).filterMap Effect.abandoned? =
      xs.map (·.waiter) := by
  simp [Function.comp_def]

lemma Pending.waiters_drain (p : Pending) (n : Node) :
    (((p.drain n).map Effect.complete).filterMap Effect.completion?).map (·.waiter) =
      p.waiters := by
  rw [filterMap_completion?_complete]
  simp [drain, waiters]

lemma Pending.perm_waiters_erase {k : UInt32} {x : Exchange} (hn : p.keys.Nodup)
    (hx : p.find? k = some x) : (x.waiter :: (p.erase k).waiters).Perm p.waiters := by
  have h := (perm_erase hn hx).map Exchange.waiter
  exact h.symm

lemma Pending.perm_waiters_insert (hn : p.keys.Nodup) (x : Exchange) :
    ((p.find? x.key).toList.map (·.waiter) ++ (p.insert x).2.waiters).Perm
      (p.waiters ++ [x.waiter]) := by
  have he : (p.insert x).2.waiters = (p.erase x.key).waiters ++ [x.waiter] := by
    simp [insert, waiters]
  rw [he, ← List.append_assoc]
  refine List.Perm.append_right _ ?_
  cases hx : p.find? x.key with
  | none =>
    rw [erase_of_find? hx]
    exact .refl _
  | some y => exact perm_waiters_erase hn hx

/-- **No waiter is lost or told twice.** Whoever was pending or asks is answered, displaced, or
pending afterwards. -/
theorem Trade.keeps (h : Trade site c i l p o) (hn : c.pending.keys.Nodup) :
    ((l.filterMap Effect.completion?).map (·.waiter) ++ l.filterMap Effect.abandoned? ++
      p.waiters).Perm (c.pending.waiters ++ i.waiter?.toList) ∧ p.keys.Nodup := by
  have completed : ∀ cs : List Completion,
      (cs.map Effect.complete).filterMap Effect.abandoned? = [] := by
    intro cs
    simp [Function.comp_def]
  cases h with
  | idle hi _ => exact ⟨by simp [Input.waiter?_of_not_isSend hi], hn⟩
  | drained hi =>
    rw [Pending.waiters_drain, completed, Input.waiter?_of_not_isSend hi]
    exact ⟨by simp [Pending.waiters], by simp [Pending.keys]⟩
  | @refused j m =>
    exact ⟨(List.perm_append_singleton j c.pending.waiters).symm, hn⟩
  | @entered j m now =>
    refine ⟨?_, Pending.nodup_keys_insert hn _⟩
    rw [filterMap_completion?_abandon, filterMap_abandoned?_abandon]
    exact Pending.perm_waiters_insert hn (.ofRequest j m now)
  | @lost j m now =>
    refine ⟨?_, by simp [Pending.keys]⟩
    rw [List.filterMap_append, List.filterMap_append, filterMap_completion?_abandon,
      filterMap_abandoned?_abandon, completed, List.nil_append, List.append_nil,
      Pending.waiters_drain, show Pending.waiters {} = [] from rfl, List.append_nil]
    exact List.perm_append_comm.trans (Pending.perm_waiters_insert hn (.ofRequest j m now))
  | sent => exact ⟨by simp [List.filterMap_cons, Input.waiter?], hn⟩
  | answered _ _ hx | timedOut hx =>
    refine ⟨?_, Pending.nodup_keys_erase hn _⟩
    simpa [List.filterMap_cons, Input.waiter?] using Pending.perm_waiters_erase hn hx
  | failed he hx =>
    refine ⟨?_, Pending.nodup_keys_erase hn _⟩
    simpa [List.filterMap_cons, Input.waiter?_of_not_isSend he] using
      Pending.perm_waiters_erase hn hx

lemma Trade.abandoned?_eq_nil (h : Trade site c i l p o)
    (hf : ∀ j m, i = .event (.send j m) → c.pending.find? m.header.hopByHop = none) :
    l.filterMap Effect.abandoned? = [] := by
  cases h with
  | @entered j m | @lost j m =>
    rw [hf j m rfl]
    simp [Function.comp_def]
  | drained => simp [Function.comp_def]
  | _ => simp [List.filterMap_cons]

/-- Where no identifier is asked for that is pending everyone is answered, or still pending. -/
lemma Trade.settles (h : Trade site c i l p o) (hn : c.pending.keys.Nodup)
    (hf : ∀ j m, i = .event (.send j m) → c.pending.find? m.header.hopByHop = none) :
    ((l.filterMap Effect.completion?).map (·.waiter) ++ p.waiters).Perm
      (c.pending.waiters ++ i.waiter?.toList) := by
  have hk := (h.keeps hn).1
  rwa [h.abandoned?_eq_nil hf, List.append_nil] at hk

lemma Trade.mem_entries (h : Trade site c i l p o) {x : Exchange} (hx : x ∈ p.entries) :
    x ∈ c.pending.entries ∨ ∃ j m now, i = .event (.send j m) ∧ x = .ofRequest j m now := by
  have erased : ∀ {k : UInt32}, x ∈ (c.pending.erase k).entries → x ∈ c.pending.entries :=
    fun h => List.mem_of_mem_filter h
  cases h with
  | idle | refused | sent => exact .inl hx
  | drained | lost => cases hx
  | @entered j m now =>
    rcases List.mem_append.mp hx with hx | hx
    · exact .inl (erased hx)
    · exact .inr ⟨j, m, now, rfl, List.mem_singleton.mp hx⟩
  | answered | failed | timedOut => exact .inl (erased hx)

/-- Everyone who is answered gets an answer of this node, or one gets the answer that was
received. -/
lemma Trade.delivers (h : Trade site c i l p o) :
    (∀ d ∈ l.filterMap Effect.completion?, ∃ x r, d = ⟨x.waiter, x.localAnswer site.node r⟩ ∧
      (x ∈ c.pending.entries ∨ ∃ j m now, i = .event (.send j m) ∧ x = .ofRequest j m now)) ∨
    ∃ link m x, i = .event (.received link m) ∧ c.activeLink?.map (·.id) = some link ∧
      m.header.isRequest = false ∧ x ∈ c.pending.entries ∧ x.key = m.header.hopByHop ∧
      l.filterMap Effect.completion? = [⟨x.waiter, m⟩] := by
  have drained : ∀ {q : Pending} {d : Completion},
      d ∈ ((q.drain site.node).map Effect.complete).filterMap Effect.completion? →
      ∃ x ∈ q.entries, d = ⟨x.waiter, x.localAnswer site.node .unableToDeliver⟩ := by
    intro q d hd
    rw [filterMap_completion?_complete] at hd
    obtain ⟨x, hx, rfl⟩ := List.mem_map.mp hd
    exact ⟨x, hx, rfl⟩
  cases h with
  | idle => exact .inl (by simp)
  | sent => exact .inl (by simp [List.filterMap_cons])
  | drained hi =>
    refine .inl fun d hd => ?_
    obtain ⟨x, hx, rfl⟩ := drained hd
    exact ⟨x, _, rfl, .inl hx⟩
  | @refused j m =>
    refine .inl fun d hd => ?_
    obtain rfl : d = ⟨j, site.node.answer m .unableToDeliver⟩ := by
      simpa [List.filterMap_cons] using hd
    exact ⟨.ofRequest j m 0, _, rfl, .inr ⟨j, m, 0, rfl, rfl⟩⟩
  | entered now =>
    refine .inl fun d hd => ?_
    rw [filterMap_completion?_abandon] at hd
    cases hd
  | @lost j m now =>
    refine .inl fun d hd => ?_
    rw [List.filterMap_append, filterMap_completion?_abandon, List.nil_append] at hd
    obtain ⟨x, hx, rfl⟩ := drained hd
    have he := @Trade.entered site c j m now
    exact ⟨x, _, rfl, he.mem_entries hx⟩
  | @answered link m x _ hl hm hx =>
    exact .inr ⟨link, m, x, rfl, hl, hm, Pending.mem_of_find? hx, Pending.key_of_find? hx,
      by simp [List.filterMap_cons]⟩
  | @failed _ _ x r _ _ hx | @timedOut _ x hx =>
    refine .inl fun d hd => ?_
    simp only [List.filterMap_cons, Effect.completion?_complete, Effect.completion?_note,
      List.filterMap_nil, List.mem_singleton] at hd
    exact ⟨x, _, hd, .inl (Pending.mem_of_find? hx)⟩

end Diameter
