import Mathlib.Data.List.Induction
import Mathlib.Data.Set.Card
import Diameter.Proofs.Dealings
import Diameter.Proofs.Speech

/-!
The table of pending requests through any history of dealings.

Whoever is entered is told something once, or is displaced, or waits (`Ledger.perm_entered`). Who
waits is told by the history alone: the newest entry of each identifier that nothing has removed
since (`Outstanding`). Main statement: `Ledger.ofDealings_accounts`.
-/

namespace Diameter

/-! ### History -/

/-- Everyone who was entered. -/
def entered (ds : List Dealing) : List Nat := ds.filterMap fun d => d.makes?.map (·.waiter)

/-- The entry was made, and nothing has removed its identifier since. -/
def Outstanding (ds : List Dealing) (x : Exchange) : Prop :=
  ∃ before d after, ds = before ++ d :: after ∧ d.makes? = some x ∧
    ∀ e ∈ after, e.removes x.key = false

/-- Another entry of the same identifier was made while someone waited. -/
def Displaced (ds : List Dealing) (waiter : Nat) : Prop :=
  ∃ before d after x y, ds = before ++ d :: after ∧ Outstanding before x ∧ x.waiter = waiter ∧
    d.makes? = some y ∧ y.key = x.key

/-- An answer of the node that stands for the answer to a request. -/
structure Message.StandsFor (a m : Message) (r : ResultCode) : Prop where
  replies : a.header.Replies m.header
  session : a.sessionId? = m.sessionId?
  result : a.resultCode? = some r.code
  marked : a.header.isError ↔ 3000 ≤ r.code ∧ r.code ≤ 3999

section History

variable {ds : List Dealing} {d : Dealing} {x : Exchange} {w : Nat}

lemma outstanding_concat : Outstanding (ds ++ [d]) x ↔
    (Outstanding ds x ∧ d.removes x.key = false) ∨ d.makes? = some x := by
  constructor
  · rintro ⟨before, e, after, hs, he, ha⟩
    rcases split_concat hs with ⟨rfl, rfl, rfl⟩ | ⟨es, rfl, rfl⟩
    · exact .inr he
    · exact .inl ⟨⟨before, e, es, rfl, he, fun c hc => ha c (by simp [hc])⟩, ha d (by simp)⟩
  · rintro (⟨⟨before, e, after, rfl, he, ha⟩, hd⟩ | hd)
    · refine ⟨before, e, after ++ [d], by simp, he, fun c hc => ?_⟩
      rcases List.mem_append.mp hc with hc | hc
      · exact ha c hc
      · exact List.mem_singleton.mp hc ▸ hd
    · exact ⟨ds, d, [], rfl, hd, by simp⟩

lemma displaced_concat : Displaced (ds ++ [d]) w ↔ Displaced ds w ∨
    ∃ x y, Outstanding ds x ∧ x.waiter = w ∧ d.makes? = some y ∧ y.key = x.key := by
  constructor
  · rintro ⟨before, e, after, x, y, hs, h⟩
    rcases split_concat hs with ⟨rfl, rfl, rfl⟩ | ⟨es, rfl, rfl⟩
    · exact .inr ⟨x, y, h⟩
    · exact .inl ⟨before, e, es, x, y, rfl, h⟩
  · rintro (⟨before, e, after, x, y, rfl, h⟩ | ⟨x, y, h⟩)
    · exact ⟨before, e, after ++ [d], x, y, by simp, h⟩
    · exact ⟨ds, d, [], x, y, rfl, h⟩

lemma Outstanding.enter (h : Outstanding ds x) :
    ∃ m now, .enter x.waiter m now ∈ ds ∧ x = .ofRequest x.waiter m now := by
  obtain ⟨before, d, after, rfl, hd, -⟩ := h
  cases d with
  | enter waiter m now =>
    obtain rfl := Option.some.inj hd
    exact ⟨m, now, by simp [Exchange.ofRequest], rfl⟩
  | _ => cases hd

end History

/-! ### An answer of the node -/

@[simp] lemma Header.isError_answer (h : Header) : h.answer.isError = false := by
  simp only [isError, answer]
  rw [mask_and (by decide)]
  rfl

lemma Node.isError_answerHeader (h : Header) (r : ResultCode) :
    (answerHeader h r).isError = ResultCode.isProtocolError r.code := by
  unfold answerHeader
  split
  · rename_i hp
    rw [Header.isError_setError, hp]
  · rename_i hp
    rw [Header.isError_answer, (Bool.not_eq_true _).mp hp]

lemma Node.answer_standsFor (n : Node) (m : Message) (r : ResultCode) :
    (n.answer m r).StandsFor m r where
  replies := answerHeader_replies m.header r
  session := by
    show Avp.find (m.sessionId?.toList ++ resultAvp r :: n.origin) Avp.Code.sessionId = _
    cases hs : m.sessionId? with
    | none => rfl
    | some a =>
      have hf : m.avps.find? (fun a => a.code == Avp.Code.sessionId && a.vendor.isNone) = some a :=
        hs
      have ha := List.find?_some hf
      exact List.find?_cons_of_pos ha
  result := (n.answer_answers m r).result
  marked := by
    show (answerHeader m.header r).isError ↔ _
    rw [isError_answerHeader, ResultCode.isProtocolError, Bool.and_eq_true_iff, decide_eq_true_iff,
      decide_eq_true_iff]

/-- What a dealing tells somebody who waits with a request. -/
inductive Dealing.Tells : Dealing → Message → Message → Prop
  | resolve {m a : Message} (h : a.header.hopByHop = m.header.hopByHop) : (resolve a).Tells m a
  | expire {m a : Message} (h : a.StandsFor m .unableToDeliver) :
    (expire m.header.hopByHop).Tells m a
  | fail {m a : Message} {r : ResultCode} (h : a.StandsFor m r) :
    (fail m.header.hopByHop r).Tells m a
  | drain {m a : Message} (h : a.StandsFor m .unableToDeliver) : drain.Tells m a

lemma Dealing.tells {n : Node} {d : Dealing} {w now : Nat} {m : Message} {c : Completion}
    (hr : d.removes m.header.hopByHop) (h : d.completion? n (.ofRequest w m now) = some c) :
    c.waiter = w ∧ d.Tells m c.message := by
  cases d with
  | enter | giveUp => cases h
  | resolve a =>
    obtain rfl := Option.some.inj h
    exact ⟨rfl, .resolve (by simpa [removes, key?] using hr)⟩
  | expire k =>
    obtain rfl := Option.some.inj h
    obtain rfl : k = m.header.hopByHop := by simpa [removes, key?] using hr
    exact ⟨rfl, .expire (n.answer_standsFor m .unableToDeliver)⟩
  | fail k r =>
    obtain rfl := Option.some.inj h
    obtain rfl : k = m.header.hopByHop := by simpa [removes, key?] using hr
    exact ⟨rfl, .fail (n.answer_standsFor m r)⟩
  | drain =>
    obtain rfl := Option.some.inj h
    exact ⟨rfl, .drain (n.answer_standsFor m .unableToDeliver)⟩

/-! ### The ledger -/

/-- A table of pending requests, and those who wait for the answers. -/
structure Ledger where
  pending : Pending := {}
  /-- Those who have gone away. -/
  gone : List Nat := []
  /-- Those whose entry was taken by a new one. -/
  displaced : List Nat := []
  told : List Completion := []
  /-- What was told to somebody who had not gone away. -/
  heard : List Completion := []

/-- Who goes away. -/
def Dealing.leaver? : Dealing → Option Nat
  | giveUp waiter => some waiter
  | _ => none

namespace Ledger

def after (n : Node) (l : Ledger) (d : Dealing) : Ledger where
  pending := (l.pending.deal n d).left
  gone := d.leaver?.toList ++ l.gone
  displaced := l.displaced ++
    if d.makes?.isSome then (l.pending.deal n d).taken.map (·.waiter) else []
  told := l.told ++ (l.pending.deal n d).told
  heard := l.heard ++ (l.pending.deal n d).told.filter (·.waiter ∉ l.gone)

/-- The ledger after these dealings, in order. -/
def ofDealings (n : Node) (ds : List Dealing) : Ledger := ds.foldl (after n) {}

variable {n : Node} {ds : List Dealing} {d : Dealing} {x : Exchange} {w : Nat}

lemma ofDealings_concat (n : Node) (ds : List Dealing) (d : Dealing) :
    ofDealings n (ds ++ [d]) = (ofDealings n ds).after n d := by
  simp [ofDealings]

lemma nodup_keys (n : Node) (ds : List Dealing) : (ofDealings n ds).pending.keys.Nodup := by
  induction ds using List.reverseRecOn with
  | nil => exact List.nodup_nil
  | append_singleton ds d ih =>
    rw [ofDealings_concat]
    exact Pending.nodup_keys_deal ih d

lemma mem_entries : x ∈ (ofDealings n ds).pending.entries ↔ Outstanding ds x := by
  induction ds using List.reverseRecOn with
  | nil => simp [ofDealings, Outstanding]
  | append_singleton ds d ih =>
    rw [ofDealings_concat, outstanding_concat, ← ih]
    exact Pending.mem_deal (nodup_keys n ds)

lemma mem_gone : w ∈ (ofDealings n ds).gone ↔ .giveUp w ∈ ds := by
  induction ds using List.reverseRecOn with
  | nil => simp [ofDealings]
  | append_singleton ds d ih =>
    rw [ofDealings_concat, List.mem_append, ← ih]
    cases d <;> simp [after, Dealing.leaver?, or_comm]

lemma mem_displaced : w ∈ (ofDealings n ds).displaced ↔ Displaced ds w := by
  induction ds using List.reverseRecOn with
  | nil => simp [ofDealings, Displaced]
  | append_singleton ds d ih =>
    rw [ofDealings_concat, displaced_concat, ← ih]
    rw [after, List.mem_append]
    refine or_congr_right ?_
    cases hd : d.makes? with
    | none => simp
    | some y =>
      rw [Option.isSome_some, if_pos rfl, Pending.taken_deal (nodup_keys n ds)]
      simp only [Dealing.removes_of_key? (Dealing.key?_of_makes? hd), List.mem_map,
        List.mem_filter, mem_entries, beq_iff_eq]
      constructor
      · rintro ⟨x, ⟨hx, hk⟩, rfl⟩
        exact ⟨x, y, hx, rfl, rfl, hk.symm⟩
      · rintro ⟨x, _, hx, rfl, hy, hk⟩
        obtain rfl := Option.some.inj hy
        exact ⟨x, ⟨hx, hk.symm⟩, rfl⟩

/-- Whoever was entered has been told once, or displaced, or waits. -/
lemma perm_entered (n : Node) (ds : List Dealing) :
    ((ofDealings n ds).told.map (·.waiter) ++ (ofDealings n ds).displaced ++
      (ofDealings n ds).pending.waiters).Perm (entered ds) := by
  induction ds using List.reverseRecOn with
  | nil => exact .refl _
  | append_singleton ds d ih =>
    have he : entered (ds ++ [d]) = entered ds ++ (d.makes?.map (·.waiter)).toList := by
      rw [entered, entered, List.filterMap_append]
      cases hd : d.makes? <;> simp [hd]
    have hw := Pending.waiters_told (n := n) (nodup_keys n ds) d
    have hp := Pending.perm_waiters_deal (n := n) (nodup_keys n ds) d
    rw [ofDealings_concat, he, List.perm_iff_count]
    intro w
    have hi := ih.count_eq w
    have hc := hp.count_eq w
    simp only [after, List.map_append, hw, List.count_append] at hi hc ⊢
    split <;> simp only [List.count_nil] <;> omega

lemma heard_sublist (n : Node) (ds : List Dealing) :
    (ofDealings n ds).heard.Sublist (ofDealings n ds).told := by
  induction ds using List.reverseRecOn with
  | nil => exact .refl _
  | append_singleton ds d ih =>
    rw [ofDealings_concat]
    exact ih.append List.filter_sublist

lemma heard_or_gone {c : Completion} (h : c ∈ (ofDealings n ds).told) :
    c ∈ (ofDealings n ds).heard ∨ .giveUp c.waiter ∈ ds := by
  induction ds using List.reverseRecOn with
  | nil => cases h
  | append_singleton ds d ih =>
    rw [ofDealings_concat] at h ⊢
    simp only [after, List.mem_append, List.mem_filter, decide_eq_true_eq, mem_gone] at h ⊢
    rcases h with h | h
    · rcases ih h with hh | hg
      · exact .inl (.inl hh)
      · exact .inr (.inl hg)
    · by_cases hg : .giveUp c.waiter ∈ ds
      · exact .inr (.inl hg)
      · exact .inl (.inr ⟨h, hg⟩)

lemma heard_iff (h : .giveUp w ∉ ds) : (∃ c ∈ (ofDealings n ds).heard, c.waiter = w) ↔
    ∃ c ∈ (ofDealings n ds).told, c.waiter = w := by
  constructor
  · rintro ⟨c, hc, rfl⟩
    exact ⟨c, (heard_sublist n ds).subset hc, rfl⟩
  · rintro ⟨c, hc, rfl⟩
    exact ⟨c, (heard_or_gone hc).resolve_right h, rfl⟩

lemma tells {c : Completion} (h : c ∈ (ofDealings n ds).told) : ∃ before d after m now,
    ds = before ++ d :: after ∧ .enter c.waiter m now ∈ before ∧
      Outstanding before (.ofRequest c.waiter m now) ∧ d.Tells m c.message := by
  induction ds using List.reverseRecOn with
  | nil => cases h
  | append_singleton ds d ih =>
    rw [ofDealings_concat] at h
    rcases List.mem_append.mp h with h | h
    · obtain ⟨before, e, after, m, now, rfl, ho⟩ := ih h
      exact ⟨before, e, after ++ [d], m, now, by simp, ho⟩
    · rw [Pending.told_deal (nodup_keys n ds), Pending.taken_deal (nodup_keys n ds)] at h
      obtain ⟨x, hx, hc⟩ := List.mem_filterMap.mp h
      obtain ⟨hx, hr⟩ := List.mem_filter.mp hx
      have ho := mem_entries.mp hx
      obtain ⟨m, now, he, hm⟩ := ho.enter
      generalize x.waiter = w at he hm
      subst hm
      obtain ⟨rfl, ht⟩ := Dealing.tells hr hc
      exact ⟨ds, d, [], m, now, rfl, he, ho, ht⟩

lemma size_eq (n : Node) (ds : List Dealing) :
    (ofDealings n ds).pending.size = {x | Outstanding ds x}.ncard := by
  let xs := (ofDealings n ds).pending.entries
  have hs : {x | Outstanding ds x} = (xs.toFinset : Set Exchange) := by
    ext x
    rw [List.coe_toFinset, Set.mem_ofPred_eq, Set.mem_ofPred_eq, mem_entries]
  rw [hs, Set.ncard_coe_finset, List.toFinset_card_of_nodup (.of_map _ (nodup_keys n ds))]
  rfl

lemma told_iff (h : (entered ds).Nodup) (hw : w ∈ entered ds)
    (hl : w ∉ (ofDealings n ds).pending.waiters) :
    (∃ c ∈ (ofDealings n ds).told, c.waiter = w) ↔ ¬Displaced ds w := by
  have hp := perm_entered n ds
  have ht := (hp.nodup_iff.mpr h).of_append_left
  have hm := hp.mem_iff.mpr hw
  rw [List.mem_append, List.mem_append] at hm
  rw [← mem_displaced (n := n), ← List.mem_map]
  exact ⟨fun hc hd => List.disjoint_of_nodup_append ht hc hd,
    (hm.resolve_right hl).resolve_right⟩

/-- What the ledger says of the history and of what may be done next. -/
structure Accounts (n : Node) (ds : List Dealing) (l : Ledger) : Prop where
  /-- Nobody is told more than one message. -/
  once : (l.told.map (·.waiter)).Nodup
  hears : l.heard.Sublist l.told
  /-- The table is what is outstanding, and no identifier is there twice. -/
  outstanding : ∀ x, x ∈ l.pending.entries ↔ Outstanding ds x
  distinct : l.pending.keys.Nodup
  size : l.pending.size = {x | Outstanding ds x}.ncard
  /-- Whoever has left, and not gone away, has heard a message or been displaced. -/
  leaves : ∀ w ∈ entered ds, .giveUp w ∉ ds → w ∉ l.pending.waiters →
    Xor (∃ c ∈ l.heard, c.waiter = w) (Displaced ds w)
  /-- Whoever is told something was outstanding then, and it goes with the request. -/
  tells : ∀ c ∈ l.told, ∃ before d after m now, ds = before ++ d :: after ∧
    .enter c.waiter m now ∈ before ∧ Outstanding before (.ofRequest c.waiter m now) ∧
    d.Tells m c.message
  resolves : ∀ a, l.pending.Takes a.header.hopByHop (fun _ => a) (l.pending.resolve a).toOption
  /-- An answer that nobody waits for is refused by name. -/
  refuses : ∀ a, l.pending.find? a.header.hopByHop = none →
    l.pending.resolve a = .error (.unknownAnswer a.header.hopByHop)
  expires : ∀ k, l.pending.Takes k (·.localAnswer n .unableToDeliver) (l.pending.expire n k)
  fails : ∀ k r, l.pending.Takes k (·.localAnswer n r) (l.pending.fail n k r)
  /-- Draining tells everybody who waits, and leaves nothing. -/
  drains : (l.pending.drain n).map (·.waiter) = l.pending.waiters ∧
    (l.pending.drain n).length = l.pending.size ∧ (l.after n .drain).pending.size = 0
  /-- Different identifiers do not meddle with each other. -/
  commutes : ∀ d e j k, d.key? = some j → e.key? = some k → j ≠ k →
    ((l.pending.deal n d).left.deal n e).taken = (l.pending.deal n e).taken ∧
    ((l.pending.deal n d).left.deal n e).told = (l.pending.deal n e).told ∧
    ((l.pending.deal n d).left.deal n e).left.entries.Perm
      ((l.pending.deal n e).left.deal n d).left.entries

/-- **The table accounts for everybody who was entered.** Provided that nobody is entered twice. -/
theorem ofDealings_accounts (n : Node) (ds : List Dealing) (h : (entered ds).Nodup) :
    (ofDealings n ds).Accounts n ds := by
  have hn := nodup_keys n ds
  refine
    { once := ((perm_entered n ds).nodup_iff.mpr h).of_append_left.of_append_left
      hears := heard_sublist n ds
      outstanding := fun x => mem_entries
      distinct := hn
      size := size_eq n ds
      leaves := fun w hw hg hl => ?leaves
      tells := fun c hc => tells hc
      resolves := Pending.takes_resolve hn
      refuses := fun a ha => Pending.resolve_eq_error ha
      expires := fun k => Pending.takes hn k _
      fails := fun k r => Pending.takes hn k _
      drains := ⟨List.map_map, List.length_map _, rfl⟩
      commutes := fun d e j k hj hk hjk => ?commutes }
  case leaves => rw [xor_iff_iff_not, heard_iff hg, told_iff h hw hl]
  case commutes =>
    obtain ⟨ht, hl⟩ := Pending.deal_deal (n := n) hn hj hk hjk
    exact ⟨ht, hl, Pending.perm_deal_deal hn hj hk hjk⟩

/-- Identifier 5 is entered three times: 0 is displaced, 1 gets an answer, 4 waits. The failure of
identifier 6 comes after 2 has gone away. -/
theorem ofDealings_accounts_reentered :
    let n := Node.plain "here"
    let request (k : UInt32) : Message := ⟨{ Header.request 272 4 with hopByHop := k }, []⟩
    let ds : List Dealing := [.enter 0 (request 5) 0, .enter 1 (request 5) 10,
      .enter 2 (request 6) 20, .enter 3 (request 7) 30, .giveUp 2, .resolve (request 5).answer,
      .fail 6 .invalidAvpLength, .enter 4 (request 5) 40, .expire 6]
    (entered ds).Nodup ∧ (ofDealings n ds).Accounts n ds ∧
      (ofDealings n ds).heard.map (·.waiter) = [1] ∧
      (ofDealings n ds).told.map (·.waiter) = [1, 2] ∧
      (ofDealings n ds).displaced = [0] ∧ (ofDealings n ds).pending.waiters = [3, 4] := by
  intro n request ds
  have h : (entered ds).Nodup := by decide
  exact ⟨h, ofDealings_accounts n ds h, by decide +kernel, by decide +kernel, by decide +kernel,
    by decide +kernel⟩

end Ledger

end Diameter
