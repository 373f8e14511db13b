import Diameter.Proofs.Pending

/-!
What may be done to the table of pending requests, one thing at a time.

A dealing removes the entries of one identifier, or all, or none. Those who wait there are told
something, or a new entry takes their place (`Pending.deal_eq`). So dealings about different
identifiers do not meddle with each other (`Pending.deal_deal`, `Pending.perm_deal_deal`).
-/

namespace Diameter

inductive Dealing where
  | enter (waiter : Nat) (request : Message) (now : Nat)
  | resolve (answer : Message)
  | expire (hopByHop : UInt32)
  | fail (hopByHop : UInt32) (result : ResultCode)
  | drain
  /-- Someone who waits goes away, of which the table learns nothing. -/
  | giveUp (waiter : Nat)
  deriving DecidableEq, Repr

namespace Dealing

/-- The identifier that a dealing is about. -/
def key? : Dealing → Option UInt32
  | enter _ request _ => some request.header.hopByHop
  | resolve answer => some answer.header.hopByHop
  | expire k | fail k _ => some k
  | drain | giveUp _ => none

/-- No entry of this identifier outlasts the dealing. -/
def removes (d : Dealing) (k : UInt32) : Bool := d == drain || d.key? == some k

/-- The entry that a dealing makes. -/
def makes? : Dealing → Option Exchange
  | enter waiter request now => some (.ofRequest waiter request now)
  | _ => none

/-- What the waiter of an entry that is removed is told; nothing if a new entry takes its place. -/
def completion? (n : Node) : Dealing → Exchange → Option Completion
  | enter .., _ | giveUp _, _ => none
  | resolve answer, x => some ⟨x.waiter, answer⟩
  | expire _, x | drain, x => some ⟨x.waiter, x.localAnswer n .unableToDeliver⟩
  | fail _ result, x => some ⟨x.waiter, x.localAnswer n result⟩

variable {d : Dealing} {k l : UInt32} {x : Exchange}

lemma removes_of_key? (h : d.key? = some l) (k : UInt32) : d.removes k = (k == l) := by
  have hd : (d == drain) = false := by
    rw [beq_eq_false_iff_ne]
    rintro rfl
    cases h
  rw [removes, hd, h, Bool.false_or, Bool.eq_iff_iff, beq_iff_eq, beq_iff_eq, Option.some.injEq]
  exact eq_comm

lemma key?_of_makes? (h : d.makes? = some x) : d.key? = some x.key := by
  cases d with
  | enter waiter request now =>
    obtain rfl := Option.some.inj h
    rfl
  | _ => cases h

end Dealing

/-- What a dealing comes to. -/
structure Clearing where
  /-- Entries that leave the table. -/
  taken : List Exchange
  told : List Completion
  left : Pending

namespace Pending

/-- At most one entry leaves, and its waiter is told. -/
def clear (p : Pending) : Option (Exchange × Completion × Pending) → Clearing
  | some (x, c, q) => ⟨[x], [c], q⟩
  | none => ⟨[], [], p⟩

def deal (n : Node) (p : Pending) : Dealing → Clearing
  | .enter waiter request now =>
    let (displaced, q) := p.insert (.ofRequest waiter request now)
    ⟨displaced.toList, [], q⟩
  | .resolve answer => p.clear (p.resolve answer).toOption
  | .expire k => p.clear (p.expire n k)
  | .fail k r => p.clear (p.fail n k r)
  | .drain => ⟨p.entries, p.drain n, {}⟩
  | .giveUp _ => ⟨[], [], p⟩

/-- What is removed is told, and what is made comes last. -/
def cleared (n : Node) (p : Pending) (d : Dealing) : Clearing where
  taken := p.entries.filter (d.removes ·.key)
  told := (p.entries.filter (d.removes ·.key)).filterMap (d.completion? n)
  left := ⟨p.entries.filter (!d.removes ·.key) ++ d.makes?.toList⟩

variable {n : Node} {p : Pending} {d e : Dealing} {k l : UInt32}

lemma filter_key (hn : p.keys.Nodup) (k : UInt32) :
    p.entries.filter (·.key == k) = (p.find? k).toList := by
  obtain ⟨xs⟩ := p
  show xs.filter _ = (xs.find? _).toList
  induction xs with
  | nil => rfl
  | cons x xs ih =>
    obtain ⟨hx, hn⟩ := List.nodup_cons.mp hn
    by_cases hk : x.key = k
    · have hf : xs.filter (·.key == k) = [] := by
        refine List.filter_eq_nil_iff.mpr fun y hy => ?_
        rw [beq_iff_eq, ← hk]
        exact fun he => hx (he ▸ List.mem_map_of_mem hy)
      simp [hk, hf]
    · simp [hk, ih hn]

lemma toOption_resolve (p : Pending) (a : Message) : (p.resolve a).toOption =
    (p.find? a.header.hopByHop).map fun x => (x, ⟨x.waiter, a⟩, p.erase a.header.hopByHop) := by
  simp only [resolve]
  cases p.find? a.header.hopByHop <;> rfl

lemma clear_eq (hn : p.keys.Nodup) (hk : d.key? = some k) {f : Exchange → Completion}
    (hf : d.completion? n = some ∘ f) (he : d.makes? = none) :
    p.clear ((p.find? k).map fun x => (x, f x, p.erase k)) = p.cleared n d := by
  have hl : p.clear ((p.find? k).map fun x => (x, f x, p.erase k)) =
      ⟨(p.find? k).toList, (p.find? k).toList.map f, p.erase k⟩ := by
    cases hx : p.find? k with
    | none => simp [clear, erase_of_find? hx]
    | some x => rfl
  rw [hl, cleared, hf, he, List.filterMap_eq_map]
  simp only [Dealing.removes_of_key? hk, filter_key hn]
  rw [Option.toList_none, List.append_nil]
  rfl

/-- **What a dealing does to the table.** -/
lemma deal_eq (hn : p.keys.Nodup) (d : Dealing) : p.deal n d = p.cleared n d := by
  cases d with
  | enter waiter request now =>
    have hk : (Dealing.enter waiter request now).key? = some request.header.hopByHop := rfl
    have ht : ∀ xs : List Exchange,
        xs.filterMap ((Dealing.enter waiter request now).completion? n) = [] := fun _ =>
      List.filterMap_eq_nil_iff.mpr fun _ _ => rfl
    simp only [cleared, Dealing.removes_of_key? hk, filter_key hn, ht]
    rfl
  | resolve a =>
    rw [deal, toOption_resolve]
    exact clear_eq hn rfl rfl rfl
  | expire k | fail k r => exact clear_eq hn rfl rfl rfl
  | drain =>
    have hr : ∀ k, Dealing.drain.removes k = true := fun _ => rfl
    have ht : p.drain n = p.entries.filterMap (Dealing.drain.completion? n) :=
      (congrFun List.filterMap_eq_map p.entries).symm
    simp [deal, cleared, hr, ht, Dealing.makes?]
  | giveUp w =>
    have hr : ∀ k, (Dealing.giveUp w).removes k = false := fun _ => rfl
    simp [deal, cleared, hr, Dealing.makes?]

lemma taken_deal (hn : p.keys.Nodup) (d : Dealing) :
    (p.deal n d).taken = p.entries.filter (d.removes ·.key) := by
  rw [deal_eq hn, cleared]

lemma told_deal (hn : p.keys.Nodup) (d : Dealing) :
    (p.deal n d).told = (p.deal n d).taken.filterMap (d.completion? n) := by
  rw [deal_eq hn, cleared]

lemma entries_deal (hn : p.keys.Nodup) (d : Dealing) : (p.deal n d).left.entries =
    p.entries.filter (!d.removes ·.key) ++ d.makes?.toList := by
  rw [deal_eq hn, cleared]

lemma mem_deal (hn : p.keys.Nodup) {x : Exchange} : x ∈ (p.deal n d).left.entries ↔
    (x ∈ p.entries ∧ d.removes x.key = false) ∨ d.makes? = some x := by
  rw [entries_deal hn, List.mem_append, List.mem_filter, Option.mem_toList, Bool.not_eq_true']

lemma nodup_keys_deal (hn : p.keys.Nodup) (d : Dealing) : (p.deal n d).left.keys.Nodup := by
  rw [keys, entries_deal hn, List.map_append, List.nodup_append]
  refine ⟨hn.sublist (List.filter_sublist.map _), ?_, ?_⟩
  · cases d.makes? <;> simp
  · intro k hk l hl
    obtain ⟨y, hy, rfl⟩ := List.mem_map.mp hk
    obtain ⟨x, hx, rfl⟩ := List.mem_map.mp hl
    have hd := Dealing.key?_of_makes? (Option.mem_toList.mp hx)
    have hr := (List.mem_filter.mp hy).2
    rw [Dealing.removes_of_key? hd] at hr
    simpa using hr

lemma waiters_told (hn : p.keys.Nodup) (d : Dealing) : (p.deal n d).told.map (·.waiter) =
    if d.makes?.isSome then [] else (p.deal n d).taken.map (·.waiter) := by
  have single (f : Exchange → Completion) (hf : d.completion? n = some ∘ f)
      (hw : ∀ x, (f x).waiter = x.waiter) :
      (p.deal n d).told.map (·.waiter) = (p.deal n d).taken.map (·.waiter) := by
    rw [told_deal hn, hf, List.filterMap_eq_map, List.map_map]
    exact List.map_congr_left fun x _ => hw x
  cases d with
  | resolve | expire | fail | drain => exact single _ rfl fun _ => rfl
  | enter => rfl
  | giveUp => rfl

lemma perm_waiters_deal (hn : p.keys.Nodup) (d : Dealing) :
    ((p.deal n d).taken.map (·.waiter) ++ (p.deal n d).left.waiters).Perm
      (p.waiters ++ (d.makes?.map (·.waiter)).toList) := by
  rw [taken_deal hn, waiters, entries_deal hn, List.map_append, ← List.append_assoc,
    ← List.map_append, Option.toList_map]
  exact ((List.filter_append_perm (d.removes ·.key) p.entries).map _).append_right _

/-! ### One identifier -/

/-- The entry of an identifier leaves the table, if there is one, and its waiter is told; no other
entry is touched. -/
inductive Takes (p : Pending) (k : UInt32) (f : Exchange → Message) :
    Option (Exchange × Completion × Pending) → Prop
  | found {x q} (hx : p.find? k = some x) (hk : q.find? k = none)
      (hl : ∀ l, l ≠ k → q.find? l = p.find? l) (hs : q.size + 1 = p.size) :
      Takes p k f (some (x, ⟨x.waiter, f x⟩, q))
  | missed (hx : p.find? k = none) : Takes p k f none

lemma takes (hn : p.keys.Nodup) (k : UInt32) (f : Exchange → Message) :
    p.Takes k f ((p.find? k).map fun x => (x, ⟨x.waiter, f x⟩, p.erase k)) := by
  cases hx : p.find? k with
  | none => exact .missed hx
  | some x =>
    exact .found hx find?_erase_self (fun l hl => find?_erase hl) (perm_erase hn hx).length_eq.symm

lemma takes_resolve (hn : p.keys.Nodup) (a : Message) :
    p.Takes a.header.hopByHop (fun _ => a) (p.resolve a).toOption := by
  rw [toOption_resolve]
  exact takes hn _ _

lemma resolve_eq_error {a : Message} (h : p.find? a.header.hopByHop = none) :
    p.resolve a = .error (.unknownAnswer a.header.hopByHop) := by
  simp only [resolve, h]

/-! ### Different identifiers -/

section Different

variable (hn : p.keys.Nodup) (hd : d.key? = some k) (he : e.key? = some l) (h : k ≠ l)

include hd he h

lemma removes_of_makes? {x : Exchange} (hx : x ∈ d.makes?.toList) : e.removes x.key = false := by
  have hk := Dealing.key?_of_makes? (Option.mem_toList.mp hx)
  obtain rfl := Option.some.inj (hd.symm.trans hk)
  rw [Dealing.removes_of_key? he]
  simpa using h

include hn

/-- What has become of another identifier makes no difference to a dealing. -/
lemma deal_deal : ((p.deal n d).left.deal n e).taken = (p.deal n e).taken ∧
    ((p.deal n d).left.deal n e).told = (p.deal n e).told := by
  have hx : d.makes?.toList.filter (e.removes ·.key) = [] :=
    List.filter_eq_nil_iff.mpr fun x hx => by simp [removes_of_makes? hd he h hx]
  have hf : (p.deal n d).left.entries.filter (e.removes ·.key) =
      p.entries.filter (e.removes ·.key) := by
    rw [entries_deal hn, List.filter_append, hx, List.append_nil, List.filter_filter]
    refine List.filter_congr fun x _ => ?_
    rw [Dealing.removes_of_key? hd, Dealing.removes_of_key? he]
    by_cases hx : x.key = l
    · simp [hx, h.symm]
    · simp [hx]
  have hn' := nodup_keys_deal (n := n) hn d
  rw [told_deal hn', told_deal hn, taken_deal hn', taken_deal hn, hf]
  exact ⟨rfl, rfl⟩

lemma entries_deal_deal : ((p.deal n d).left.deal n e).left.entries =
    (p.entries.filter (!d.removes ·.key)).filter (!e.removes ·.key) ++
      (d.makes?.toList ++ e.makes?.toList) := by
  have hx : d.makes?.toList.filter (!e.removes ·.key) = d.makes?.toList :=
    List.filter_eq_self.mpr fun x hx => by simp [removes_of_makes? hd he h hx]
  rw [entries_deal (nodup_keys_deal hn d), entries_deal hn, List.filter_append, hx,
    List.append_assoc]

/-- Which dealing comes first makes no difference to what is in the table. -/
lemma perm_deal_deal : ((p.deal n d).left.deal n e).left.entries.Perm
    ((p.deal n e).left.deal n d).left.entries := by
  rw [entries_deal_deal hn hd he h, entries_deal_deal hn he hd h.symm, List.filter_comm]
  exact List.perm_append_comm.append_left _

end Different

end Pending

end Diameter
