import Mathlib.Data.List.Nodup
import Diameter.Alarm

/-!
Alarms that ring: which, and in which order.

Of the alarms in distinct slots those that are due ring, each once, in the order of their due times
and else of arming; the others stay armed. To ring what is due by a time, and then what is due by a
later one, is to ring at once what is due by the later (`ringAll_ringAll`).
-/

namespace Diameter

variable {σ ε : Type}

namespace Alarm

variable {a b : Alarm σ ε}

lemma before_iff : a.before b ↔ a.due < b.due ∨ a.due = b.due ∧ a.serial < b.serial := by
  simp [before]

lemma before_asymm (h : a.before b) : ¬ b.before a := by
  rw [before_iff] at h ⊢
  omega

lemma nodup_of_inOrder {as : List (Alarm σ ε)} (h : as.Pairwise (·.before ·)) : as.Nodup :=
  h.imp fun {a b} hab => by
    rintro rfl
    exact before_asymm hab hab

end Alarm

namespace Alarms

variable {s s' : Alarms σ ε} {a b : Alarm σ ε} {slot : σ} {time : Nat}

/-! ### The first alarm -/

/-- Of two alarms the one that rings first. -/
def earlier (best : Option (Alarm σ ε)) (a : Alarm σ ε) : Option (Alarm σ ε) :=
  match best with
  | none => some a
  | some b => if a.before b then some a else some b

lemma first?_eq_foldl (s : Alarms σ ε) : s.first? = s.armed.foldl earlier none := rfl

lemma foldl_earlier (as : List (Alarm σ ε)) (b : Alarm σ ε) :
    ∃ a ∈ b :: as, as.foldl earlier (some b) = some a ∧ ∀ x ∈ b :: as, ¬ x.before a := by
  induction as generalizing b with
  | nil =>
    refine ⟨b, List.mem_singleton_self b, rfl, fun x hx hb => ?_⟩
    obtain rfl := List.mem_singleton.mp hx
    exact Alarm.before_asymm hb hb
  | cons c as ih =>
    by_cases hc : c.before b
    · -- `c` takes the place of `b`
      obtain ⟨a, ha, he, hm⟩ := ih c
      refine ⟨a, List.mem_cons_of_mem _ ha, by simpa [earlier, hc] using he, fun x hx => ?_⟩
      rcases List.mem_cons.mp hx with rfl | hx
      · have hca := hm c List.mem_cons_self
        rw [Alarm.before_iff] at hca hc ⊢
        omega
      · exact hm x hx
    · -- `b` stays, and so does not ring after `c`
      obtain ⟨a, ha, he, hm⟩ := ih b
      have hba := hm b List.mem_cons_self
      refine ⟨a, ?_, by simpa [earlier, hc] using he, fun x hx => ?_⟩
      · rcases List.mem_cons.mp ha with rfl | ha
        · exact List.mem_cons_self
        · exact List.mem_cons_of_mem _ (List.mem_cons_of_mem _ ha)
      · rcases List.mem_cons.mp hx with rfl | hx
        · exact hba
        · rcases List.mem_cons.mp hx with rfl | hx
          · rw [Alarm.before_iff] at hba hc ⊢
            omega
          · exact hm x (List.mem_cons_of_mem _ hx)

lemma first?_eq_none : s.first? = none ↔ s.armed = [] := by
  rw [first?_eq_foldl]
  cases s.armed with
  | nil => exact iff_of_true rfl rfl
  | cons b as =>
    obtain ⟨a, -, he, -⟩ := foldl_earlier as b
    have hf : (b :: as).foldl earlier none = some a := he
    simp [hf]

lemma first?_eq_some (h : s.first? = some a) : a ∈ s.armed ∧ ∀ b ∈ s.armed, ¬ b.before a := by
  rw [first?_eq_foldl] at h
  cases hs : s.armed with
  | nil => simp [hs] at h
  | cons b as =>
    obtain ⟨c, hc, he, hm⟩ := foldl_earlier as b
    rw [hs] at h
    obtain rfl : a = c := Option.some.inj (h.symm.trans he)
    exact ⟨hc, hm⟩

variable [DecidableEq σ]

lemma ring?_eq_some (h : s.ring? time = some (a, s')) :
    a ∈ s.armed ∧ a.due ≤ time ∧ s' = s.cancel a.slot := by
  unfold ring? at h
  split at h
  · exact absurd h (by simp)
  · rename_i b hb
    split at h
    · rename_i hd
      obtain ⟨rfl, rfl⟩ : b = a ∧ s.cancel b.slot = s' := by simpa using h
      exact ⟨(first?_eq_some hb).1, hd, rfl⟩
    · exact absurd h (by simp)

lemma not_before_of_ring? (h : s.ring? time = some (a, s')) (hb : b ∈ s.armed) :
    ¬ b.before a := by
  unfold ring? at h
  split at h
  · exact absurd h (by simp)
  · rename_i c hc
    split at h
    · obtain ⟨rfl, -⟩ : c = a ∧ s.cancel c.slot = s' := by simpa using h
      exact (first?_eq_some hc).2 b hb
    · exact absurd h (by simp)

lemma ring?_eq_none : s.ring? time = none ↔ ∀ a ∈ s.armed, time < a.due := by
  unfold ring?
  split
  · rename_i hn
    simp [first?_eq_none.mp hn]
  · rename_i a ha
    obtain ⟨hm, hf⟩ := first?_eq_some ha
    split
    · rename_i hd
      simp only [reduceCtorEq, false_iff]
      exact fun hall => absurd (hall a hm) (by omega)
    · rename_i hd
      refine iff_of_true rfl fun b hb => ?_
      have hba := hf b hb
      rw [Alarm.before_iff] at hba
      omega

/-! ### Arming and cancelling -/

lemma sublist_cancel (s : Alarms σ ε) (slot : σ) : (s.cancel slot).armed.Sublist s.armed :=
  List.filter_sublist

lemma mem_cancel : a ∈ (s.cancel slot).armed ↔ a ∈ s.armed ∧ a.slot ≠ slot := by
  simp [cancel]

lemma mem_arm {due serial : Nat} {event : ε} : a ∈ (s.arm slot due serial event).armed ↔
    a ∈ s.armed ∧ a.slot ≠ slot ∨ a = ⟨slot, due, serial, event⟩ := by
  rw [arm, List.mem_append, List.mem_singleton, mem_cancel]

lemma nodup_arm (h : (s.armed.map (·.slot)).Nodup) (due serial : Nat) (event : ε) :
    ((s.arm slot due serial event).armed.map (·.slot)).Nodup := by
  have hc : ((s.cancel slot).armed.map (·.slot)).Nodup := h.sublist ((s.sublist_cancel slot).map _)
  rw [arm, List.map_append, List.nodup_append]
  refine ⟨hc, by simp, ?_⟩
  intro x hx y hy hxy
  obtain ⟨b, hb, rfl⟩ := List.mem_map.mp hx
  have hy' : y = slot := by simpa using hy
  exact (mem_cancel.mp hb).2 (hxy.trans hy')

lemma perm_cancel (h : (s.armed.map (·.slot)).Nodup) (ha : a ∈ s.armed) :
    s.armed.Perm (a :: (s.cancel a.slot).armed) := by
  obtain ⟨as, bs, hl⟩ := List.append_of_mem ha
  have hn : a.slot ∉ as.map (·.slot) ++ bs.map (·.slot) := by
    have hp : (s.armed.map (·.slot)).Perm (a.slot :: (as.map (·.slot) ++ bs.map (·.slot))) := by
      rw [hl, List.map_append, List.map_cons]
      exact List.perm_middle
    exact (List.nodup_cons.mp (hp.nodup h)).1
  have hf : (s.cancel a.slot).armed = as ++ bs := by
    rw [cancel, hl, List.filter_append, List.filter_cons_of_neg (by simp), ← List.filter_append,
      List.filter_eq_self]
    intro x hx
    have hm : x.slot ∈ as.map (·.slot) ++ bs.map (·.slot) := by
      rw [← List.map_append]
      exact List.mem_map_of_mem hx
    have hne : x.slot ≠ a.slot := fun he => hn (he ▸ hm)
    simpa using hne
  rw [hf, hl]
  exact List.perm_middle

/-! ### Everything that is due -/

lemma ringUpTo_armed (time n : Nat) (s : Alarms σ ε) :
    (∀ a ∈ (ringUpTo time n s).1, a ∈ s.armed) ∧ (ringUpTo time n s).2.armed.Sublist s.armed := by
  induction n generalizing s with
  | zero => exact ⟨List.forall_mem_nil _, .refl _⟩
  | succ n ih =>
    unfold ringUpTo
    split
    · exact ⟨List.forall_mem_nil _, .refl _⟩
    · rename_i a s' hr
      obtain ⟨ha, -, rfl⟩ := ring?_eq_some hr
      obtain ⟨hm, hs⟩ := ih (s.cancel a.slot)
      have hc := s.sublist_cancel a.slot
      refine ⟨fun b hb => ?_, hs.trans hc⟩
      rcases List.mem_cons.mp hb with rfl | hb
      · exact ha
      · exact hc.subset (hm b hb)

lemma mem_armed_of_mem_ringAll (h : a ∈ (s.ringAll time).1) : a ∈ s.armed :=
  (ringUpTo_armed time _ s).1 a h

lemma sublist_ringAll (s : Alarms σ ε) (time : Nat) :
    (s.ringAll time).2.armed.Sublist s.armed :=
  (ringUpTo_armed time _ s).2

/-- One alarm a slot, in the order of arming. -/
structure Orderly (s : Alarms σ ε) : Prop where
  nodup : (s.armed.map (·.slot)).Nodup
  inOrder : s.armed.Pairwise (·.serial < ·.serial)

namespace Orderly

omit [DecidableEq σ] in
lemma sublist (h : s.Orderly) (hs : s'.armed.Sublist s.armed) : s'.Orderly :=
  ⟨h.nodup.sublist (hs.map _), h.inOrder.sublist hs⟩

lemma cancel (h : s.Orderly) (slot : σ) : (s.cancel slot).Orderly :=
  h.sublist (s.sublist_cancel slot)

lemma arm (h : s.Orderly) {serial : Nat} (hs : ∀ a ∈ s.armed, a.serial < serial) (due : Nat)
    (event : ε) : (s.arm slot due serial event).Orderly where
  nodup := nodup_arm h.nodup due serial event
  inOrder := by
    rw [Alarms.arm, List.pairwise_append]
    refine ⟨(h.cancel slot).inOrder, List.pairwise_singleton _ _, fun a ha b hb => ?_⟩
    obtain rfl := List.mem_singleton.mp hb
    exact hs a (mem_cancel.mp ha).1

omit [DecidableEq σ] in
lemma eq_of_serial (h : s.Orderly) (ha : a ∈ s.armed) (hb : b ∈ s.armed)
    (he : a.serial = b.serial) : a = b := by
  have hn : (s.armed.map (·.serial)).Nodup :=
    List.pairwise_map.mpr (h.inOrder.imp fun hlt => Nat.ne_of_lt hlt)
  exact List.inj_on_of_nodup_map hn ha hb he

omit [DecidableEq σ] in
lemma eq_of_slot (h : s.Orderly) (ha : a ∈ s.armed) (hb : b ∈ s.armed) (he : a.slot = b.slot) :
    a = b :=
  List.inj_on_of_nodup_map h.nodup ha hb he

/-- With enough patience what is due rings, in order, and nothing else. -/
lemma ringUpTo (h : s.Orderly) {n : Nat} (hn : s.armed.length ≤ n) :
    (Alarms.ringUpTo time n s).2.armed = s.armed.filter (time < ·.due) ∧
      (Alarms.ringUpTo time n s).1.Perm (s.armed.filter (·.due ≤ time)) ∧
      (Alarms.ringUpTo time n s).1.Pairwise (·.before ·) := by
  induction n generalizing s with
  | zero =>
    have hs : s.armed = [] := List.eq_nil_of_length_eq_zero (Nat.le_zero.mp hn)
    simp [Alarms.ringUpTo, hs]
  | succ n ih =>
    unfold Alarms.ringUpTo
    split
    · -- nothing is due
      rename_i hr
      have hall := ring?_eq_none.mp hr
      refine ⟨?_, ?_, .nil⟩
      · exact (List.filter_eq_self.mpr fun a ha => by simpa using hall a ha).symm
      · have he : s.armed.filter (·.due ≤ time) = [] :=
          List.filter_eq_nil_iff.mpr fun a ha => by simpa using hall a ha
        rw [he]
    · rename_i a s' hr
      obtain ⟨ha, hd, rfl⟩ := ring?_eq_some hr
      have hp := perm_cancel h.nodup ha
      obtain ⟨hl, hq, ho⟩ := ih (h.cancel a.slot) (by
        have hlen := hp.length_eq
        rw [List.length_cons] at hlen
        omega)
      refine ⟨?_, ?_, ?_⟩
      · -- the alarm that rings is not among those that stay
        rw [hl, Alarms.cancel, List.filter_filter]
        refine List.filter_congr fun b hb => ?_
        have hne : time < b.due → b.slot ≠ a.slot := by
          intro hlt he
          obtain rfl := h.eq_of_slot hb ha he
          omega
        simpa using hne
      · -- it is among those that are due
        refine (hq.cons a).trans ?_
        have hf := (hp.filter (·.due ≤ time)).symm
        rwa [List.filter_cons_of_pos (by simpa using hd)] at hf
      · -- and it comes before all the others
        refine List.pairwise_cons.mpr ⟨fun b hb => ?_, ho⟩
        obtain ⟨hb, hs⟩ := mem_cancel.mp (List.mem_filter.mp (hq.subset hb)).1
        have hba := not_before_of_ring? hr hb
        have hne : b.serial ≠ a.serial := fun he => hs (h.eq_of_serial hb ha he ▸ rfl)
        rw [Alarm.before_iff] at hba ⊢
        omega

lemma armed_ringAll (h : s.Orderly) (time : Nat) :
    (s.ringAll time).2.armed = s.armed.filter (time < ·.due) :=
  (h.ringUpTo (Nat.le_refl _)).1

lemma perm_ringAll (h : s.Orderly) (time : Nat) :
    (s.ringAll time).1.Perm (s.armed.filter (·.due ≤ time)) :=
  (h.ringUpTo (Nat.le_refl _)).2.1

lemma inOrder_ringAll (h : s.Orderly) (time : Nat) :
    (s.ringAll time).1.Pairwise (·.before ·) :=
  (h.ringUpTo (Nat.le_refl _)).2.2

lemma mem_ringAll (h : s.Orderly) : a ∈ (s.ringAll time).1 ↔ a ∈ s.armed ∧ a.due ≤ time := by
  rw [(h.perm_ringAll time).mem_iff, List.mem_filter, decide_eq_true_iff]

lemma mem_armed_ringAll (h : s.Orderly) :
    a ∈ (s.ringAll time).2.armed ↔ a ∈ s.armed ∧ time < a.due := by
  rw [h.armed_ringAll, List.mem_filter, decide_eq_true_iff]

lemma ringAll (h : s.Orderly) (time : Nat) : (s.ringAll time).2.Orderly :=
  h.sublist (s.sublist_ringAll time)

/-- What is due by a time, and then what is due by a later one. -/
lemma ringAll_ringAll (h : s.Orderly) {t u : Nat} (htu : t ≤ u) :
    s.ringAll u =
      ((s.ringAll t).1 ++ ((s.ringAll t).2.ringAll u).1, ((s.ringAll t).2.ringAll u).2) := by
  have hr := h.ringAll t
  refine Prod.ext ?rung (congrArg Alarms.mk ?armed)
  case armed =>
    rw [h.armed_ringAll, hr.armed_ringAll, h.armed_ringAll, List.filter_filter]
    refine List.filter_congr fun a _ => ?_
    simp only [← Bool.decide_and, decide_eq_decide]
    omega
  case rung =>
    -- both are in order, and the same alarms are in order in one way only
    have ho : ((s.ringAll t).1 ++ ((s.ringAll t).2.ringAll u).1).Pairwise (·.before ·) := by
      refine List.pairwise_append.mpr ⟨h.inOrder_ringAll t, hr.inOrder_ringAll u, ?_⟩
      intro a ha b hb
      have hat := (h.mem_ringAll.mp ha).2
      have hbt := (h.mem_armed_ringAll.mp (hr.mem_ringAll.mp hb).1).2
      rw [Alarm.before_iff]
      omega
    have hm : (s.ringAll u).1.Perm ((s.ringAll t).1 ++ ((s.ringAll t).2.ringAll u).1) := by
      refine (List.perm_ext_iff_of_nodup (Alarm.nodup_of_inOrder (h.inOrder_ringAll u))
        (Alarm.nodup_of_inOrder ho)).mpr fun a => ?_
      rw [List.mem_append, h.mem_ringAll, h.mem_ringAll, hr.mem_ringAll, h.mem_armed_ringAll]
      by_cases ha : a ∈ s.armed
      · simp only [ha, true_and]
        omega
      · simp [ha]
    exact hm.eq_of_pairwise (fun a b _ _ hab hba => absurd hba (Alarm.before_asymm hab))
      (h.inOrder_ringAll u) ho

lemma filter_slot_ringAll (h : s.Orderly) (slot : σ) (time : Nat) :
    (s.ringAll time).1.filter (·.slot = slot) =
      (s.armed.filter (·.due ≤ time)).filter (·.slot = slot) := by
  have hp := (h.perm_ringAll time).filter (·.slot = slot)
  have ht (as : List (Alarm σ ε)) : as.Pairwise fun _ _ => True :=
    List.pairwise_of_forall fun _ _ => trivial
  refine hp.eq_of_pairwise (fun a b ha hb _ _ => ?_) (ht _) (ht _)
  obtain ⟨ha, has⟩ := List.mem_filter.mp ha
  obtain ⟨hb, hbs⟩ := List.mem_filter.mp hb
  exact h.eq_of_slot (h.mem_ringAll.mp ha).1 (List.mem_filter.mp hb).1
    ((of_decide_eq_true has).trans (of_decide_eq_true hbs).symm)

end Orderly

end Alarms

end Diameter
