import Mathlib.Tactic.Common
import Diameter.Capabilities

/-!
What can be wrong with a message has nothing to do with the connection it comes on.

A failure is foreign if it is not about an event that has no place in a phase, and remote if it is
not about the watchdog either. Reading AVPs, checking a message and a capabilities exchange fail
for remote causes only.
-/

namespace Diameter

lemma bind_eq_ok {ε α β : Type} {x : Except ε α} {f : α → Except ε β} {b : β} :
    x >>= f = .ok b ↔ ∃ a, x = .ok a ∧ f a = .ok b := by
  cases x <;> simp [bind, Except.bind]

lemma map_eq_ok {ε α β : Type} {x : Except ε α} {f : α → β} {b : β} :
    x.map f = .ok b ↔ ∃ a, x = .ok a ∧ f a = b := by
  cases x <;> simp [Except.map]

/-- Not about an event that has no place in a phase. -/
def Failure.IsForeign : Failure → Prop
  | .notAcceptable _ _ => False
  | _ => True

/-- About the far end, a stream or a message: neither about an event that has no place in a phase
nor about the watchdog. -/
def Failure.IsRemote : Failure → Prop
  | .notAcceptable _ _ | .watchdogExpired _ => False
  | _ => True

lemma Failure.IsRemote.isForeign {e : Failure} (h : e.IsRemote) : e.IsForeign := by
  cases e <;> first | exact trivial | exact h.elim

/-- Fails, if at all, in such a way. -/
def FailsAs {α : Type} (P : Failure → Prop) (x : Except Failure α) : Prop :=
  ∀ e, x = .error e → P e

namespace FailsAs

variable {α β : Type} {P : Failure → Prop} {x : Except Failure α}

lemma ok (a : α) : FailsAs P (.ok a) := by
  intro e h
  cases h

lemma error {e : Failure} (h : P e) : FailsAs P (.error e : Except Failure α) := by
  rintro _ ⟨⟩
  exact h

lemma bind {f : α → Except Failure β} (hx : FailsAs P x)
    (hf : ∀ a, x = .ok a → FailsAs P (f a)) : FailsAs P (x >>= f) := by
  cases x with
  | error e => exact fun d hd => hx d (by cases hd; rfl)
  | ok a => exact hf a rfl

lemma map_iff {f : α → β} : FailsAs P (x.map f) ↔ FailsAs P x := by
  cases x with
  | error e => exact ⟨fun h => error (h e rfl), fun h => error (h e rfl)⟩
  | ok a => exact ⟨fun _ => ok a, fun _ => ok (f a)⟩

lemma mapM {f : α → Except Failure β} {as : List α} (hf : ∀ a ∈ as, FailsAs P (f a)) :
    FailsAs P (as.mapM f) := by
  induction as with
  | nil => exact ok _
  | cons a as ih =>
    obtain ⟨ha, has⟩ := List.forall_mem_cons.mp hf
    rw [List.mapM_cons]
    exact ha.bind fun b _ => (ih has).bind fun bs _ => ok _

end FailsAs

/-- Fails for remote causes only. -/
def Remote {α : Type} (x : Except Failure α) : Prop := ∀ e, x = .error e → e.IsRemote

namespace Remote

variable {α β : Type}

lemma ok (a : α) : Remote (.ok a) := FailsAs.ok a

lemma error {e : Failure} (h : e.IsRemote) : Remote (.error e : Except Failure α) :=
  FailsAs.error h

lemma bind {x : Except Failure α} {f : α → Except Failure β} (hx : Remote x)
    (hf : ∀ a, Remote (f a)) : Remote (x >>= f) :=
  FailsAs.bind hx fun a _ => hf a

lemma map {x : Except Failure α} (hx : Remote x) (f : α → β) : Remote (x.map f) :=
  FailsAs.map_iff.mpr hx

lemma mapM {f : α → Except Failure β} (hf : ∀ a, Remote (f a)) (as : List α) :
    Remote (as.mapM f) :=
  FailsAs.mapM fun a _ => hf a

end Remote

/-! ### Reading AVPs -/

namespace Avp

variable (a : Avp)

lemma remote_asUnsigned32 : Remote a.asUnsigned32 := by
  unfold asUnsigned32
  split
  · exact .ok _
  · exact .error trivial

lemma remote_asText : Remote a.asText := by
  unfold asText
  split
  · exact .ok _
  · exact .error trivial

lemma remote_asIdentity : Remote a.asIdentity := by
  unfold asIdentity
  split
  · split
    · exact .ok _
    · exact .error trivial
  · exact .error trivial

lemma remote_asAddress : Remote a.asAddress := by
  unfold asAddress
  split
  · exact .error trivial
  · split
    · exact .error trivial
    · split
      · exact .error trivial
      · split
        · exact .ok _
        · exact .error trivial

lemma remote_decodeData (code : UInt32) (flags : UInt8) (vendor : Option UInt32)
    (length dataLength : Nat) (b : Octets) :
    Remote (decodeData code flags vendor length dataLength b) := by
  unfold decodeData
  dsimp only
  split
  · exact .error trivial
  · exact .ok _

lemma remote_decode (b : Octets) : Remote (decode b) := by
  unfold decode
  split
  · exact .error trivial
  · dsimp only
    split
    · split
      · exact .error trivial
      · exact remote_decodeData _ _ _ _ _ _
    · split
      · exact .error trivial
      · split
        · exact .error trivial
        · exact remote_decodeData _ _ _ _ _ _

lemma remote_decodeAll (b : Octets) : Remote (decodeAll b) := by
  fun_induction decodeAll b with
  | case1 => exact .ok _
  | case2 b _ e h => exact .error (remote_decode b e h)
  | case3 b _ a rest _ _ e h ih => exact .error (ih e h)
  | case4 => exact .ok _

end Avp

/-! ### Checking messages -/

lemma Header.eq_of_checkFlags_error {k : Header} {e : Failure} (h : k.checkFlags = .error e) :
    e = .invalidMessage .badHeaderBits := by
  by_cases hb : (if k.isRequest then k.isError else k.isRetransmit) = true
  · rw [checkFlags, if_pos hb] at h
    exact (Except.error.inj h).symm
  · rw [checkFlags, if_neg hb] at h
    exact absurd h (by simp)

lemma Header.remote_checkFlags (h : Header) : Remote h.checkFlags := by
  rintro e he
  obtain rfl := eq_of_checkFlags_error he
  trivial

lemma Message.remote_checkLength (m : Message) : Remote m.checkLength := by
  unfold checkLength
  split
  · exact .error trivial
  · exact .ok _

/-! ### Capabilities exchange -/

namespace Capabilities

variable (avps : List Avp)

lemma remote_required (code : UInt32) : Remote (required avps code) := by
  unfold required
  split
  · exact .ok _
  · exact .error trivial

lemma remote_optionalWord (code : UInt32) : Remote (optionalWord avps code) := by
  unfold optionalWord
  split
  · exact (Avp.remote_asUnsigned32 _).map _
  · exact .ok _

lemma remote_words (code : UInt32) : Remote (words avps code) :=
  .mapM Avp.remote_asUnsigned32 _

lemma remote_groupedApplication : Remote (groupedApplication avps) := by
  unfold groupedApplication
  refine (remote_required avps _).bind fun a => (Avp.remote_asUnsigned32 a).bind fun v => ?_
  split
  · exact (Avp.remote_asUnsigned32 _).bind fun _ => .ok _
  · split
    · exact (Avp.remote_asUnsigned32 _).bind fun _ => .ok _
    · exact .error trivial

lemma remote_applicationOf (a : Avp) : Remote (applicationOf a) := by
  unfold applicationOf
  split
  · exact .ok _
  · split
    · exact (Avp.remote_asUnsigned32 a).map _
    · split
      · exact (Avp.remote_asUnsigned32 a).map _
      · split
        · exact ((Avp.remote_decodeAll _).bind remote_groupedApplication).map _
        · exact .ok _

lemma remote_advertised : Remote (advertised avps) :=
  (Remote.mapM remote_applicationOf avps).map _

lemma remote_finish (host realm : String) (addresses : List Address) (vendor : UInt32)
    (product : String) : Remote (finish avps host realm addresses vendor product) :=
  (remote_optionalWord avps _).bind fun _ => (remote_words avps _).bind fun _ =>
    (remote_advertised avps).bind fun _ => (remote_optionalWord avps _).bind fun _ => .ok _

lemma remote_ofCer (cer : Message) : Remote (ofCer cer) := by
  unfold ofCer
  refine (remote_required _ _).bind fun a => (Avp.remote_asIdentity a).bind fun host => ?_
  refine (remote_required _ _).bind fun a => (Avp.remote_asIdentity a).bind fun realm => ?_
  refine (Remote.mapM Avp.remote_asAddress _).bind fun addresses => ?_
  have rest : Remote (do
      let vendor ← (← required cer.avps Avp.Code.vendorId).asUnsigned32
      let product ← (← required cer.avps Avp.Code.productName).asText
      finish cer.avps host realm addresses vendor product) := by
    refine (remote_required _ _).bind fun a => (Avp.remote_asUnsigned32 a).bind fun vendor => ?_
    refine (remote_required _ _).bind fun a => (Avp.remote_asText a).bind fun product => ?_
    exact remote_finish _ _ _ _ _ _
  split
  · exact .error trivial
  · exact rest

lemma remote_ofCea (cea : Message) : Remote (ofCea cea) := by
  unfold ofCea
  refine (remote_required _ _).bind fun a => (Avp.remote_asIdentity a).bind fun host => ?_
  refine (remote_required _ _).bind fun a => (Avp.remote_asIdentity a).bind fun realm => ?_
  exact (remote_optionalWord _ _).bind fun _ => remote_finish _ _ _ _ _ _

end Capabilities

lemma remote_negotiate (here there : List Application) : Remote (negotiate here there) := by
  have decided : ∀ common : List Application,
      Remote (if common = [] then .error (.invalidMessage .unsupportedApplication)
        else .ok common) := by
    intro common
    split
    · exact .error trivial
    · exact .ok _
  exact decided _

namespace Node

variable (n : Node)

lemma remote_identify (cer : Message) : Remote (n.identify cer) :=
  (Header.remote_checkFlags _).bind fun _ => (Capabilities.remote_ofCer cer).bind fun _ =>
    (remote_negotiate _ _).bind fun _ => .ok _

lemma remote_acceptCea (cea : Message) : Remote (n.acceptCea cea) := by
  unfold acceptCea
  split
  · exact .error trivial
  · split
    · exact .error trivial
    · exact (Capabilities.remote_ofCea cea).bind fun _ => (remote_negotiate _ _).bind fun _ =>
        .ok _

end Node

end Diameter
