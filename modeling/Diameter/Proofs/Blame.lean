import Diameter.Proofs.Foreign
import Diameter.Proofs.Introduction
import Diameter.Proofs.Negotiation
import Diameter.Proofs.Run

/-!
What a capabilities-exchange request is rejected for.

The AVPs of a request are searched at its top level and within the groups that tell of
applications. A request that is rejected for an AVP has a cause (`Capabilities.Cause`): in one of
those places an AVP is missing, or cannot be read as what it has to be. The answer reports the first
AVP of the code that stands at the top level, whatever its vendor, which need not be the cause.
Main statement: `Node.answerCer_blames`.
-/

namespace Diameter

/-- The AVP is one of a list, of a code and of no vendor. -/
structure Avp.Among (a : Avp) (as : List Avp) (code : UInt32) : Prop where
  mem : a ∈ as
  code : a.code = code
  vendor : a.vendor = none

namespace Avp

variable {a : Avp} {as : List Avp} {code : UInt32}

lemma among_iff : a.Among as code ↔ a ∈ as ∧ hasCode code a := by
  simp only [hasCode, Bool.and_eq_true, beq_iff_eq, Option.isNone_iff_eq_none]
  exact ⟨fun h => ⟨h.mem, h.code, h.vendor⟩, fun h => ⟨h.1, h.2.1, h.2.2⟩⟩

lemma among_of_find (h : find as code = some a) : a.Among as code :=
  among_iff.mpr ⟨List.mem_of_find?_eq_some h, List.find?_some h⟩

lemma among_of_findAll (h : a ∈ findAll as code) : a.Among as code :=
  among_iff.mpr (List.mem_filter.mp h)

lemma find_of_findAll (h : findAll as code = []) : find as code = none :=
  List.find?_eq_none.mpr (List.filter_eq_nil_iff.mp h)

@[simp] lemma code_mandatory (code : UInt32) (v : Value) : (mandatory code v).code = code := rfl

@[simp] lemma code_optional (code : UInt32) (v : Value) : (optional code v).code = code := rfl

/-- A failure that is about the data of an AVP of the code. -/
def IsBad (code : UInt32) (e : Failure) : Prop := ∃ fault ≠ .missing, e = .invalidAvp code fault

lemma isBad_badLength : IsBad code (.invalidAvp code .badLength) := ⟨_, by simp, rfl⟩

lemma isBad_badValue : IsBad code (.invalidAvp code .badValue) := ⟨_, by simp, rfl⟩

lemma isBad_asUnsigned32 (a : Avp) : FailsAs (IsBad a.code) a.asUnsigned32 := by
  unfold asUnsigned32
  split
  · exact .ok _
  · exact .error isBad_badLength

lemma isBad_asText (a : Avp) : FailsAs (IsBad a.code) a.asText := by
  unfold asText
  split
  · exact .ok _
  · exact .error isBad_badValue

lemma isBad_asIdentity (a : Avp) : FailsAs (IsBad a.code) a.asIdentity := by
  unfold asIdentity
  split
  · split
    · exact .ok _
    · exact .error isBad_badValue
  · exact .error isBad_badValue

lemma isBad_asAddress (a : Avp) : FailsAs (IsBad a.code) a.asAddress := by
  unfold asAddress
  split
  · exact .error isBad_badLength
  · split
    · exact .error isBad_badValue
    · split
      · exact .error isBad_badLength
      · split
        · exact .ok _
        · exact .error isBad_badLength

end Avp

namespace Capabilities

/-- What the AVPs of a capabilities exchange are read as, but for groups. -/
def kind? (code : UInt32) : Option Avp.Kind :=
  [(Avp.Code.originHost, .diameterIdentity), (Avp.Code.originRealm, .diameterIdentity),
    (Avp.Code.hostIpAddress, .address), (Avp.Code.vendorId, .unsigned32),
    (Avp.Code.productName, .utf8String), (Avp.Code.originStateId, .unsigned32),
    (Avp.Code.supportedVendorId, .unsigned32), (Avp.Code.authApplicationId, .unsigned32),
    (Avp.Code.acctApplicationId, .unsigned32),
    (Avp.Code.firmwareRevision, Avp.Kind.unsigned32)].lookup code

/-- Where AVPs are searched for: at the top level and in groups that tell of an application. -/
inductive Searched (avps : List Avp) : List Avp → Prop
  | top : Searched avps avps
  | group {a : Avp} {as} (ha : a.Among avps Avp.Code.vendorSpecificApplicationId)
    (hg : a.asGrouped = .ok as) : Searched avps as

/-- Every group that tells of an application is made of AVPs. -/
def Splits (avps : List Avp) : Prop :=
  ∀ a : Avp, a.Among avps Avp.Code.vendorSpecificApplicationId → ∃ as, a.asGrouped = .ok as

/-- Why there is a fault with a code in a place: no AVP of that code is there, or one that is there
cannot be read as what it has to be. -/
inductive Cause (place : List Avp) (code : UInt32) : AvpFault → Option Avp → Prop
  | missing (h : Avp.find place code = none) : Cause place code .missing none
  | bad {a k fault} (ha : a.Among place code) (hk : kind? code = some k) (hf : fault ≠ .missing)
    (he : a.value k = .error (.invalidAvp code fault)) : Cause place code fault (some a)

/-- A failure about an AVP has a cause where AVPs are searched for. -/
def Blamed (avps : List Avp) : Failure → Prop
  | .invalidAvp code fault => ∃ place cause, Searched avps place ∧ Cause place code fault cause
  | _ => True

variable {avps place : List Avp}

lemma blamed_missing {code : UInt32} (hs : Searched avps place) (h : Avp.find place code = none) :
    Blamed avps (.invalidAvp code .missing) := ⟨place, none, hs, .missing h⟩

lemma blamed_required (hs : Searched avps place) (code : UInt32) :
    FailsAs (Blamed avps) (required place code) := by
  unfold required
  split
  · exact .ok _
  · rename_i h
    exact .error (blamed_missing hs h)

lemma among_of_required {a : Avp} {code : UInt32} (h : required place code = .ok a) :
    a.Among place code := by
  unfold required at h
  split at h
  · rename_i b hb
    obtain rfl := Except.ok.inj h
    exact Avp.among_of_find hb
  · exact absurd h (by simp)

section Reading

variable {a : Avp} {code : UInt32} {k : Avp.Kind}

lemma blamed_value (hs : Searched avps place) (ha : a.Among place code) (hk : kind? code = some k)
    (hb : FailsAs (Avp.IsBad a.code) (a.value k)) : FailsAs (Blamed avps) (a.value k) := by
  intro e he
  obtain ⟨fault, hf, rfl⟩ := hb e he
  rw [ha.code] at he ⊢
  exact ⟨place, some a, hs, .bad ha hk hf he⟩

lemma blamed_asUnsigned32 (hs : Searched avps place) (ha : a.Among place code)
    (hk : kind? code = some .unsigned32) : FailsAs (Blamed avps) a.asUnsigned32 :=
  FailsAs.map_iff.mp (blamed_value hs ha hk (FailsAs.map_iff.mpr a.isBad_asUnsigned32))

lemma blamed_asText (hs : Searched avps place) (ha : a.Among place code)
    (hk : kind? code = some .utf8String) : FailsAs (Blamed avps) a.asText :=
  FailsAs.map_iff.mp (blamed_value hs ha hk (FailsAs.map_iff.mpr a.isBad_asText))

lemma blamed_asIdentity (hs : Searched avps place) (ha : a.Among place code)
    (hk : kind? code = some .diameterIdentity) : FailsAs (Blamed avps) a.asIdentity :=
  FailsAs.map_iff.mp (blamed_value hs ha hk (FailsAs.map_iff.mpr a.isBad_asIdentity))

lemma blamed_asAddress (hs : Searched avps place) (ha : a.Among place code)
    (hk : kind? code = some .address) : FailsAs (Blamed avps) a.asAddress :=
  FailsAs.map_iff.mp (blamed_value hs ha hk (FailsAs.map_iff.mpr a.isBad_asAddress))

end Reading

/-! ### The searches of a request -/

lemma blamed_optionalWord {code : UInt32} (hk : kind? code = some .unsigned32) :
    FailsAs (Blamed avps) (optionalWord avps code) := by
  unfold optionalWord
  split
  · rename_i a ha
    exact FailsAs.map_iff.mpr (blamed_asUnsigned32 .top (Avp.among_of_find ha) hk)
  · exact .ok _

lemma blamed_words {code : UInt32} (hk : kind? code = some .unsigned32) :
    FailsAs (Blamed avps) (words avps code) :=
  .mapM fun _ ha => blamed_asUnsigned32 .top (Avp.among_of_findAll ha) hk

lemma blamed_groupedApplication (hs : Searched avps place) :
    FailsAs (Blamed avps) (groupedApplication place) := by
  unfold groupedApplication
  refine (blamed_required hs _).bind fun a ha => ?_
  refine (blamed_asUnsigned32 hs (among_of_required ha) rfl).bind fun vendor _ => ?_
  split
  · rename_i b hb
    exact (blamed_asUnsigned32 hs (Avp.among_of_find hb) rfl).bind fun _ _ => .ok _
  · rename_i hn
    split
    · rename_i b hb
      exact (blamed_asUnsigned32 hs (Avp.among_of_find hb) rfl).bind fun _ _ => .ok _
    · exact .error (blamed_missing hs hn)

lemma blamed_applicationOf (hg : Splits avps) {a : Avp} (ha : a ∈ avps) :
    FailsAs (Blamed avps) (applicationOf a) := by
  unfold applicationOf
  split
  · exact .ok _
  rename_i hv
  have hv : a.vendor = none := by simpa using hv
  split
  · rename_i hc
    exact FailsAs.map_iff.mpr (blamed_asUnsigned32 .top ⟨ha, hc, hv⟩ rfl)
  split
  · rename_i hc
    exact FailsAs.map_iff.mpr (blamed_asUnsigned32 .top ⟨ha, hc, hv⟩ rfl)
  split
  · rename_i hc
    obtain ⟨as, has⟩ := hg a ⟨ha, hc, hv⟩
    rw [has]
    exact FailsAs.map_iff.mpr (blamed_groupedApplication (.group ⟨ha, hc, hv⟩ has))
  · exact .ok _

lemma blamed_finish (hg : Splits avps) (host realm : String) (addresses : List Address)
    (vendor : UInt32) (product : String) :
    FailsAs (Blamed avps) (finish avps host realm addresses vendor product) := by
  have applications : FailsAs (Blamed avps) (advertised avps) :=
    FailsAs.map_iff.mpr (.mapM fun _ ha => blamed_applicationOf hg ha)
  exact (blamed_optionalWord rfl).bind fun _ _ => (blamed_words rfl).bind fun _ _ =>
    applications.bind fun _ _ => (blamed_optionalWord rfl).bind fun _ _ => .ok _

lemma eq_nil_of_mapM {α β : Type} {f : α → Except Failure β} {as : List α}
    (h : as.mapM f = .ok []) : as = [] := by
  cases as with
  | nil => rfl
  | cons a as =>
    rw [List.mapM_cons] at h
    obtain ⟨b, -, h⟩ := bind_eq_ok.mp h
    obtain ⟨bs, -, h⟩ := bind_eq_ok.mp h
    cases h

/-- A request that does not say what it has to is to blame for it. -/
theorem blamed_ofCer {cer : Message} (hg : Splits cer.avps) :
    FailsAs (Blamed cer.avps) (ofCer cer) := by
  unfold ofCer
  refine (blamed_required .top _).bind fun a ha => ?_
  refine (blamed_asIdentity .top (among_of_required ha) rfl).bind fun host _ => ?_
  refine (blamed_required .top _).bind fun a ha => ?_
  refine (blamed_asIdentity .top (among_of_required ha) rfl).bind fun realm _ => ?_
  refine FailsAs.bind (.mapM fun a ha =>
    blamed_asAddress .top (Avp.among_of_findAll ha) rfl) fun addresses hx => ?_
  have rest : FailsAs (Blamed cer.avps) (do
      let vendor ← (← required cer.avps Avp.Code.vendorId).asUnsigned32
      let product ← (← required cer.avps Avp.Code.productName).asText
      finish cer.avps host realm addresses vendor product) := by
    refine (blamed_required .top _).bind fun a ha => ?_
    refine (blamed_asUnsigned32 .top (among_of_required ha) rfl).bind fun vendor _ => ?_
    refine (blamed_required .top _).bind fun a ha => ?_
    refine (blamed_asText .top (among_of_required ha) rfl).bind fun product _ => ?_
    exact blamed_finish hg _ _ _ _ _
  split
  · rename_i hn
    rw [hn] at hx
    exact .error (blamed_missing .top (Avp.find_of_findAll (eq_nil_of_mapM hx)))
  · exact rest

end Capabilities

/-! ### The answer -/

namespace Node

variable {n : Node} {cer cea : Message} {code : UInt32} {fault : AvpFault}

lemma blamed_identify (hg : Capabilities.Splits cer.avps) :
    FailsAs (Capabilities.Blamed cer.avps) (n.identify cer) := by
  refine FailsAs.bind (fun e he => ?_) fun _ _ => (Capabilities.blamed_ofCer hg).bind fun c _ =>
    FailsAs.bind (fun e he => ?_) fun _ _ => .ok _
  · obtain rfl := Header.eq_of_checkFlags_error he
    trivial
  · obtain rfl := negotiate_eq_error he
    trivial

lemma answerCer_eq_reject {e : Failure} (h : n.answerCer cer = .reject e cea) :
    n.identify cer = .error e ∧ cea = n.errorCea cer e := by
  unfold answerCer at h
  cases hi : n.identify cer with
  | ok peer =>
    rw [hi] at h
    cases h
  | error d =>
    rw [hi] at h
    cases h
    exact ⟨rfl, rfl⟩

lemma code_applicationAvp (a : Application) : (applicationAvp a).code ≠ Avp.Code.failedAvp := by
  unfold applicationAvp
  dsimp only
  split
  · rw [Avp.code_mandatory]
    cases a.kind <;> decide
  · rw [Avp.code_mandatory]
    decide

lemma code_of_mem_cea {a : Avp} {r : ResultCode} (h : a ∈ (n.cea cer r).avps) :
    a.code ≠ Avp.Code.failedAvp := by
  simp only [cea, origin, capabilities, List.mem_cons, List.mem_append, List.mem_map,
    List.not_mem_nil, or_false] at h
  rcases h with rfl | (rfl | rfl) | (((⟨_, _, rfl⟩ | rfl | rfl | rfl) | ⟨_, _, rfl⟩) |
    ⟨x, _, rfl⟩) | ⟨_, _, rfl⟩
  case inr.inr.inl.inr => exact code_applicationAvp x
  all_goals
    simp only [resultAvp, originState, Avp.code_mandatory, Avp.code_optional]
    decide

/-- The AVPs that an answer with an error reports: the first of the code in the request, or an empty
one in its place. -/
lemma filter_failedAvp (e : Failure) :
    (n.errorCea cer e).avps.filter (·.code == Avp.Code.failedAvp) =
      e.avpCode?.toList.map fun code => .mandatory Avp.Code.failedAvp
        (.grouped [(cer.avps.find? (·.code == code)).getD (.make code 0 none [])]) := by
  have hn : (n.cea cer e.resultCode).avps.filter (·.code == Avp.Code.failedAvp) = [] :=
    List.filter_eq_nil_iff.mpr fun a ha => by simpa using code_of_mem_cea ha
  have hd : (errorDetails cer.avps e).filter (·.code == Avp.Code.failedAvp) =
      (errorDetails cer.avps e).tail := by
    have hm : (Avp.Code.errorMessage == Avp.Code.failedAvp) = false := by decide
    cases hc : e.avpCode? <;> simp [errorDetails, hc, hm]
  show ((n.cea cer e.resultCode).avps ++ errorDetails cer.avps e).filter _ = _
  rw [List.filter_append, hn, hd, List.nil_append]
  rfl

/-- **A rejected request is rejected for a cause.** In a capabilities-exchange request every group
that tells of an application is made of AVPs, and it is rejected for an AVP. Then at the top level
or in one of those groups there is the cause: an AVP of that code and of no vendor cannot be read as
what it has to be, which is the failure, or there is none and that is the failure. The answer
reports exactly one AVP, the first of that code at the top level or else an empty one. That is the
cause, or stands for what is missing, if nothing but the cause has that code at the top level. -/
theorem answerCer_blames (hg : Capabilities.Splits cer.avps)
    (h : n.answerCer cer = .reject (.invalidAvp code fault) cea) :
    ∃ place cause, Capabilities.Searched cer.avps place ∧
      Capabilities.Cause place code fault cause ∧ ∃ f x,
        cea.avps.filter (·.code == Avp.Code.failedAvp) = [f] ∧
        f = .mandatory Avp.Code.failedAvp (.grouped [x]) ∧
        (x.WellFormed → f.asGrouped = .ok [x]) ∧
        x = (cer.avps.find? (·.code == code)).getD (.make code 0 none []) ∧
        ((∀ a, a ∈ cer.avps ∧ a.code = code ↔ cause = some a) →
          x = cause.getD (.make code 0 none [])) := by
  obtain ⟨hi, rfl⟩ := answerCer_eq_reject h
  obtain ⟨place, cause, hs, hc⟩ := blamed_identify hg _ hi
  refine ⟨place, cause, hs, hc, _, _, filter_failedAvp _, rfl, fun hx => ?_, rfl, fun ho => ?_⟩
  · exact Avp.asGrouped_of_data rfl (List.forall_mem_singleton.mpr hx)
  · congr 1
    cases cause with
    | none => exact List.find?_eq_none.mpr fun a ha hca =>
        absurd ((ho a).mp ⟨ha, eq_of_beq hca⟩) (by simp)
    | some a =>
      obtain ⟨ha, hca⟩ := (ho a).mpr rfl
      cases hf : cer.avps.find? (·.code == code) with
      | none => exact absurd (beq_iff_eq.mpr hca) (by simpa using List.find?_eq_none.mp hf a ha)
      | some b =>
        have hb : b ∈ cer.avps ∧ b.code = code :=
          ⟨List.mem_of_find?_eq_some hf, eq_of_beq (List.find?_some hf :)⟩
        exact ((ho b).mp hb).symm

lemma answerCer_of_error {e : Failure} (h : n.identify cer = .error e) :
    n.answerCer cer = .reject e (n.errorCea cer e) := by
  rw [answerCer, h]

/-- Behind an application of a vendor comes an Origin-State-Id of three octets, which is
reported. -/
theorem answerCer_blames_state :
    let n := Node.plain "a"
    let group := applicationAvp (.vendorAuth 10415 16777251)
    let bad := Avp.make Avp.Code.originStateId Avp.mandatoryFlag none [0, 0, 1]
    let cer : Message := ⟨((Node.plain "b").cer {}).1.header, group :: bad ::
      (Node.plain "b").introduction.filter (·.code != Avp.Code.originStateId)⟩
    Capabilities.Splits cer.avps ∧
      ∃ cea f, n.answerCer cer = .reject (.invalidAvp Avp.Code.originStateId .badLength) cea ∧
        cea.avps.filter (·.code == Avp.Code.failedAvp) = [f] ∧ f.asGrouped = .ok [bad] := by
  intro n group bad cer
  have hg : Capabilities.Splits cer.avps := by
    rintro a ⟨hm, hc, -⟩
    rcases List.mem_cons.mp hm with rfl | hm
    · refine ⟨[.mandatory Avp.Code.vendorId (.unsigned32 10415),
        .mandatory Avp.Code.authApplicationId (.unsigned32 16777251)], Avp.asGrouped_of_data rfl ?_⟩
      exact List.forall_mem_cons.mpr ⟨wellFormed_word _ _,
        List.forall_mem_singleton.mpr (wellFormed_word _ _)⟩
    · exact absurd hc ((by decide : ∀ b ∈ cer.avps.tail,
        b.code ≠ Avp.Code.vendorSpecificApplicationId) a hm)
  have hi : n.identify cer = .error (.invalidAvp Avp.Code.originStateId .badLength) := by
    decide +kernel
  have h := answerCer_of_error hi
  obtain ⟨place, cause, -, -, f, x, hf, -, hx, hb, -⟩ := answerCer_blames hg h
  obtain rfl : x = bad := hb.trans (by decide +kernel)
  exact ⟨hg, _, f, h, hf, hx (Avp.wellFormed_make (by decide))⟩

/-- An AVP of another vendor that happens to have the code of a bad Origin-Host is reported in its
place. -/
theorem answerCer_blames_otherVendor :
    let n := Node.plain "a"
    let stray := Avp.make Avp.Code.originHost 0 (some 10415) (Octets.ofText "c")
    let bad := Avp.make Avp.Code.originHost Avp.mandatoryFlag none (Octets.ofText "-")
    let cer : Message := ⟨((Node.plain "b").cer {}).1.header, stray :: bad ::
      (Node.plain "b").introduction.filter (·.code != Avp.Code.originHost)⟩
    ∃ cea f, n.answerCer cer = .reject (.invalidAvp Avp.Code.originHost .badValue) cea ∧
      cea.avps.filter (·.code == Avp.Code.failedAvp) = [f] ∧ f.asGrouped = .ok [stray] ∧
      stray.vendor = some 10415 ∧ stray.asIdentity = .ok "c" ∧
      bad.asIdentity = .error (.invalidAvp Avp.Code.originHost .badValue) := by
  intro n stray bad cer
  have hi : n.identify cer = .error (.invalidAvp Avp.Code.originHost .badValue) := by decide +kernel
  have h := answerCer_of_error hi
  have hs : stray.WellFormed := Avp.wellFormed_make (by decide)
  exact ⟨_, _, h, filter_failedAvp _, Avp.asGrouped_of_data rfl (List.forall_mem_singleton.mpr hs),
    rfl, by decide +kernel, by decide +kernel⟩

end Node

end Diameter
