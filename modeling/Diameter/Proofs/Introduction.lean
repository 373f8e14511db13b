import Mathlib.Data.List.ReduceOption
import Mathlib.Data.String.Basic
import Diameter.Capabilities
import Diameter.Proofs.AvpCodec
import Diameter.Proofs.Flags

/-!
What a node says of itself in a capabilities exchange is what the far end reads.

Request and answer carry the same AVPs (`Node.introduction`). Both are read as the description of
the node (`Node.described`), and so both ends come to know each other by the hosts and realms
they were set up with. Main statements: `Node.identify_cer`, `Node.acceptCea_cea`.
-/

namespace Diameter

/-- What reading and writing of identities and addresses takes of a node. -/
structure Node.Valid (n : Node) : Prop where
  host : Identity.isValid n.host
  realm : Identity.isValid n.realm
  addresses : n.addresses ≠ []

lemma Node.valid_of_ofSettings {s : Settings} {stateId : UInt32} {n : Node}
    (h : Node.ofSettings s stateId = .ok n) : n.Valid := by
  unfold Node.ofSettings at h
  cases hc : s.check with
  | error e =>
    rw [hc] at h
    cases h
  | ok u =>
    rw [hc] at h
    obtain rfl := Except.ok.inj h
    unfold Settings.check at hc
    split at hc
    · cases hc
    · split at hc
      · cases hc
      · split at hc
        · cases hc
        · rename_i hh hr ha
          exact ⟨by simpa using hh, by simpa using hr, ha⟩

namespace Avp

/-- The AVP is the one of a code that lookups without a vendor are for. -/
def hasCode (code : UInt32) (a : Avp) : Bool := a.code == code && a.vendor.isNone

@[simp] lemma hasCode_mandatory (code c : UInt32) (v : Value) :
    hasCode code (mandatory c v) = (c == code) := Bool.and_true _

@[simp] lemma hasCode_optional (code c : UInt32) (v : Value) :
    hasCode code (optional c v) = (c == code) := Bool.and_true _

end Avp

namespace Node

variable (n : Node)

lemma resultCode?_cea (cer : Message) (r : ResultCode) :
    (n.cea cer r).resultCode? = some r.code := by
  have hf : (n.cea cer r).find Avp.Code.resultCode = some (resultAvp r) := rfl
  simp [Message.resultCode?, hf, resultAvp, Avp.mandatory, Avp.make, Avp.asUnsigned32,
    Avp.Value.encode, Except.toOption]

/-- What a node says of itself. -/
def introduction : List Avp := n.origin ++ n.capabilities

/-- How the far end knows a node. -/
def described : Capabilities where
  host := n.host
  realm := n.realm
  addresses := n.addresses
  vendor := n.vendor
  product := n.product
  stateId := some n.stateId
  supportedVendors := supportedVendors n.applications
  applications := n.applications
  firmware := n.firmware

lemma hasCode_applicationAvp (code : UInt32) (a : Application)
    (h : code ∉ [Avp.Code.authApplicationId, Avp.Code.acctApplicationId,
      Avp.Code.vendorSpecificApplicationId]) : Avp.hasCode code (applicationAvp a) = false := by
  simp only [List.mem_cons, List.not_mem_nil, or_false, not_or] at h
  obtain ⟨h₁, h₂, h₃⟩ := h
  unfold applicationAvp
  dsimp only
  split
  · cases a.kind <;> simp [Ne.symm h₁, Ne.symm h₂]
  · simp [Ne.symm h₃]

lemma find?_map_of_forall {α β : Type} {f : α → β} {p : β → Bool} (h : ∀ a, p (f a) = false)
    (as : List α) : (as.map f).find? p = none := by
  simp [List.find?_eq_none, h]

lemma find_introduction (code : UInt32) (h : code ∉ [Avp.Code.hostIpAddress,
      Avp.Code.supportedVendorId, Avp.Code.authApplicationId, Avp.Code.acctApplicationId,
      Avp.Code.vendorSpecificApplicationId, Avp.Code.firmwareRevision]) :
    Avp.find n.introduction code =
      ([.mandatory Avp.Code.originHost (.diameterIdentity n.host),
        .mandatory Avp.Code.originRealm (.diameterIdentity n.realm),
        .mandatory Avp.Code.vendorId (.unsigned32 n.vendor),
        .optional Avp.Code.productName (.utf8String n.product), n.originState] : List Avp).find?
          (Avp.hasCode code) := by
  simp only [List.mem_cons, List.not_mem_nil, or_false, not_or] at h
  obtain ⟨ha, hs, h₁, h₂, h₃, hf⟩ := h
  have happ : ∀ a, Avp.hasCode code (applicationAvp a) = false := fun a =>
    hasCode_applicationAvp code a (by simp [h₁, h₂, h₃])
  show n.introduction.find? (Avp.hasCode code) = _
  simp only [introduction, capabilities, List.find?_append]
  rw [find?_map_of_forall (by simp [Ne.symm ha]), find?_map_of_forall (by simp [Ne.symm hs]),
    find?_map_of_forall happ, find?_map_of_forall (by simp [Ne.symm hf])]
  simp only [origin, Option.or_none, Option.none_or, List.find?_cons, List.find?_nil]
  cases Avp.hasCode code (.mandatory Avp.Code.originHost (.diameterIdentity n.host)) <;>
    cases Avp.hasCode code (.mandatory Avp.Code.originRealm (.diameterIdentity n.realm)) <;> rfl

lemma filter_map_of_forall {α β : Type} {f : α → β} {p : β → Bool} {b : Bool}
    (h : ∀ a, p (f a) = b) (as : List α) : (as.map f).filter p = if b then as.map f else [] := by
  cases b with
  | true => simpa using fun a _ => h a
  | false => simpa using fun a _ => h a

lemma findAll_introduction_hostIpAddress :
    Avp.findAll n.introduction Avp.Code.hostIpAddress =
      n.addresses.map fun a => .mandatory Avp.Code.hostIpAddress (.address a) := by
  have happ : ∀ a, Avp.hasCode Avp.Code.hostIpAddress (applicationAvp a) = false := fun a =>
    hasCode_applicationAvp _ a (by decide)
  show n.introduction.filter (Avp.hasCode Avp.Code.hostIpAddress) = _
  simp only [introduction, capabilities, List.filter_append]
  rw [filter_map_of_forall (b := true) (fun a => by simp),
    filter_map_of_forall (b := false) (fun v => by simp; decide), filter_map_of_forall happ,
    filter_map_of_forall (b := false) (fun r => by simp; decide)]
  simp only [if_true, Bool.false_eq_true, if_false, List.append_nil]
  exact List.append_nil _

lemma findAll_introduction_supportedVendorId :
    Avp.findAll n.introduction Avp.Code.supportedVendorId =
      (supportedVendors n.applications).map fun v =>
        .mandatory Avp.Code.supportedVendorId (.unsigned32 v) := by
  have happ : ∀ a, Avp.hasCode Avp.Code.supportedVendorId (applicationAvp a) = false := fun a =>
    hasCode_applicationAvp _ a (by decide)
  show n.introduction.filter (Avp.hasCode Avp.Code.supportedVendorId) = _
  simp only [introduction, capabilities, List.filter_append]
  rw [filter_map_of_forall (b := false) (fun a => by simp; decide),
    filter_map_of_forall (b := true) (fun v => by simp), filter_map_of_forall happ,
    filter_map_of_forall (b := false) (fun r => by simp; decide)]
  simp only [if_true, Bool.false_eq_true, if_false, List.append_nil]
  rfl

lemma find_introduction_firmwareRevision :
    Avp.find n.introduction Avp.Code.firmwareRevision =
      n.firmware.map fun r => .optional Avp.Code.firmwareRevision (.unsigned32 r) := by
  have happ : ∀ a, Avp.hasCode Avp.Code.firmwareRevision (applicationAvp a) = false := fun a =>
    hasCode_applicationAvp _ a (by decide)
  show n.introduction.find? (Avp.hasCode Avp.Code.firmwareRevision) = _
  simp only [introduction, capabilities, List.find?_append]
  rw [find?_map_of_forall (fun a => by simp; decide),
    find?_map_of_forall (fun v => by simp; decide),
    find?_map_of_forall happ]
  cases n.firmware <;> rfl

/-! ### Applications -/

lemma wellFormed_word (code w : UInt32) :
    (Avp.mandatory code (.unsigned32 w)).WellFormed :=
  Avp.wellFormed_make (by simp [Avp.length, Avp.headerLength, Avp.make, Avp.Value.encode])

lemma wireLength_word (code w : UInt32) : (Avp.mandatory code (.unsigned32 w)).wireLength = 12 := by
  simp [Avp.wireLength, Avp.length, Avp.headerLength, Avp.mandatory, Avp.make, Avp.Value.encode,
    Octets.padded]

lemma asUnsigned32_word (code w : UInt32) :
    (Avp.mandatory code (.unsigned32 w)).asUnsigned32 = .ok w := Avp.asUnsigned32_of_data rfl

/-- The code under which an application is advertised. -/
def kindCode : ApplicationKind → UInt32
  | .auth => Avp.Code.authApplicationId
  | .acct => Avp.Code.acctApplicationId

/-- The group that wraps an application together with its vendor. -/
def applicationGroup (a : Application) : List Avp :=
  [.mandatory Avp.Code.vendorId (.unsigned32 a.vendor),
    .mandatory (kindCode a.kind) (.unsigned32 a.id)]

lemma applicationAvp_eq (a : Application) :
    applicationAvp a = if a.vendor = 0 then .mandatory (kindCode a.kind) (.unsigned32 a.id)
      else .mandatory Avp.Code.vendorSpecificApplicationId (.grouped (applicationGroup a)) := by
  obtain ⟨vendor, id, kind⟩ := a
  cases kind <;> rfl

lemma groupedApplication_applicationGroup (a : Application) :
    Capabilities.groupedApplication (applicationGroup a) = .ok a := by
  obtain ⟨vendor, id, kind⟩ := a
  have hv : Capabilities.required (applicationGroup ⟨vendor, id, kind⟩) Avp.Code.vendorId =
      .ok (.mandatory Avp.Code.vendorId (.unsigned32 vendor)) := rfl
  rw [Capabilities.groupedApplication, hv]
  simp only [bind, Except.bind, asUnsigned32_word]
  cases kind
  · have hf : Avp.find (applicationGroup ⟨vendor, id, .auth⟩) Avp.Code.authApplicationId =
        some (.mandatory Avp.Code.authApplicationId (.unsigned32 id)) := rfl
    simp only [hf, asUnsigned32_word]
    rfl
  · have hf : Avp.find (applicationGroup ⟨vendor, id, .acct⟩) Avp.Code.authApplicationId =
        none := rfl
    have hc : Avp.find (applicationGroup ⟨vendor, id, .acct⟩) Avp.Code.acctApplicationId =
        some (.mandatory Avp.Code.acctApplicationId (.unsigned32 id)) := rfl
    simp only [hf, hc, asUnsigned32_word]
    rfl

lemma applicationOf_applicationAvp (a : Application) :
    Capabilities.applicationOf (applicationAvp a) = .ok (some a) := by
  rw [applicationAvp_eq]
  split
  · rename_i hv
    obtain ⟨vendor, id, kind⟩ := a
    obtain rfl : vendor = 0 := hv
    cases kind <;>
    · rw [Capabilities.applicationOf, asUnsigned32_word]
      rfl
  · have hg : (Avp.mandatory Avp.Code.vendorSpecificApplicationId
        (.grouped (applicationGroup a))).asGrouped = .ok (applicationGroup a) := by
      refine Avp.asGrouped_of_data rfl fun b hb => ?_
      simp only [applicationGroup, List.mem_cons, List.not_mem_nil, or_false] at hb
      rcases hb with rfl | rfl <;> exact wellFormed_word _ _
    rw [Capabilities.applicationOf, hg]
    show Except.map some (Capabilities.groupedApplication (applicationGroup a)) = _
    rw [groupedApplication_applicationGroup]
    rfl

lemma applicationOf_of_code {a : Avp} (h : a.code ∉ [Avp.Code.authApplicationId,
      Avp.Code.acctApplicationId, Avp.Code.vendorSpecificApplicationId]) :
    Capabilities.applicationOf a = .ok none := by
  simp only [List.mem_cons, List.not_mem_nil, or_false, not_or] at h
  simp [Capabilities.applicationOf, h]

lemma mapM_map_of_forall {α β γ : Type} {f : α → β} {g : β → Except Failure γ} {k : α → γ}
    (h : ∀ a, g (f a) = .ok (k a)) (as : List α) : (as.map f).mapM g = .ok (as.map k) := by
  induction as with
  | nil => rfl
  | cons a as ih =>
    rw [List.map_cons, List.mapM_cons, h, ih]
    rfl

lemma mapM_append_of_ok {α β : Type} {g : α → Except Failure β} {as bs : List α} {cs ds : List β}
    (ha : as.mapM g = .ok cs) (hb : bs.mapM g = .ok ds) : (as ++ bs).mapM g = .ok (cs ++ ds) := by
  rw [List.mapM_append, ha, hb]
  rfl

lemma advertised_introduction : Capabilities.advertised n.introduction = .ok n.applications := by
  have plain : ∀ (c : UInt32) (v : Avp.Value), c ∉ [Avp.Code.authApplicationId,
      Avp.Code.acctApplicationId, Avp.Code.vendorSpecificApplicationId] →
      Capabilities.applicationOf (.mandatory c v) = .ok none ∧
        Capabilities.applicationOf (.optional c v) = .ok none := fun c v h =>
    ⟨applicationOf_of_code h, applicationOf_of_code h⟩
  have ho : n.origin.mapM Capabilities.applicationOf = .ok [none, none] := rfl
  have hb : ([.mandatory Avp.Code.vendorId (.unsigned32 n.vendor),
      .optional Avp.Code.productName (.utf8String n.product), n.originState] : List Avp).mapM
        Capabilities.applicationOf = .ok [none, none, none] := rfl
  have ha := mapM_map_of_forall (g := Capabilities.applicationOf)
    (fun a => (plain Avp.Code.hostIpAddress (.address a) (by decide)).1) n.addresses
  have hv := mapM_map_of_forall (g := Capabilities.applicationOf)
    (fun v => (plain Avp.Code.supportedVendorId (.unsigned32 v) (by decide)).1)
    (supportedVendors n.applications)
  have hr := mapM_map_of_forall (g := Capabilities.applicationOf)
    (fun r => (plain Avp.Code.firmwareRevision (.unsigned32 r) (by decide)).2) n.firmware.toList
  have hp := mapM_map_of_forall applicationOf_applicationAvp n.applications
  have h := mapM_append_of_ok ho (mapM_append_of_ok (mapM_append_of_ok (mapM_append_of_ok
    (mapM_append_of_ok ha hb) hv) hp) hr)
  rw [Capabilities.advertised, show n.introduction.mapM Capabilities.applicationOf = _ from h]
  simp [Except.map, List.reduceOption]

/-! ### The description -/

/-- AVPs in which the far end finds what a node says of itself. -/
structure Introduces (avps : List Avp) : Prop where
  find : ∀ code ≠ Avp.Code.resultCode, Avp.find avps code = Avp.find n.introduction code
  findAll : ∀ code ≠ Avp.Code.resultCode, Avp.findAll avps code = Avp.findAll n.introduction code
  advertised : Capabilities.advertised avps = .ok n.applications

lemma introduces_introduction : n.Introduces n.introduction :=
  ⟨fun _ _ => rfl, fun _ _ => rfl, n.advertised_introduction⟩

lemma introduces_resultAvp (r : ResultCode) : n.Introduces (resultAvp r :: n.introduction) where
  find code h := by
    have hr : Avp.hasCode code (resultAvp r) = false := by simp [resultAvp, Ne.symm h]
    exact List.find?_cons_of_neg (Bool.eq_false_iff.mp hr)
  findAll code h := by
    have hr : Avp.hasCode code (resultAvp r) = false := by simp [resultAvp, Ne.symm h]
    exact List.filter_cons_of_neg (Bool.eq_false_iff.mp hr)
  advertised := by
    have ha : Capabilities.applicationOf (resultAvp r) = .ok none := rfl
    have h := n.advertised_introduction
    unfold Capabilities.advertised at h ⊢
    cases hm : n.introduction.mapM Capabilities.applicationOf with
    | error e =>
      rw [hm] at h
      cases h
    | ok as =>
      rw [hm] at h
      rw [List.mapM_cons, ha, hm]
      simpa [bind, Except.bind, pure, Except.pure, Except.map] using h

variable {n} {avps : List Avp}

lemma Introduces.required (h : n.Introduces avps) :
    Capabilities.required avps Avp.Code.originHost =
        .ok (.mandatory Avp.Code.originHost (.diameterIdentity n.host)) ∧
      Capabilities.required avps Avp.Code.originRealm =
        .ok (.mandatory Avp.Code.originRealm (.diameterIdentity n.realm)) ∧
      Capabilities.required avps Avp.Code.vendorId =
        .ok (.mandatory Avp.Code.vendorId (.unsigned32 n.vendor)) ∧
      Capabilities.required avps Avp.Code.productName =
        .ok (.optional Avp.Code.productName (.utf8String n.product)) := by
  refine ⟨?_, ?_, ?_, ?_⟩ <;>
  · rw [Capabilities.required, h.find _ (by decide), find_introduction _ _ (by decide)]
    rfl

lemma Introduces.finish (h : n.Introduces avps) (host realm : String) (addresses : List Address)
    (vendor : UInt32) (product : String) :
    Capabilities.finish avps host realm addresses vendor product =
      .ok { n.described with host, realm, addresses, vendor, product } := by
  have hs : Capabilities.optionalWord avps Avp.Code.originStateId = .ok (some n.stateId) := by
    rw [Capabilities.optionalWord, h.find _ (by decide), find_introduction _ _ (by decide)]
    exact congrArg (Except.map some) (asUnsigned32_word Avp.Code.originStateId n.stateId)
  have hf : Capabilities.optionalWord avps Avp.Code.firmwareRevision = .ok n.firmware := by
    rw [Capabilities.optionalWord, h.find _ (by decide), find_introduction_firmwareRevision]
    cases n.firmware with
    | none => rfl
    | some r =>
      have hr : (Avp.optional Avp.Code.firmwareRevision (.unsigned32 r)).asUnsigned32 = .ok r :=
        Avp.asUnsigned32_of_data rfl
      exact congrArg (Except.map some) hr
  have hv : Capabilities.words avps Avp.Code.supportedVendorId =
      .ok (supportedVendors n.applications) := by
    rw [Capabilities.words, h.findAll _ (by decide), findAll_introduction_supportedVendorId]
    have := mapM_map_of_forall (asUnsigned32_word Avp.Code.supportedVendorId)
      (supportedVendors n.applications)
    rwa [List.map_id'] at this
  rw [Capabilities.finish, hs, hv, h.advertised, hf]
  rfl

lemma Introduces.addresses (h : n.Introduces avps) :
    Avp.findAll avps Avp.Code.hostIpAddress =
        n.addresses.map (fun a => .mandatory Avp.Code.hostIpAddress (.address a)) ∧
      ∀ a, (Avp.mandatory Avp.Code.hostIpAddress (.address a)).asAddress = .ok a :=
  ⟨(h.findAll _ (by decide)).trans n.findAll_introduction_hostIpAddress, fun _ =>
    Avp.asAddress_of_data rfl⟩

lemma Introduces.identities (hn : n.Valid) :
    (Avp.mandatory Avp.Code.originHost (.diameterIdentity n.host)).asIdentity = .ok n.host ∧
      (Avp.mandatory Avp.Code.originRealm (.diameterIdentity n.realm)).asIdentity =
        .ok n.realm :=
  ⟨Avp.asIdentity_of_data rfl hn.host, Avp.asIdentity_of_data rfl hn.realm⟩

lemma Introduces.ofCer {m : Message} (h : n.Introduces m.avps) (hn : n.Valid) :
    Capabilities.ofCer m = .ok n.described := by
  obtain ⟨hh, hr, hv, hp⟩ := h.required
  obtain ⟨ha, hx⟩ := h.addresses
  obtain ⟨hih, hir⟩ := Introduces.identities hn
  have hm := mapM_map_of_forall hx n.addresses
  have ht : (Avp.optional Avp.Code.productName (.utf8String n.product)).asText =
      .ok n.product := Avp.asText_of_data rfl
  rw [List.map_id'] at hm
  simp only [Capabilities.ofCer, hh, hr, hv, hp, ha, hm, hih, hir, ht, asUnsigned32_word, bind,
    Except.bind, h.finish, hn.addresses, if_false]
  rfl

lemma Introduces.ofCea {m : Message} (h : n.Introduces m.avps) (hn : n.Valid) :
    Capabilities.ofCea m = .ok n.described := by
  obtain ⟨hh, hr, -, -⟩ := h.required
  obtain ⟨ha, hx⟩ := h.addresses
  obtain ⟨hih, hir⟩ := Introduces.identities hn
  have hm : (n.addresses.map fun a => Avp.mandatory Avp.Code.hostIpAddress (.address a)).filterMap
      (fun a => a.asAddress.toOption) = n.addresses := by
    simp [List.filterMap_map, hx, Except.toOption]
  have hv : Capabilities.optionalWord m.avps Avp.Code.vendorId = .ok (some n.vendor) := by
    rw [Capabilities.optionalWord, h.find _ (by decide), find_introduction _ _ (by decide)]
    exact congrArg (Except.map some) (asUnsigned32_word Avp.Code.vendorId n.vendor)
  have ht : m.text? Avp.Code.productName = some n.product := by
    rw [Message.text?, Message.find, h.find _ (by decide), find_introduction _ _ (by decide)]
    exact Avp.text?_of_data rfl
  simp only [Capabilities.ofCea, hh, hr, hv, ht, ha, hm, hih, hir, bind, Except.bind,
    Option.getD_some, h.finish]
  rfl

/-- **A CER is answered for the node that wrote it.** -/
theorem identify_cer (here : Node) (hn : n.Valid) (ids : Identifiers) :
    here.identify (n.cer ids).1 =
      (negotiate here.applications n.applications).map fun as => ⟨n.host, n.realm, as⟩ := by
  have hf : (n.cer ids).1.header.checkFlags = .ok () := checkFlags_requestHeader _ ids
  have hd : Capabilities.ofCer (n.cer ids).1 = .ok n.described :=
    n.introduces_introduction.ofCer hn
  rw [identify, hf, hd]
  rfl

/-- **A CEA is accepted as that of the node that wrote it.** -/
theorem acceptCea_cea (here : Node) (hn : n.Valid) (cer : Message) :
    here.acceptCea (n.cea cer .success) =
      (negotiate here.applications n.applications).map fun as => ⟨n.host, n.realm, as⟩ := by
  have hr : (n.cea cer .success).resultCode? = some ResultCode.success.code :=
    n.resultCode?_cea cer .success
  have hd : Capabilities.ofCea (n.cea cer .success) = .ok n.described :=
    (n.introduces_resultAvp .success).ofCea hn
  rw [acceptCea, hr]
  simp only [hd]
  rfl

lemma isCer_cer (ids : Identifiers) : (n.cer ids).1.isCer := by
  have hq : (n.cer ids).1.header.isRequest = true := isRequest_requestHeader _ ids
  rw [Message.isCer, hq, Bool.and_true]
  rfl

lemma isCea_cea {cer : Message} (h : cer.isCer) : (n.cea cer .success).isCea := by
  have hh : (n.cea cer .success).header = cer.header.answer := rfl
  have hb : (n.cea cer .success).isBaseCommand Command.capabilitiesExchange =
      cer.isBaseCommand Command.capabilitiesExchange := rfl
  simp only [Message.isCer, Bool.and_eq_true] at h
  simp [Message.isCea, hb, h.1, Header.isAnswer, hh]

end Node

/-! ### Election -/

lemma wonElection_eq_not {a b : String} (h : Identity.same a b = false) :
    wonElection a b = !wonElection b a := by
  have hne : Identity.lower a ≠ Identity.lower b := by simpa [Identity.same] using h
  rcases lt_or_gt_of_ne hne with hl | hl
  · simp [wonElection, hl, String.lt_asymm hl]
  · simp [wonElection, hl, String.lt_asymm hl]

end Diameter
