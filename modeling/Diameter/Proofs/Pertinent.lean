import Diameter.Proofs.Introduction
import Diameter.Proofs.Run

/-!
What a capabilities exchange passes over.

Request and answer are searched for AVPs of a few codes and of no vendor. What else a message
carries, and where, makes no difference: if two lists of AVPs become equal once everything else is
struck out, they are read alike (`Avp.readAlike_of_pertinent`). Main statement:
`Node.exchange_overlooks`.
-/

namespace Diameter

namespace Capabilities

/-- The codes that a capabilities-exchange request is searched for. -/
def requestCodes : List UInt32 :=
  [Avp.Code.originHost, Avp.Code.originRealm, Avp.Code.hostIpAddress, Avp.Code.vendorId,
    Avp.Code.productName, Avp.Code.originStateId, Avp.Code.supportedVendorId,
    Avp.Code.authApplicationId, Avp.Code.acctApplicationId,
    Avp.Code.vendorSpecificApplicationId, Avp.Code.firmwareRevision]

/-- An answer is searched for its result besides. -/
def answerCodes : List UInt32 := Avp.Code.resultCode :: requestCodes

end Capabilities

open Capabilities (requestCodes answerCodes)

namespace Avp

def isPertinent (codes : List UInt32) (a : Avp) : Bool := a.vendor.isNone && codes.contains a.code

/-- AVPs of these codes that carry no vendor, all others struck out. -/
def pertinent (codes : List UInt32) (as : List Avp) : List Avp := as.filter (isPertinent codes)

/-- Two lists of AVPs in which a capabilities exchange finds the same. -/
structure ReadAlike (as bs : List Avp) : Prop where
  find : ∀ code ∈ requestCodes, find as code = find bs code
  findAll : ∀ code ∈ requestCodes, findAll as code = findAll bs code
  advertised : Capabilities.advertised as = Capabilities.advertised bs

variable {codes : List UInt32} {code : UInt32} {a : Avp} {as bs : List Avp}

/-! ### Striking out -/

lemma isPertinent_of_hasCode (h : code ∈ codes) (ha : hasCode code a) : isPertinent codes a := by
  obtain ⟨hc, hv⟩ := Bool.and_eq_true_iff.mp ha
  obtain rfl := eq_of_beq hc
  exact Bool.and_eq_true_iff.mpr ⟨hv, List.contains_iff_mem.mpr h⟩

lemma find_pertinent (h : code ∈ codes) (as : List Avp) :
    find (pertinent codes as) code = find as code := by
  show (as.filter _).find? (hasCode code) = as.find? (hasCode code)
  rw [List.find?_filter]
  congr 1
  funext a
  rw [Bool.eq_iff_iff, decide_eq_true_iff]
  exact and_iff_right_of_imp (isPertinent_of_hasCode h)

lemma findAll_pertinent (h : code ∈ codes) (as : List Avp) :
    findAll (pertinent codes as) code = findAll as code := by
  show (as.filter _).filter (hasCode code) = as.filter (hasCode code)
  rw [List.filter_filter]
  refine List.filter_congr fun a _ => ?_
  rw [Bool.eq_iff_iff, Bool.and_eq_true_iff]
  exact and_iff_left_of_imp (isPertinent_of_hasCode h)

lemma applicationOf_of_not_isPertinent (h : requestCodes ⊆ codes) (ha : ¬ isPertinent codes a) :
    Capabilities.applicationOf a = .ok none := by
  have hs : [Code.authApplicationId, Code.acctApplicationId,
      Code.vendorSpecificApplicationId] ⊆ requestCodes := by decide
  by_cases hv : a.vendor.isSome
  · rw [Capabilities.applicationOf, if_pos hv]
  · refine Node.applicationOf_of_code fun hc => ha ?_
    exact Bool.and_eq_true_iff.mpr ⟨by simpa using hv, List.contains_iff_mem.mpr (h (hs hc))⟩

lemma map_reduceOption_cons {α β : Type} (f : α → Except Failure (Option β)) (a : α)
    (as : List α) : ((a :: as).mapM f).map List.reduceOption =
      f a >>= fun o => ((as.mapM f).map List.reduceOption).map (o.toList ++ ·) := by
  rw [List.mapM_cons]
  cases f a with
  | error e => rfl
  | ok o => cases as.mapM f <;> cases o <;> rfl

lemma advertised_pertinent (h : requestCodes ⊆ codes) (as : List Avp) :
    Capabilities.advertised (pertinent codes as) = Capabilities.advertised as := by
  unfold Capabilities.advertised pertinent
  induction as with
  | nil => rfl
  | cons a as ih =>
    rw [map_reduceOption_cons]
    by_cases ha : isPertinent codes a
    · rw [List.filter_cons_of_pos ha, map_reduceOption_cons, ih]
    · rw [List.filter_cons_of_neg ha, ih, applicationOf_of_not_isPertinent h ha]
      cases (as.mapM Capabilities.applicationOf).map List.reduceOption <;> rfl

/-- Lists that become equal when everything else is struck out are read alike. -/
lemma readAlike_of_pertinent (hc : requestCodes ⊆ codes)
    (h : pertinent codes as = pertinent codes bs) : ReadAlike as bs where
  find code hm := by rw [← find_pertinent (hc hm), h, find_pertinent (hc hm)]
  findAll code hm := by rw [← findAll_pertinent (hc hm), h, findAll_pertinent (hc hm)]
  advertised := by rw [← advertised_pertinent hc, h, advertised_pertinent hc]

end Avp

/-! ### Reading -/

namespace Capabilities

open Avp (ReadAlike)

variable {as bs : List Avp} {code : UInt32}

lemma required_congr (h : ReadAlike as bs) (hc : code ∈ requestCodes) :
    required as code = required bs code := by
  rw [required, required, h.find code hc]

lemma optionalWord_congr (h : ReadAlike as bs) (hc : code ∈ requestCodes) :
    optionalWord as code = optionalWord bs code := by
  rw [optionalWord, optionalWord, h.find code hc]

lemma finish_congr (h : ReadAlike as bs) : finish as = finish bs := by
  funext host realm addresses vendor product
  have hw : words as Avp.Code.supportedVendorId = words bs Avp.Code.supportedVendorId := by
    rw [words, words, h.findAll _ (by decide)]
  rw [finish, finish, optionalWord_congr h (by decide), hw, h.advertised,
    optionalWord_congr h (by decide)]

variable {a b : Message}

lemma ofCer_congr (h : ReadAlike a.avps b.avps) : ofCer a = ofCer b := by
  rw [ofCer, ofCer, required_congr h (by decide), required_congr h (by decide),
    h.findAll _ (by decide), required_congr h (by decide), required_congr h (by decide),
    finish_congr h]

lemma ofCea_congr (h : ReadAlike a.avps b.avps) : ofCea a = ofCea b := by
  have ht : a.text? Avp.Code.productName = b.text? Avp.Code.productName := by
    rw [Message.text?, Message.text?, Message.find, Message.find, h.find _ (by decide)]
  rw [ofCea, ofCea, required_congr h (by decide), required_congr h (by decide),
    h.findAll _ (by decide), optionalWord_congr h (by decide), ht, finish_congr h]

end Capabilities

namespace Node

variable {a b : Message}

lemma identify_congr (n : Node) (hh : a.header = b.header) (h : Avp.ReadAlike a.avps b.avps) :
    n.identify a = n.identify b := by
  rw [identify, identify, hh, Capabilities.ofCer_congr h]

lemma acceptCea_congr (n : Node) (hr : a.resultCode? = b.resultCode?)
    (h : Avp.ReadAlike a.avps b.avps) : n.acceptCea a = n.acceptCea b := by
  rw [acceptCea, acceptCea, hr, Capabilities.ofCea_congr h]

/-- **What a capabilities exchange does not search for makes no difference to it.** Two messages
have the same header, and become equal when all AVPs are struck out that carry a vendor or have a
code that is not searched for. As requests both are accepted, for the same peer and with the same
answer, or both are rejected for the same reason. As answers both come to the same. -/
theorem exchange_overlooks (n : Node) (hh : a.header = b.header) :
    (Avp.pertinent requestCodes a.avps = Avp.pertinent requestCodes b.avps →
      (∃ p cea, n.answerCer a = .accept p cea ∧ n.answerCer b = .accept p cea) ∨
      ∃ e cea cea', n.answerCer a = .reject e cea ∧ n.answerCer b = .reject e cea') ∧
    (Avp.pertinent answerCodes a.avps = Avp.pertinent answerCodes b.avps →
      n.acceptCea a = n.acceptCea b) := by
  constructor
  · intro h
    have hi := identify_congr n hh (Avp.readAlike_of_pertinent (List.Subset.refl _) h)
    unfold answerCer
    rw [hi]
    cases n.identify b with
    | ok p =>
      -- an answer that accepts is made of the header alone
      have hc : n.cea a .success = n.cea b .success := by rw [cea, cea, hh]
      exact .inl ⟨p, n.cea b .success, by rw [hc], rfl⟩
    | error e => exact .inr ⟨e, n.errorCea a e, n.errorCea b e, rfl, rfl⟩
  · intro h
    have hf : a.find Avp.Code.resultCode = b.find Avp.Code.resultCode := by
      have hm : Avp.Code.resultCode ∈ answerCodes := List.mem_cons_self
      rw [Message.find, Message.find, ← Avp.find_pertinent hm, h, Avp.find_pertinent hm]
    refine acceptCea_congr n ?_ (Avp.readAlike_of_pertinent (List.subset_cons_self _ _) h)
    rw [Message.resultCode?, Message.resultCode?, hf]

/-- A bad Origin-Host and a Result-Code of another vendor, and a User-Name, stand in front of the
Host-IP-Address of a request and in front of everything in an answer. -/
theorem exchange_overlooks_strays :
    let n := Node.plain "a"
    let strays := [Avp.make Avp.Code.originHost 0 (some 10415) (Octets.ofText "-"),
      Avp.make Avp.Code.resultCode 0 (some 10415) [],
      .optional Avp.Code.userName (.utf8String "nobody")]
    let cer := ((Node.plain "b").cer {}).1
    let cea := (Node.plain "b").cea cer .success
    let cer' : Message := ⟨cer.header, cer.avps.take 2 ++ strays ++ cer.avps.drop 2⟩
    let cea' : Message := ⟨cea.header, strays ++ cea.avps⟩
    Avp.pertinent requestCodes cer'.avps = Avp.pertinent requestCodes cer.avps ∧
      Avp.pertinent answerCodes cea'.avps = Avp.pertinent answerCodes cea.avps ∧
      (∃ m, n.answerCer cer' = .accept ⟨"b", "realm", [.auth 4]⟩ m) ∧
      n.acceptCea cea' = .ok ⟨"b", "realm", [.auth 4]⟩ := by
  intro n strays cer cea cer' cea'
  have hr : Avp.pertinent requestCodes cer'.avps = Avp.pertinent requestCodes cer.avps := by
    decide +kernel
  have ha : Avp.pertinent answerCodes cea'.avps = Avp.pertinent answerCodes cea.avps := by
    decide +kernel
  have hi : n.identify cer = .ok ⟨"b", "realm", [.auth 4]⟩ := by decide +kernel
  have hc : n.answerCer cer = .accept ⟨"b", "realm", [.auth 4]⟩ (n.cea cer .success) := by
    rw [answerCer, hi]
  refine ⟨hr, ha, ?_, ?_⟩
  · -- it is accepted, as the request without the strays is
    obtain ⟨p, m, hm, hp⟩ | ⟨e, m, m', -, he⟩ :=
      (exchange_overlooks n (a := cer') (b := cer) rfl).1 hr
    · rw [hc] at hp
      cases hp
      exact ⟨_, hm⟩
    · rw [hc] at he
      cases he
  · rw [(exchange_overlooks n (a := cea') (b := cea) rfl).2 ha]
    decide +kernel

end Node

end Diameter
