import Diameter.Octets
import Diameter.Failure

/-!
Attribute-value pairs and their wire format.

```text
  code (4)   flags (1)   length (3)   [vendor (4)]   data   zero padding to a multiple of 4
```

The length counts header and data, not the padding. The vendor flag on the wire says whether
a vendor follows; an `Avp` says it by `vendor`, and writing sets the flag accordingly.
-/

namespace Diameter

structure Avp where
  code : UInt32
  flags : UInt8
  vendor : Option UInt32
  data : Octets
  deriving DecidableEq, Repr, Inhabited

namespace Avp

/-! ### Flags -/

def vendorFlag : UInt8 := 0x80

def mandatoryFlag : UInt8 := 0x40

def protectedFlag : UInt8 := 0x20

/-- The flags with the vendor flag set exactly if there is a vendor. -/
def flagsFor (vendor : Option UInt32) (flags : UInt8) : UInt8 :=
  if vendor.isSome then flags ||| vendorFlag else flags &&& ~~~vendorFlag

/-- An AVP whose vendor flag follows its vendor. -/
def make (code : UInt32) (flags : UInt8) (vendor : Option UInt32) (data : Octets) : Avp :=
  { code, flags := flagsFor vendor flags, vendor, data }

def isMandatory (a : Avp) : Bool := a.flags &&& mandatoryFlag != 0

def isProtected (a : Avp) : Bool := a.flags &&& protectedFlag != 0

/-! ### Lengths -/

def headerLength (a : Avp) : Nat := if a.vendor.isSome then 12 else 8

/-- The length field: header and data. -/
def length (a : Avp) : Nat := a.headerLength + a.data.length

/-- Octets on the wire, padding included. -/
def wireLength (a : Avp) : Nat := Octets.padded a.length

/-! ### Writing -/

def encode (a : Avp) : Octets :=
  Octets.ofWord a.code ++ flagsFor a.vendor a.flags :: Octets.ofNat 3 a.length ++
    (a.vendor.map Octets.ofWord).getD [] ++ a.data ++
    List.replicate (a.wireLength - a.length) 0

theorem length_encode (a : Avp) : a.encode.length = a.wireLength := by
  have hp := Octets.le_padded a.length
  obtain ⟨code, flags, vendor, data⟩ := a
  cases vendor <;> simp [encode, wireLength, length, headerLength] at hp ⊢ <;> omega

def encodeAll (as : List Avp) : Octets := as.flatMap encode

/-- Octets on the wire of a list of AVPs. -/
def wireLengthAll : List Avp → Nat
  | [] => 0
  | a :: as => a.wireLength + wireLengthAll as

theorem length_encodeAll (as : List Avp) : (encodeAll as).length = wireLengthAll as := by
  induction as with
  | nil => rfl
  | cons a as ih =>
    simp only [encodeAll, wireLengthAll, List.flatMap_cons, List.length_append,
      length_encode] at ih ⊢
    rw [ih]

/-! ### Reading -/

/-- The data and padding that a header announces; the rest is for the next AVP. -/
def decodeData (code : UInt32) (flags : UInt8) (vendor : Option UInt32) (length dataLength : Nat)
    (b : Octets) : Except Failure (Avp × Octets) :=
  let padding := Octets.padded length - length
  match Octets.split? (dataLength + padding) b with
  | none => .error (.invalidAvp code .badLength)
  | some (body, rest) => .ok ({ code, flags, vendor, data := body.take dataLength }, rest)

/-- One AVP at the head of the octets, and what follows its padding. -/
def decode (b : Octets) : Except Failure (Avp × Octets) :=
  match Octets.split? 8 b with
  | none => .error (.shortBuffer 8 b.length)
  | some (head, rest) =>
    let code := Octets.toWord (head.take 4)
    let flags := head.getD 4 0
    let length := Octets.toNat (head.drop 5)
    if flags &&& vendorFlag = 0 then
      if length < 8 then .error (.invalidAvp code .badLength)
      else decodeData code flags none length (length - 8) rest
    else if length < 12 then .error (.invalidAvp code .badLength)
    else match Octets.split? 4 rest with
      | none => .error (.invalidAvp code .badLength)
      | some (vendor, rest) =>
        decodeData code flags (some (Octets.toWord vendor)) length (length - 12) rest

theorem length_decodeData {code flags vendor length dataLength b a rest}
    (h : decodeData code flags vendor length dataLength b = .ok (a, rest)) :
    rest.length ≤ b.length := by
  unfold decodeData at h
  dsimp only at h
  split at h
  · exact absurd h (by simp)
  · rename_i body r hs
    obtain ⟨-, rfl⟩ := Octets.split?_eq_some.mp hs
    simp only [Except.ok.injEq, Prod.mk.injEq] at h
    obtain ⟨-, rfl⟩ := h
    simp

/-- Reading an AVP uses octets up. -/
theorem length_decode_lt {b : Octets} {a : Avp} {rest : Octets} (h : decode b = .ok (a, rest)) :
    rest.length < b.length := by
  unfold decode at h
  split at h
  · exact absurd h (by simp)
  · rename_i head tail hs
    obtain ⟨hl, rfl⟩ := Octets.split?_eq_some.mp hs
    have key : ∀ r : Octets, rest.length ≤ r.length → r.length ≤ tail.length →
        rest.length < (head ++ tail).length := by
      intro r h1 h2; simp; omega
    dsimp only at h
    split at h
    · split at h
      · exact absurd h (by simp)
      · exact key tail (length_decodeData h) (Nat.le_refl _)
    · split at h
      · exact absurd h (by simp)
      · split at h
        · exact absurd h (by simp)
        · rename_i v r hv
          obtain ⟨-, rfl⟩ := Octets.split?_eq_some.mp hv
          exact key r (length_decodeData h) (by simp)

/-- The AVPs that fill the octets. -/
def decodeAll (b : Octets) : Except Failure (List Avp) :=
  if b = [] then .ok []
  else match h : decode b with
    | .error e => .error e
    | .ok (a, rest) =>
      have := length_decode_lt h
      match decodeAll rest with
      | .error e => .error e
      | .ok as => .ok (a :: as)
termination_by b.length

/-! ### Looking up -/

/-- Without a vendor, the first of a code. -/
def find (as : List Avp) (code : UInt32) : Option Avp :=
  as.find? fun a => a.code == code && a.vendor.isNone

def findVendor (as : List Avp) (code vendor : UInt32) : Option Avp :=
  as.find? fun a => a.code == code && a.vendor == some vendor

/-- Without a vendor, all of a code. -/
def findAll (as : List Avp) (code : UInt32) : List Avp :=
  as.filter fun a => a.code == code && a.vendor.isNone

/-! ### Codes of the base protocol -/

namespace Code

def userName : UInt32 := 1
def hostIpAddress : UInt32 := 257
def authApplicationId : UInt32 := 258
def acctApplicationId : UInt32 := 259
def vendorSpecificApplicationId : UInt32 := 260
def sessionId : UInt32 := 263
def originHost : UInt32 := 264
def supportedVendorId : UInt32 := 265
def vendorId : UInt32 := 266
def firmwareRevision : UInt32 := 267
def resultCode : UInt32 := 268
def productName : UInt32 := 269
def disconnectCause : UInt32 := 273
def originStateId : UInt32 := 278
def failedAvp : UInt32 := 279
def errorMessage : UInt32 := 281
def destinationRealm : UInt32 := 283
def destinationHost : UInt32 := 293
def originRealm : UInt32 := 296

end Code

end Avp

end Diameter
