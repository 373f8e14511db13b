/-!
The Result-Code values that an answer may carry, and the classes they fall into by thousands.

A number outside the table reads as `unableToComply`: `ofCode_code` says that the table itself
is read back exactly.
-/

namespace Diameter

inductive ResultCode where
  | multiRoundAuth
  | success
  | limitedSuccess
  | commandUnsupported
  | unableToDeliver
  | realmNotServed
  | tooBusy
  | loopDetected
  | redirectIndication
  | applicationUnsupported
  | invalidHdrBits
  | invalidAvpBits
  | unknownPeer
  | authenticationRejected
  | outOfSpace
  | electionLost
  | avpUnsupported
  | unknownSessionId
  | authorizationRejected
  | invalidAvpValue
  | missingAvp
  | resourcesExceeded
  | contradictingAvps
  | avpNotAllowed
  | avpOccursTooManyTimes
  | noCommonApplication
  | unsupportedVersion
  | unableToComply
  | invalidBitInHeader
  | invalidAvpLength
  | invalidMessageLength
  | invalidAvpBitCombo
  | noCommonSecurity
  deriving DecidableEq, Repr, Inhabited

namespace ResultCode

/-- The number carried in the Result-Code AVP. -/
def code : ResultCode → UInt32
  | multiRoundAuth => 1001
  | success => 2001
  | limitedSuccess => 2002
  | commandUnsupported => 3001
  | unableToDeliver => 3002
  | realmNotServed => 3003
  | tooBusy => 3004
  | loopDetected => 3005
  | redirectIndication => 3006
  | applicationUnsupported => 3007
  | invalidHdrBits => 3008
  | invalidAvpBits => 3009
  | unknownPeer => 3010
  | authenticationRejected => 4001
  | outOfSpace => 4002
  | electionLost => 4003
  | avpUnsupported => 5001
  | unknownSessionId => 5002
  | authorizationRejected => 5003
  | invalidAvpValue => 5004
  | missingAvp => 5005
  | resourcesExceeded => 5006
  | contradictingAvps => 5007
  | avpNotAllowed => 5008
  | avpOccursTooManyTimes => 5009
  | noCommonApplication => 5010
  | unsupportedVersion => 5011
  | unableToComply => 5012
  | invalidBitInHeader => 5013
  | invalidAvpLength => 5014
  | invalidMessageLength => 5015
  | invalidAvpBitCombo => 5016
  | noCommonSecurity => 5017

def name : ResultCode → String
  | multiRoundAuth => "MultiRoundAuth"
  | success => "Success"
  | limitedSuccess => "LimitedSuccess"
  | commandUnsupported => "CommandUnsupported"
  | unableToDeliver => "UnableToDeliver"
  | realmNotServed => "RealmNotServed"
  | tooBusy => "TooBusy"
  | loopDetected => "LoopDetected"
  | redirectIndication => "RedirectIndication"
  | applicationUnsupported => "ApplicationUnsupported"
  | invalidHdrBits => "InvalidHdrBits"
  | invalidAvpBits => "InvalidAvpBits"
  | unknownPeer => "UnknownPeer"
  | authenticationRejected => "AuthenticationRejected"
  | outOfSpace => "OutOfSpace"
  | electionLost => "ElectionLost"
  | avpUnsupported => "AvpUnsupported"
  | unknownSessionId => "UnknownSessionId"
  | authorizationRejected => "AuthorizationRejected"
  | invalidAvpValue => "InvalidAvpValue"
  | missingAvp => "MissingAvp"
  | resourcesExceeded => "ResourcesExceeded"
  | contradictingAvps => "ContradictingAvps"
  | avpNotAllowed => "AvpNotAllowed"
  | avpOccursTooManyTimes => "AvpOccursTooManyTimes"
  | noCommonApplication => "NoCommonApplication"
  | unsupportedVersion => "UnsupportedVersion"
  | unableToComply => "UnableToComply"
  | invalidBitInHeader => "InvalidBitInHeader"
  | invalidAvpLength => "InvalidAvpLength"
  | invalidMessageLength => "InvalidMessageLength"
  | invalidAvpBitCombo => "InvalidAvpBitCombo"
  | noCommonSecurity => "NoCommonSecurity"

/-- Every value of the table, in numerical order. -/
def all : List ResultCode :=
  [multiRoundAuth, success, limitedSuccess, commandUnsupported, unableToDeliver, realmNotServed,
    tooBusy, loopDetected, redirectIndication, applicationUnsupported, invalidHdrBits,
    invalidAvpBits, unknownPeer, authenticationRejected, outOfSpace, electionLost, avpUnsupported,
    unknownSessionId, authorizationRejected, invalidAvpValue, missingAvp, resourcesExceeded,
    contradictingAvps, avpNotAllowed, avpOccursTooManyTimes, noCommonApplication,
    unsupportedVersion, unableToComply, invalidBitInHeader, invalidAvpLength,
    invalidMessageLength, invalidAvpBitCombo, noCommonSecurity]

/-- The table entry with a given number. -/
def ofCode (n : UInt32) : ResultCode := (all.find? (·.code == n)).getD unableToComply

theorem ofCode_code (r : ResultCode) : ofCode r.code = r := by
  cases r <;> decide

/-! ### Classes of numbers -/

def isSuccess (n : UInt32) : Bool := 2000 ≤ n && n ≤ 2999

def isProtocolError (n : UInt32) : Bool := 3000 ≤ n && n ≤ 3999

def isTransientFailure (n : UInt32) : Bool := 4000 ≤ n && n ≤ 4999

def isPermanentFailure (n : UInt32) : Bool := 5000 ≤ n && n ≤ 5999

/-- A protocol error is worth another attempt, save when the peer is a stranger. -/
def isRetryable (n : UInt32) : Bool := isProtocolError n && n != unknownPeer.code

end ResultCode

end Diameter
