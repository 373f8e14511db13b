import Diameter.ResultCode
import Diameter.Phase

/-!
Everything that can go wrong, as causes.

A cause has a wording (`Failure.message`), a Result-Code for the answer that reports it
(`Failure.resultCode`) and, when one AVP is to blame, that AVP's code (`Failure.avpCode?`).
-/

namespace Diameter

/-- What is wrong with an AVP. -/
inductive AvpFault where
  | badBits
  | badValue
  | badLength
  | tooManyOccurrences
  | unsupported
  | missing
  deriving DecidableEq, Repr, Inhabited

/-- What is wrong with a message as a whole. -/
inductive MessageFault where
  | badHeaderBits
  | unsupportedCommand
  | unsupportedApplication
  | unsupportedVersion
  | badLength
  deriving DecidableEq, Repr, Inhabited

/-- What went wrong on a byte stream. -/
inductive StreamFault where
  /-- The stream ended inside what was being read. -/
  | earlyEof
  /-- The far end is gone. -/
  | brokenPipe
  | other (text : String)
  deriving DecidableEq, Repr, Inhabited

/-- What is wrong with a node's settings. -/
inductive SettingsFault where
  | badHost (host : String)
  | badRealm (realm : String)
  | noAddress
  /-- The document that should hold them cannot be read. -/
  | unreadable
  | other (text : String)
  deriving DecidableEq, Repr, Inhabited

inductive Failure where
  | invalidAvp (code : UInt32) (fault : AvpFault)
  | invalidMessage (fault : MessageFault)
  /-- Something happened that the phase has no use for. -/
  | notAcceptable (phase : Phase) (event : String)
  /-- An answer to nothing that was asked. -/
  | unknownAnswer (hopByHop : UInt32)
  /-- The peer answered with a Result-Code other than success. -/
  | answered (code : UInt32)
  | unknownPeer (host : String)
  | watchdogExpired (missed : UInt32)
  | refused (text : String)
  | closed
  | timeout
  | shortBuffer (needed available : Nat)
  | stream (fault : StreamFault)
  | settings (fault : SettingsFault)
  deriving DecidableEq, Repr, Inhabited

namespace AvpFault

def name : AvpFault → String
  | badBits => "BadBits"
  | badValue => "BadValue"
  | badLength => "BadLength"
  | tooManyOccurrences => "TooManyOccurrences"
  | unsupported => "Unsupported"
  | missing => "Missing"

def resultCode : AvpFault → ResultCode
  | badBits => .invalidAvpBits
  | badValue => .invalidAvpValue
  | badLength => .invalidAvpLength
  | tooManyOccurrences => .avpOccursTooManyTimes
  | unsupported => .avpUnsupported
  | missing => .missingAvp

end AvpFault

namespace MessageFault

def name : MessageFault → String
  | badHeaderBits => "BadHeaderBits"
  | unsupportedCommand => "UnsupportedCommand"
  | unsupportedApplication => "UnsupportedApplication"
  | unsupportedVersion => "UnsupportedVersion"
  | badLength => "BadLength"

def resultCode : MessageFault → ResultCode
  | badHeaderBits => .invalidHdrBits
  | unsupportedCommand => .commandUnsupported
  | unsupportedApplication => .applicationUnsupported
  | unsupportedVersion => .unsupportedVersion
  | badLength => .invalidMessageLength

end MessageFault

def StreamFault.message : StreamFault → String
  | earlyEof => "early eof"
  | brokenPipe => "broken pipe"
  | other text => text

def SettingsFault.message : SettingsFault → String
  | badHost host => s!"invalid diameter_id '{host}'"
  | badRealm realm => s!"invalid diameter_realm '{realm}'"
  | noAddress => "no Host-IP-Address configured"
  | unreadable => "unreadable document"
  | other text => text

namespace Failure

/-- A word as eight hexadecimal digits. -/
def hexWord (w : UInt32) : String :=
  let digits := Nat.toDigits 16 w.toNat
  String.ofList (List.replicate (8 - digits.length) '0' ++ digits)

def message : Failure → String
  | invalidAvp code fault => s!"Invalid AVP {code}: {fault.name}"
  | invalidMessage fault => s!"Invalid message: {fault.name}"
  | notAcceptable phase event => s!"Event {event} not acceptable in state {phase.name}"
  | unknownAnswer hopByHop => s!"Answer with unknown Hop-by-Hop id 0x{hexWord hopByHop}"
  | answered code => s!"Answer carries Result-Code {code}"
  | unknownPeer host => s!"Message from unknown peer {host}"
  | watchdogExpired missed => s!"Watchdog expired after {missed} missed answers"
  | refused text => s!"Connection refused: {text}"
  | closed => "Connection closed"
  | timeout => "Timed out"
  | shortBuffer needed available => s!"Buffer too small: need {needed}, have {available}"
  | stream fault => s!"IO error: {fault.message}"
  | settings fault => s!"Configuration error: {fault.message}"

/-- The Result-Code of an answer that reports the failure. -/
def resultCode : Failure → ResultCode
  | invalidAvp _ fault => fault.resultCode
  | invalidMessage fault => fault.resultCode
  | notAcceptable _ _ => .unableToComply
  | unknownAnswer _ => .unableToComply
  | answered code => .ofCode code
  | unknownPeer _ => .unknownPeer
  | watchdogExpired _ => .unableToDeliver
  | refused _ => .unableToDeliver
  | closed => .unableToDeliver
  | timeout => .unableToDeliver
  | shortBuffer _ _ => .invalidMessageLength
  | stream _ => .unableToDeliver
  | settings _ => .unableToComply

/-- The AVP to blame. -/
def avpCode? : Failure → Option UInt32
  | invalidAvp code _ => some code
  | _ => none

end Failure

end Diameter
