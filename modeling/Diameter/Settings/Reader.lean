import Diameter.Address.Text
import Diameter.Document.Layout
import Diameter.Settings

/-!
Settings as a document: a map with a key for each of them.

Every key may be left out, and then the setting has its default; keys that mean nothing are passed
over. A key must not be given twice, and numbers must not be quoted.
-/

namespace Diameter

namespace Settings

/-- A plain number below a bound. -/
def number? (bound : Nat) : Document → Option Nat
  | .scalar true s => (Numeral.unsigned? s.toList).filter (· < bound)
  | _ => none

def word? (d : Document) : Option UInt32 := (number? UInt32.size d).map UInt32.ofNat

def long? (d : Document) : Option Nat := number? UInt64.size d

/-- Nothing at all, in any of its spellings. -/
def isNull : Document → Bool
  | .scalar true s => ["", "~", "null", "Null", "NULL"].contains s
  | _ => false

/-- A word that may be missing. -/
def wordOrNull? (d : Document) : Option (Option UInt32) :=
  if isNull d then some none else (word? d).map some

/-- The setting under a key, if it is given. -/
def setting? {α : Type} (fields : List (String × Document)) (key : String)
    (read : Document → Option α) : Option (Option α) :=
  match fields.filter (·.1 = key) with
  | [] => some none
  | [(_, d)] => (read d).map some
  | _ => none

/-- The setting under a key, or its default. -/
def settingD {α : Type} (fields : List (String × Document)) (key : String)
    (read : Document → Option α) (default : α) : Option α :=
  (setting? fields key read).map (·.getD default)

def address? (d : Document) : Option Address := d.text?.bind Address.ofText?

def kind? (d : Document) : Option ApplicationKind :=
  match d with
  | .scalar _ "auth" => some .auth
  | .scalar _ "acct" => some .acct
  | _ => none

/-- Only the id of an application has to be given. -/
def application? (d : Document) : Option Application := do
  let fields ← d.fields?
  let vendor ← settingD fields "vendor_id" word? 0
  let id ← setting? fields "id" word?
  let kind ← settingD fields "kind" kind? .auth
  return ⟨vendor, ← id, kind⟩

def peerSettings? (d : Document) : Option PeerSettings := do
  let fields ← d.fields?
  let given : PeerSettings := {}
  return {
    watchdogInterval := ← settingD fields "watchdog_interval_ms" long? given.watchdogInterval
    watchdogLimit := ← settingD fields "watchdog_expired_limit" word? given.watchdogLimit
    sendTimeout := ← settingD fields "send_timeout_ms" long? given.sendTimeout
    retries := ← settingD fields "retries" word? given.retries
    queueSize := ← settingD fields "event_queue_size" long? given.queueSize
    maxMessageSize := ← settingD fields "max_message_size" long? given.maxMessageSize }

/-- A list, each of whose items is read alike. -/
def all? {α : Type} (read : Document → Option α) (d : Document) : Option (List α) :=
  d.items?.bind (·.mapM read)

def ofDocument? (d : Document) : Option Settings := do
  let fields ← d.fields?
  let given : Settings := {}
  return {
    host := ← settingD fields "diameter_id" Document.text? given.host
    realm := ← settingD fields "diameter_realm" Document.text? given.realm
    addresses := ← settingD fields "addresses" (all? address?) given.addresses
    vendor := ← settingD fields "vendor_id" word? given.vendor
    product := ← settingD fields "product_name" Document.text? given.product
    firmware := ← settingD fields "firmware_revision" wordOrNull? given.firmware
    applications := ← settingD fields "applications" (all? application?) given.applications
    peer := ← settingD fields "peer" peerSettings? given.peer }

/-- The settings that a text holds. -/
def read (text : String) : Except Failure Settings :=
  match (Document.ofText? text).bind ofDocument? with
  | some s => .ok s
  | none => .error (.settings .unreadable)

end Settings

end Diameter
