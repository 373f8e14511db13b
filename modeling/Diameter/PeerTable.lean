import Diameter.Capabilities

/-!
The connections of a node by the peer's host, at most one live one for each.

Hosts are keys up to ASCII case. Whether a connection is live is not for the table to know, so
the operations that depend on it take it as an argument.
-/

namespace Diameter

/-- Connections, named by numbers, under hosts in lower case. -/
structure PeerTable where
  entries : List (String × Nat) := []
  deriving Repr

namespace PeerTable

def get? (t : PeerTable) (host : String) : Option Nat := t.entries.lookup (Identity.lower host)

def erase (t : PeerTable) (host : String) : PeerTable :=
  ⟨t.entries.filter (·.1 != Identity.lower host)⟩

def insert (t : PeerTable) (host : String) (connection : Nat) : PeerTable :=
  ⟨(t.erase host).entries ++ [(Identity.lower host, connection)]⟩

/-- Forgets connections that are shut down. -/
def prune (live : Nat → Bool) (t : PeerTable) : PeerTable := ⟨t.entries.filter (live ·.2)⟩

/-- Hosts of open connections. -/
def hosts (isOpen : Nat → Bool) (t : PeerTable) : List String :=
  (t.entries.filter (isOpen ·.2)).map (·.1)

/-- What becomes of an accepted stream, given its first frame. -/
inductive Admission where
  /-- The stream is closed, after an answer if there is one. -/
  | refused (failure : Failure) (answer : Option Message)
  /-- The request names no host: a connection of its own will turn it away. -/
  | unnamed (cer : Message)
  | named (host : String) (cer : Message)
  deriving Repr

/-- Only a capabilities-exchange request lets a stream in. -/
def screen (n : Node) (h : Header) (body : Octets) : Admission :=
  match Message.ofBody h body with
  | .error e => .refused e (if h.isRequest then some (n.headerErrorAnswer h e) else none)
  | .ok cer =>
    if !cer.isCer then .refused (.notAcceptable .closed "R-Conn-Non-CER") none
    else match cer.originHost? with
      | none => .unnamed cer
      | some host => .named host cer

end PeerTable

end Diameter
