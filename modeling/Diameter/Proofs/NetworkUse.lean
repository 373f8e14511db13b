import Diameter.Proofs.NetworkWork

/-!
What users of a network and far ends of its streams make of it.

Whatever they do, they touch the network, and let everything come to rest (`Network.Touch`). So what
lasts while things go on and when the network is touched holds of every network in use
(`Network.InUse`). Main statement: `Network.Lasting.inUse`.
-/

namespace Diameter

namespace Network

/-- One thing that a user or a far end does before everything comes to rest. -/
inductive Touch (w : Network) : Network → Prop
  /-- A connection is begun to dial a peer. -/
  | connect (expected : Option String) : Touch w (w.spawn expected .start).2
  /-- A connection is begun to take over a stream. -/
  | accept (name : String) (far : FarEnd) (cer : Message) :
    Touch w ((w.openStream name far).2.spawn cer.originHost? (.acceptedCer w.streams.size cer)).2
  | acceptStream (name : String) (far : FarEnd) :
    Touch w ((w.openStream name far).2.spawn none (.accepted w.streams.size)).2
  /-- A dial succeeds, and if nobody waits for it any more its stream is closed. -/
  | dialed (i : Nat) (name : String) (far : FarEnd) :
    Touch w ((w.openStream name far).2.post i .other (.dialed w.streams.size))
  | undialed (name : String) (far : FarEnd) :
    Touch w ((w.openStream name far).2.closeNear w.streams.size)
  | dialFailed (i : Nat) (text : String) : Touch w (w.post i .other (.dialFailed text))
  /-- A further stream of a peer is handed over. -/
  | incoming (i : Nat) (name : String) (far : FarEnd) (cer : Message) :
    Touch w ((w.openStream name far).2.post i .other (.acceptedCer w.streams.size cer))
  /-- A request is to be sent. -/
  | request (i : Nat) (m : Message) : Touch w (w.addSender i m)
  /-- Somebody is numbered. -/
  | ticket : Touch w w.ticket.2
  | stop (i id : Nat) (cause : DisconnectCause) : Touch w (w.post i .other (.stop id cause))
  /-- A stream is accepted, on which its far end has written, and that it may have left. -/
  | arrive (id deadline : Nat) (name : String) (b : Octets) (gone : Bool) :
    Touch w (
      let v := (w.openStream name {}).2.modifyStream w.streams.size fun s => { s with inbound := b }
      let v := if gone then v.modifyStream w.streams.size Stream.closeFar else v
      ({ v with acceptors := v.acceptors ++ [⟨id, w.streams.size, deadline, none⟩] } :
        Network).wake (.acceptor id))
  /-- The table begins a connection. -/
  | enroll (host : String) : Touch w { (w.spawn (some host) .start).2 with
      table := (w.spawn (some host) .start).2.table.insert host w.members.size }
  /-- The table forgets. -/
  | forget (table : PeerTable) : Touch w { w with table }
  | farWrite (s : Nat) (b : Octets) :
    Touch w ((w.modifyStream s fun s => { s with inbound := s.inbound ++ b }).wakeReaders s)
  | farRead (s : Nat) : Touch w (w.modifyStream s fun s => { s with farReads := true })
  | farClose (s : Nat) :
    Touch w (((w.modifyStream s Stream.closeFar).wakeReaders s).wakeWriter s)
  | look : Touch w w.look.2

/-- A network that users and far ends make of another. -/
inductive InUse (w₀ : Network) : Network → Prop
  | begin : InUse w₀ w₀
  | connect {v : Network} (h : InUse w₀ v) (expected : Option String) :
    InUse w₀ (v.connect expected)
  | accept {v : Network} (h : InUse w₀ v) (name : String) (far : FarEnd) (cer : Message) :
    InUse w₀ (v.accept name far cer)
  | acceptStream {v : Network} (h : InUse w₀ v) (name : String) (far : FarEnd) :
    InUse w₀ (v.acceptStream name far)
  | dialSucceeds {v : Network} (h : InUse w₀ v) (i : Nat) (name : String) (far : FarEnd) :
    InUse w₀ (v.dialSucceeds i name far)
  | dialFails {v : Network} (h : InUse w₀ v) (i : Nat) (text : String) :
    InUse w₀ (v.dialFails i text)
  | incoming {v : Network} (h : InUse w₀ v) (i : Nat) (name : String) (far : FarEnd)
    (cer : Message) : InUse w₀ (v.incoming i name far cer).2
  | send {v : Network} (h : InUse w₀ v) (i : Nat) (requests : List Message) :
    InUse w₀ (v.send i requests)
  | stop {v : Network} (h : InUse w₀ v) (i : Nat) (cause : DisconnectCause) :
    InUse w₀ (v.stop i cause)
  | tableAccept {v : Network} (h : InUse w₀ v) (b : Octets) (gone : Bool) :
    InUse w₀ (v.tableAccept b gone)
  | tableConnect {v : Network} (h : InUse w₀ v) (host : String) : InUse w₀ (v.tableConnect host).2.2
  | tableRemove {v : Network} (h : InUse w₀ v) (host : String) : InUse w₀ (v.tableRemove host)
  | tableHosts {v : Network} (h : InUse w₀ v) : InUse w₀ v.tableHosts.2
  | farWrite {v : Network} (h : InUse w₀ v) (name : String) (b : Octets) :
    InUse w₀ (v.farWrite name b).2
  | farRead {v : Network} (h : InUse w₀ v) (name : String) : InUse w₀ (v.farRead name)
  | farClose {v : Network} (h : InUse w₀ v) (name : String) : InUse w₀ (v.farClose name)
  | advance {v : Network} (h : InUse w₀ v) (ms : Nat) : InUse w₀ (v.advance ms)
  | look {v : Network} (h : InUse w₀ v) : InUse w₀ v.look.2

namespace Lasting

variable {P : Network → Prop} {w w₀ : Network} (h : Lasting P)
  (ht : ∀ {w w' : Network}, P w → w.Touch w' → P w')

include h ht

lemma send (hw : P w) (i : Nat) (requests : List Message) : P (w.send i requests) := by
  refine h.settle ?_
  induction requests generalizing w with
  | nil => exact hw
  | cons m requests ih => exact ih (ht hw (.request i m))

lemma farWriteTo (hw : P w) (i : Nat) (b : Octets) : P (w.farWriteTo i b).2 := by
  fun_induction Network.farWriteTo i b w with
  | case1 | case2 | case3 | case4 => exact hw
  | case5 w c b s _ _ _ n v _ ih => exact ih (h.settle (ht hw (.farWrite i _)))

/-- What lasts holds of every network in use. -/
theorem inUse (h₀ : P w₀) (hw : InUse w₀ w) : P w := by
  induction hw with
  | begin => exact h₀
  | connect _ expected ih => exact h.settle (ht ih (.connect expected))
  | accept _ name far cer ih => exact h.settle (ht ih (.accept name far cer))
  | acceptStream _ name far ih => exact h.settle (ht ih (.acceptStream name far))
  | dialSucceeds _ i name far ih =>
    refine h.settle ?_
    -- the stream is closed at once if the member no longer dials
    split
    · exact ht ih (.dialed i name far)
    · exact ht ih (.undialed name far)
  | dialFails _ i text ih =>
    refine h.settle ?_
    split
    · exact ht ih (.dialFailed i text)
    · exact ih
  | incoming _ i name far cer ih => exact h.settle (ht ih (.incoming i name far cer))
  | send _ i requests ih => exact h.send ht ih i requests
  | stop _ i cause ih => exact h.settle (ht (ht ih .ticket) (.stop i _ cause))
  | tableAccept _ b gone ih => exact h.settle (ht (ht ih .ticket) (.arrive _ _ _ b gone))
  | @tableConnect v _ host ih =>
    have hp := ht (ht ih .ticket) (.forget (v.table.prune v.isLive))
    unfold Network.tableConnect
    dsimp only
    split
    · -- the host is served already
      exact hp
    · exact h.settle (ht hp (.enroll host))
  | tableRemove _ host ih => exact ht ih (.forget _)
  | tableHosts _ ih => exact ht ih (.forget _)
  | farWrite _ name b ih =>
    unfold Network.farWrite
    split
    · exact ih
    · exact h.farWriteTo ht ih _ b
  | farRead _ name ih =>
    unfold Network.farRead
    split
    · exact ih
    · exact h.settle (ht ih (.farRead _))
  | farClose _ name ih =>
    unfold Network.farClose
    split
    · exact ih
    · exact h.settle (ht ih (.farClose _))
  | advance _ ms ih => exact h.advance ms ih
  | look _ ih => exact ht ih .look

end Lasting

end Network

end Diameter
