import Diameter.Message

/-!
Cutting a byte stream into frames: a header and the body it announces.

`Frame.next` looks at the octets that have arrived; they may end anywhere. `Frame.read` looks
at a stream that has ended, and `Frame.readMessage` takes the message of the frame as well.
`Frame.deliveries` is all that a stream that has ended delivers.
-/

namespace Diameter

namespace Frame

/-- What the octets at the head of a stream amount to. -/
inductive Next where
  /-- More octets are needed. -/
  | unfinished
  | frame (header : Header) (body rest : Octets)
  /-- The header is read, and the stream is of no further use. -/
  | broken (failure : Failure) (rest : Octets)
  deriving Repr

/-- The frame at the head of a stream, for frames of at most `max` octets. -/
def next (max : Nat) (b : Octets) : Next :=
  match Octets.split? Header.size b with
  | none => .unfinished
  | some (head, rest) =>
    match Header.decode head with
    | .error e => .broken e rest
    | .ok (h, length, _) =>
      if length > max then .broken (.invalidMessage .badLength) rest
      else match Octets.split? (length - Header.size) rest with
        | none => .unfinished
        | some (body, rest) => .frame h body rest

/-- The first frame of a stream that has ended, and what is left unread. -/
def read (max : Nat) (b : Octets) : Except Failure (Header × Octets) × Octets :=
  match next max b with
  | .unfinished => (.error (.stream .earlyEof), [])
  | .frame h body rest => (.ok (h, body), rest)
  | .broken e rest => (.error e, rest)

/-- The first message of a stream that has ended, and what is left unread. -/
def readMessage (max : Nat) (b : Octets) : Except Failure Message × Octets :=
  match read max b with
  | (.ok (h, body), rest) => (Message.ofBody h body, rest)
  | (.error e, rest) => (.error e, rest)

/-- What a reader makes of one frame, or of the end of frames. -/
inductive Delivery where
  | message (m : Message)
  /-- The header is legal, the AVPs are not. -/
  | undecodable (header : Header) (failure : Failure)
  | ended (failure : Failure)
  deriving Repr

/-- Nothing is delivered behind it. -/
def Delivery.isLast : Delivery → Bool
  | .ended _ => true
  | .message _ | .undecodable _ _ => false

def Delivery.ofFrame (h : Header) (body : Octets) : Delivery :=
  match Message.ofBody h body with
  | .ok m => .message m
  | .error e => .undecodable h e

theorem length_rest_lt {max : Nat} {b : Octets} {h : Header} {body rest : Octets}
    (hn : next max b = .frame h body rest) : rest.length < b.length := by
  unfold next at hn
  split at hn
  · exact absurd hn (by simp)
  · rename_i head tail hs
    obtain ⟨hl, rfl⟩ := Octets.split?_eq_some.mp hs
    split at hn
    · exact absurd hn (by simp)
    · split at hn
      · exact absurd hn (by simp)
      · split at hn
        · exact absurd hn (by simp)
        · rename_i hs'
          obtain ⟨-, rfl⟩ := Octets.split?_eq_some.mp hs'
          simp only [Next.frame.injEq] at hn
          obtain ⟨-, -, rfl⟩ := hn
          simp only [List.length_append, hl, Header.size]
          omega

/-- Everything a stream delivers until it ends. -/
def deliveries (max : Nat) (b : Octets) : List Delivery :=
  match hn : next max b with
  | .unfinished => [.ended (.stream .earlyEof)]
  | .broken e _ => [.ended e]
  | .frame h body rest =>
    have := length_rest_lt hn
    .ofFrame h body :: deliveries max rest
termination_by b.length

end Frame

end Diameter
