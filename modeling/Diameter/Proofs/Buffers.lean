import Diameter.Message.Frame
import Diameter.Proofs.AvpCodec

/-!
A message out of a buffer, and one off a stream.

A buffer is there as a whole, so its header is read first and then as much as the header announces
(`Message.decode`). A stream gives a header's worth of octets, then those of the body, and only if
they are not too many (`Frame.readMessage`). Both look at the same octets. What is not there is a
buffer that is too small for the one, and an early end for the other. Main statement:
`Frame.readMessage_agrees`.
-/

namespace Diameter

lemma Header.decode_append_of_length {head : Octets} (hl : head.length = Header.size)
    (rest : Octets) :
    Header.decode (head ++ rest) = (Header.decode head).map fun x => (x.1, x.2.1, rest) := by
  have hs : Octets.split? Header.size head = some (head, []) :=
    Octets.split?_eq_some.mpr ⟨hl, (List.append_nil head).symm⟩
  rw [Header.decode, Header.decode, Avp.split?_append hl, hs]
  dsimp only
  split
  · rfl
  · split <;> rfl

namespace Frame

lemma not_short {head : Octets} (hl : head.length = Header.size) (rest : Octets) :
    ¬ (head ++ rest).length < Header.size := by
  rw [List.length_append, hl]
  omega

/-- The octets begin with a legal header, and it announces more than fits. -/
def Oversized (max : Nat) (b : Octets) : Prop :=
  ∃ h n rest, Header.decode b = .ok (h, n, rest) ∧ max < n

/-- The octets end inside the header, or inside the body that it announces: so many are needed
there, and so many are there. -/
inductive CutShort (b : Octets) : Nat → Nat → Prop
  | header (hb : b.length < Header.size) : CutShort b Header.size b.length
  | body {h : Header} {n : Nat} {rest : Octets} (hd : Header.decode b = .ok (h, n, rest))
    (hr : rest.length < n - Header.size) : CutShort b (n - Header.size) rest.length

/-- How a buffer and a stream fare with the same octets: what is read from each, and what the
buffer leaves, and the stream. -/
inductive Concurs (b : Octets) : Except Failure (Message × Octets) →
    Except Failure Message × Octets → Prop
  /-- Both give the message, and leave the same. -/
  | message (m : Message) (rest : Octets) : Concurs b (.ok (m, rest)) (.ok m, rest)
  /-- Both fail alike. -/
  | failure {e : Failure} (hb : ∀ needed available, ¬ CutShort b needed available)
    (rest : Octets) : Concurs b (.error e) (.error e, rest)
  /-- There is too little for either. -/
  | short {needed available : Nat} (hb : CutShort b needed available) (rest : Octets) :
    Concurs b (.error (.shortBuffer needed available)) (.error (.stream .earlyEof), rest)

variable {max : Nat} {b : Octets}

lemma readMessage_of_short (h : b.length < Header.size) :
    readMessage max b = (.error (.stream .earlyEof), []) := by
  rw [readMessage, read, next, Octets.split?_eq_none.mpr h]

lemma decode_of_short (h : b.length < Header.size) :
    Message.decode b = .error (.shortBuffer Header.size b.length) := by
  rw [Message.decode, Header.decode, Octets.split?_eq_none.mpr h]

section Header

variable {head rest : Octets}

lemma concurs_of_illegal {e : Failure} (hl : head.length = Header.size)
    (he : Header.decode head = .error e) :
    Concurs (head ++ rest) (Message.decode (head ++ rest)) (readMessage max (head ++ rest)) := by
  have hd : Header.decode (head ++ rest) = .error e := by
    rw [Header.decode_append_of_length hl, he]
    rfl
  have hm : Message.decode (head ++ rest) = .error e := by rw [Message.decode, hd]
  have hr : readMessage max (head ++ rest) = (.error e, rest) := by
    simp only [readMessage, read, next, Avp.split?_append hl, he]
  rw [hm, hr]
  refine .failure (fun k j hc => ?_) rest
  cases hc with
  | header hb => exact absurd hb (not_short hl rest)
  | body hd' => exact absurd (hd.symm.trans hd') (by simp)

variable {h : Header} {n : Nat} {r : Octets}

lemma readMessage_of_oversized (hl : head.length = Header.size)
    (hd : Header.decode head = .ok (h, n, r)) (hn : max < n) :
    readMessage max (head ++ rest) = (.error (.invalidMessage .badLength), rest) := by
  simp only [readMessage, read, next, Avp.split?_append hl, hd, if_pos hn]

lemma concurs_of_legal (hl : head.length = Header.size)
    (hh : Header.decode head = .ok (h, n, r)) (hn : n ≤ max) :
    Concurs (head ++ rest) (Message.decode (head ++ rest)) (readMessage max (head ++ rest)) := by
  have hd : Header.decode (head ++ rest) = .ok (h, n, rest) := by
    rw [Header.decode_append_of_length hl, hh]
    rfl
  rw [Message.decode, hd]
  dsimp only
  cases hs : Octets.split? (n - Header.size) rest with
  | none =>
    have hr : readMessage max (head ++ rest) = (.error (.stream .earlyEof), []) := by
      simp only [readMessage, read, next, Avp.split?_append hl, hh, if_neg (Nat.not_lt.mpr hn), hs]
    rw [hr]
    exact .short (.body hd (Octets.split?_eq_none.mp hs)) []
  | some p =>
    obtain ⟨body, rest'⟩ := p
    have hr : readMessage max (head ++ rest) = (Message.ofBody h body, rest') := by
      simp only [readMessage, read, next, Avp.split?_append hl, hh, if_neg (Nat.not_lt.mpr hn), hs]
    rw [hr]
    dsimp only
    cases Message.ofBody h body with
    | ok m => exact .message m rest'
    | error e =>
      refine .failure (fun k j hc => ?_) rest'
      obtain ⟨hb, rfl⟩ := Octets.split?_eq_some.mp hs
      cases hc with
      | header hc => exact absurd hc (not_short hl _)
      | body hd' hlt =>
        obtain ⟨-, ht⟩ := Prod.mk.inj (Except.ok.inj (hd.symm.trans hd'))
        obtain ⟨rfl, rfl⟩ := Prod.mk.inj ht
        simp only [List.length_append] at hlt
        omega

end Header

lemma short_or_header (b : Octets) : b.length < Header.size ∨
    ∃ head rest, b = head ++ rest ∧ head.length = Header.size := by
  rcases Nat.lt_or_ge b.length Header.size with h | h
  · exact .inl h
  · exact .inr ⟨b.take Header.size, b.drop Header.size, (List.take_append_drop _ b).symm,
      List.length_take_of_le h⟩

lemma concurs (h : ¬ Oversized max b) : Concurs b (Message.decode b) (readMessage max b) := by
  rcases short_or_header b with hb | ⟨head, rest, rfl, hl⟩
  · rw [decode_of_short hb, readMessage_of_short hb]
    exact .short (.header hb) []
  · cases hd : Header.decode head with
    | error e => exact concurs_of_illegal hl hd
    | ok x =>
      obtain ⟨k, n, r⟩ := x
      refine concurs_of_legal hl hd (Nat.le_of_not_lt fun hn => h ⟨k, n, rest, ?_, hn⟩)
      rw [Header.decode_append_of_length hl, hd]
      rfl

/-- **A stream and a buffer agree.** Unless a legal header announces more than `max` octets, a
message is read off a stream of these octets exactly if it is read out of a buffer with them, and
the same is left; or else both fail with the same failure, save that where the octets end inside the
header or inside the body the buffer is too small and the stream has ended early. What is announced
as too long is not read off a stream: the header is taken from it, and nothing behind it. -/
theorem readMessage_agrees (max : Nat) (b : Octets) :
    (¬ Oversized max b → Concurs b (Message.decode b) (readMessage max b)) ∧
      (Oversized max b →
        readMessage max b = (.error (.invalidMessage .badLength), b.drop Header.size)) := by
  refine ⟨concurs, ?_⟩
  rintro ⟨h, n, r, hd, hn⟩
  rcases short_or_header b with hb | ⟨head, rest, rfl, hl⟩
  · rw [Header.decode, Octets.split?_eq_none.mpr hb] at hd
    cases hd
  · rw [Header.decode_append_of_length hl] at hd
    cases hh : Header.decode head with
    | error e =>
      rw [hh] at hd
      cases hd
    | ok x =>
      rw [hh] at hd
      obtain ⟨rfl, ht⟩ := Prod.mk.inj (Except.ok.inj hd)
      obtain ⟨rfl, -⟩ := Prod.mk.inj ht
      rw [readMessage_of_oversized hl hh hn, ← hl, List.drop_left]

lemma readMessage_of_decode {m : Message} {rest : Octets} (hd : Message.decode b = .ok (m, rest))
    (h : ¬ Oversized max b) : readMessage max b = (.ok m, rest) := by
  have hc := concurs h
  rw [hd] at hc
  generalize readMessage max b = r at hc ⊢
  cases hc
  rfl

end Frame

end Diameter
