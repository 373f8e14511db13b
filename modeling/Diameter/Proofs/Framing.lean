import Mathlib.Logic.Function.Iterate
import Diameter.Network.Run
import Diameter.Proofs.Padding

/-!
Frames of a stream, and what is left of it behind each.

A reader takes what has arrived, in whatever pieces, and delivers the frames that are complete, one
by one. What it has taken of a frame that is not complete it keeps (`Network.Stream.unread`), so the
pieces do not matter: the deliveries so far and the octets that are unread or still to come make up
the stream at all times (`Network.Reading.Sound`). A frame counts as such whatever its body says; a
stream ends where a header is illegal or announces too much, or with the far end. Main statement:
`Network.Reading.Reached.delivers_frames`.
-/

namespace Diameter

namespace Frame

/-- A legal header and a body as long as it announces, not too long as a whole. -/
structure Complete (max : Nat) where
  head : Octets
  header : Header
  body : Octets
  legal : Header.decode head = .ok (header, Header.size + body.length, [])
  fits : Header.size + body.length ≤ max

namespace Complete

variable {max : Nat} (f : Complete max)

def octets : Octets := f.head ++ f.body

def delivery : Delivery := .ofFrame f.header f.body

lemma length_head : f.head.length = Header.size := by
  obtain ⟨-, -, -, -, -, h⟩ := Header.decode_eq_ok_iff.mp f.legal
  simp [h]

lemma length_octets : f.octets.length = Header.size + f.body.length := by
  rw [octets, List.length_append, f.length_head]

lemma isLast_delivery : f.delivery.isLast = false := by
  rw [delivery, Delivery.ofFrame]
  split <;> rfl

end Complete

/-- What octets amount to at the head of a stream, for frames of at most `max` octets. -/
inductive Yields (max : Nat) : Octets → Next → Prop
  | frame (f : Complete max) (rest : Octets) :
    Yields max (f.octets ++ rest) (.frame f.header f.body rest)
  | illegal {head : Octets} {e : Failure} (hl : head.length = Header.size)
    (h : Header.decode head = .error e) (rest : Octets) : Yields max (head ++ rest) (.broken e rest)
  | tooLong {head r : Octets} {h : Header} {n : Nat} (hl : head.length = Header.size)
    (hd : Header.decode head = .ok (h, n, r)) (hn : max < n) (rest : Octets) :
    Yields max (head ++ rest) (.broken (.invalidMessage .badLength) rest)
  | short {b : Octets} (h : b.length < Header.size) : Yields max b .unfinished
  /-- Part of a frame. -/
  | cut {b : Octets} (f : Complete max) (h : b <+: f.octets) (hne : b ≠ f.octets) :
    Yields max b .unfinished

variable {max : Nat} {b rest : Octets} {n : Next} {e : Failure}

lemma Yields.of_lt {head r : Octets} {h : Header} {k : Nat} (hl : head.length = Header.size)
    (hd : Header.decode head = .ok (h, k, r)) (hk : k ≤ max)
    (hlt : rest.length < k - Header.size) : Yields max (head ++ rest) .unfinished := by
  let body := rest ++ List.replicate (k - Header.size - rest.length) 0
  have hb : Header.size + body.length = k := by
    rw [List.length_append, List.length_replicate]
    omega
  have hr : r = [] := by
    obtain ⟨-, -, -, -, -, rfl⟩ := Header.decode_eq_ok_iff.mp hd
    simpa using hl
  let f : Complete max := ⟨head, h, body, by rw [hd, hb, hr], hb ▸ hk⟩
  have hp : head ++ rest <+: f.octets := ⟨_, List.append_assoc ..⟩
  refine .cut f hp fun he => ?_
  have hlen : (head ++ rest).length = Header.size + body.length := he ▸ f.length_octets
  rw [List.length_append, hl] at hlen
  omega

/-- What there is at the head of a stream is what is found there. -/
theorem next_eq_iff : next max b = n ↔ Yields max b n := by
  constructor
  · rintro rfl
    unfold next
    split
    · -- the header has not come whole
      rename_i hs
      exact .short (Octets.split?_eq_none.mp hs)
    rename_i head rest hs
    obtain ⟨hl, rfl⟩ := Octets.split?_eq_some.mp hs
    split
    · -- the header is illegal
      rename_i e he
      exact .illegal hl he rest
    rename_i h k r hd
    split
    · -- the length is over the limit
      rename_i hk
      exact .tooLong hl hd hk rest
    rename_i hk
    split
    · -- the rest of the frame has not come whole
      rename_i hs
      exact .of_lt hl hd (Nat.le_of_not_lt hk) (Octets.split?_eq_none.mp hs)
    · rename_i body rest hs
      obtain ⟨hb, rfl⟩ := Octets.split?_eq_some.mp hs
      obtain ⟨-, -, hk', -, -, he⟩ := Header.decode_eq_ok_iff.mp hd
      have hr : r = [] := List.length_eq_zero_iff.mp (by simpa [hl] using congrArg List.length he)
      have hn : Header.size + body.length = k := by omega
      subst hr hn
      rw [← List.append_assoc]
      exact .frame ⟨head, h, body, hd, Nat.le_of_not_lt hk⟩ rest
  · intro h
    cases h with
    | frame f rest =>
      -- both parts are there, and the length is that of the body
      rw [next, Complete.octets, List.append_assoc, Avp.split?_append f.length_head]
      dsimp only
      rw [f.legal]
      dsimp only
      rw [if_neg (Nat.not_lt.mpr f.fits),
        Avp.split?_append (Nat.add_sub_cancel_left Header.size f.body.length).symm]
    | illegal hl h rest =>
      rw [next, Avp.split?_append hl]
      dsimp only
      rw [h]
    | tooLong hl hd hn rest =>
      rw [next, Avp.split?_append hl]
      dsimp only
      rw [hd]
      dsimp only
      rw [if_pos hn]
    | short h => rw [next, Octets.split?_eq_none.mpr h]
    -- what has come ends within the header or within the body
    | cut f h hne =>
      rcases Nat.lt_or_ge b.length Header.size with hlt | hge
      · rw [next, Octets.split?_eq_none.mpr hlt]
      obtain ⟨d, rfl⟩ : f.head <+: b :=
        List.prefix_of_prefix_length_le ⟨f.body, rfl⟩ h (f.length_head ▸ hge)
      have hlt : d.length < f.body.length := by
        have hlen := Nat.lt_of_le_of_ne h.length_le fun hl => hne (h.eq_of_length hl)
        rw [f.length_octets, List.length_append, f.length_head] at hlen
        omega
      rw [next, Avp.split?_append f.length_head]
      dsimp only
      rw [f.legal]
      dsimp only
      rw [if_neg (Nat.not_lt.mpr f.fits), Octets.split?_eq_none.mpr (by omega)]

lemma next_append_of_frame {h : Header} {body c : Octets} (hn : next max b = .frame h body rest) :
    next max (b ++ c) = .frame h body (rest ++ c) := by
  cases next_eq_iff.mp hn with
  | frame f rest =>
    rw [List.append_assoc]
    exact next_eq_iff.mpr (.frame f _)

lemma next_append_of_broken {c : Octets} (hn : next max b = .broken e rest) :
    next max (b ++ c) = .broken e (rest ++ c) := by
  cases next_eq_iff.mp hn with
  | illegal hl h rest =>
    rw [List.append_assoc]
    exact next_eq_iff.mpr (.illegal hl h _)
  | tooLong hl hd hn rest =>
    rw [List.append_assoc]
    exact next_eq_iff.mpr (.tooLong hl hd ‹_› _)

/-- Why nothing more is read. -/
def Next.failure? : Next → Option Failure
  | .unfinished => some (.stream .earlyEof)
  | .broken e _ => some e
  | .frame _ _ _ => none

/-- Octets with no frame at their head, and what a reader makes of that once no more octets
come. -/
def Ends (max : Nat) (b : Octets) (e : Failure) : Prop :=
  ∃ n, Yields max b n ∧ n.failure? = some e

lemma Ends.failure? (h : Ends max b e) : (next max b).failure? = some e := by
  obtain ⟨n, hn, he⟩ := h
  rwa [next_eq_iff.mpr hn]

lemma next_frame (f : Complete max) (rest : Octets) :
    next max (f.octets ++ rest) = .frame f.header f.body rest :=
  next_eq_iff.mpr (.frame f rest)

section Left

variable {left : List (Complete max)} {tail : Octets}

lemma exists_cons_of_next {h : Header} {body : Octets} (he : Ends max tail e)
    (hn : next max (left.flatMap Complete.octets ++ tail) = .frame h body rest) :
    ∃ f fs, left = f :: fs ∧ Delivery.ofFrame h body = f.delivery ∧
      rest = fs.flatMap Complete.octets ++ tail := by
  cases left with
  | nil =>
    have hf := he.failure?
    rw [List.flatMap_nil, List.nil_append] at hn
    rw [hn] at hf
    cases hf
  | cons f fs =>
    rw [List.flatMap_cons, List.append_assoc, next_frame] at hn
    cases hn
    exact ⟨f, fs, rfl, rfl, rfl⟩

lemma eq_nil_of_next {e' : Failure} (he : Ends max tail e)
    (hn : (next max (left.flatMap Complete.octets ++ tail)).failure? = some e') :
    left = [] ∧ e' = e := by
  cases left with
  | nil =>
    have hf := he.failure?
    rw [List.flatMap_nil, List.nil_append, hf] at hn
    exact ⟨rfl, (Option.some.inj hn).symm⟩
  | cons f fs =>
    rw [List.flatMap_cons, List.append_assoc, next_frame] at hn
    cases hn

end Left

/-- Whatever octets there are, they are frames and an end. -/
theorem exists_frames (max : Nat) (b : Octets) : ∃ (fs : List (Complete max)) (tail : Octets)
    (e : Failure), b = fs.flatMap Complete.octets ++ tail ∧ Ends max tail e := by
  induction hk : b.length using Nat.strongRecOn generalizing b with
  | ind k ih =>
    have hy : Yields max b (next max b) := next_eq_iff.mp rfl
    cases hn : next max b with
    | unfinished => exact ⟨[], b, _, rfl, _, hn ▸ hy, rfl⟩
    | broken e rest => exact ⟨[], b, e, rfl, _, hn ▸ hy, rfl⟩
    | frame h body rest =>
      obtain ⟨fs, tail, e, hr, he⟩ := ih rest.length (hk ▸ length_rest_lt hn) rest rfl
      cases hn ▸ hy with
      | frame f rest =>
        exact ⟨f :: fs, tail, e, by rw [List.flatMap_cons, List.append_assoc, hr], he⟩

/-- A stream that is read at once delivers its frames, and that it has ended. -/
theorem deliveries_frames (fs : List (Complete max)) (h : Ends max b e) :
    deliveries max (fs.flatMap Complete.octets ++ b) = fs.map Complete.delivery ++ [.ended e] := by
  induction fs with
  | nil =>
    have he := h.failure?
    rw [List.flatMap_nil, List.nil_append, deliveries]
    split <;> rename_i hn <;> rw [hn] at he <;> cases he <;> rfl
  | cons f fs ih =>
    have hn := next_eq_iff.mpr (.frame f (fs.flatMap Complete.octets ++ b))
    rw [List.flatMap_cons, List.append_assoc, deliveries]
    split <;> rename_i hn' <;> rw [hn] at hn' <;> cases hn'
    rw [ih]
    rfl

/-- What a frame is to a connection. -/
def Complete.event (link : Nat) (f : Complete max) : Event :=
  match Message.ofBody f.header f.body with
  | .ok m => .received link m
  | .error e => .receivedInvalid link f.header e

end Frame

namespace Network

open Diameter.Frame (Complete Delivery Ends)

lemma eventOf_delivery {max : Nat} (link : Nat) (f : Complete max) :
    eventOf link f.delivery = f.event link := by
  rw [Complete.delivery, Delivery.ofFrame, Complete.event]
  cases Message.ofBody f.header f.body <;> rfl

namespace Stream

/-- Octets that have arrived and belong to no frame that was delivered. -/
def unread (s : Stream) : Octets := s.begun ++ s.inbound

variable {max : Nat} {s : Stream} {h : Header} {body rest : Octets} {e : Failure}

lemma deliver_of_frame (hn : Frame.next max s.unread = .frame h body rest) :
    s.deliver max = (some (.ofFrame h body), { s with begun := [], inbound := rest }) := by
  have hn : Frame.next max (s.begun ++ s.inbound) = .frame h body rest := hn
  simp only [deliver, read, hn]

lemma deliver_of_broken (hn : Frame.next max s.unread = .broken e rest) :
    s.deliver max = (some (.ended e), { s with begun := [], inbound := rest }) := by
  have hn : Frame.next max (s.begun ++ s.inbound) = .broken e rest := hn
  simp only [deliver, read, hn]

lemma deliver_of_unfinished (hn : Frame.next max s.unread = .unfinished) :
    s.deliver max = (if s.farOpen then none else some (.ended (.stream .earlyEof)),
      { s with begun := s.unread, inbound := [] }) := by
  have hn : Frame.next max (s.begun ++ s.inbound) = .unfinished := hn
  simp only [deliver, read, hn, unread]

end Stream

/-- A reader at its stream, and what the far end has yet to write. -/
structure Reading where
  stream : Stream
  coming : Octets
  delivered : List Delivery := []
  ended : Bool := false

namespace Reading

variable {max : Nat}

/-- What the connection is told. -/
def events (link : Nat) (x : Reading) : List Event := x.delivered.map (eventOf link)

/-- A piece of the reader's work. -/
def read (max : Nat) (x : Reading) : Reading :=
  if x.ended then x
  else
    let (d, stream) := x.stream.deliver max
    { x with stream, delivered := x.delivered ++ d.toList, ended := d.any (·.isLast) }

/-- What may happen: the reader works, more octets arrive, the far end closes the stream behind
all that it had to write. -/
inductive Step (max : Nat) : Reading → Reading → Prop
  | read (x : Reading) : Step max x (x.read max)
  | arrive (x : Reading) {piece more : Octets} (ho : x.stream.farOpen = true)
    (h : x.coming = piece ++ more) :
    Step max x { x with
      stream := { x.stream with inbound := x.stream.inbound ++ piece }, coming := more }
  | close (x : Reading) (h : x.coming = []) : Step max x { x with stream := x.stream.closeFar }

inductive Reached (max : Nat) (x₀ : Reading) : Reading → Prop
  | begin : Reached max x₀ x₀
  | step {x y : Reading} (h : Reached max x₀ x) (hs : Step max x y) : Reached max x₀ y

/-- Nothing is delivered yet, and these are the octets to read. -/
structure Fresh (b : Octets) (x : Reading) : Prop where
  octets : x.stream.unread ++ x.coming = b
  gone : x.stream.farOpen = false → x.coming = []
  delivered : x.delivered = []
  ended : x.ended = false

/-- What has been delivered, of frames and an end, and what is left behind it. -/
structure Sound (fs : List (Complete max)) (tail : Octets) (e : Failure) (x : Reading) : Prop where
  gone : x.stream.farOpen = false → x.coming = []
  left : x.ended = false → ∃ done left, fs = done ++ left ∧
    x.delivered = done.map Complete.delivery ∧
    x.stream.unread ++ x.coming = left.flatMap Complete.octets ++ tail
  finished : x.ended = true → x.delivered = fs.map Complete.delivery ++ [.ended e]

variable {fs : List (Complete max)} {tail : Octets} {e : Failure} {x y : Reading}

lemma Fresh.sound (h : Fresh (fs.flatMap Complete.octets ++ tail) x) : x.Sound fs tail e where
  gone := h.gone
  left _ := ⟨[], fs, rfl, h.delivered, h.octets⟩
  finished he := absurd (h.ended.symm.trans he) (by simp)

lemma read_of_ended (hx : x.ended = true) : x.read max = x := if_pos hx

section NotEnded

variable {h : Header} {body rest : Octets}

lemma read_of_frame (hx : x.ended = false)
    (hn : Frame.next max x.stream.unread = .frame h body rest) :
    x.read max = { x with
      stream := { x.stream with begun := [], inbound := rest }
      delivered := x.delivered ++ [.ofFrame h body]
      ended := (Delivery.ofFrame h body).isLast } := by
  simp [Reading.read, hx, Stream.deliver_of_frame hn]

lemma read_of_broken (hx : x.ended = false)
    (hn : Frame.next max x.stream.unread = .broken e rest) :
    x.read max = { x with
      stream := { x.stream with begun := [], inbound := rest }
      delivered := x.delivered ++ [.ended e], ended := true } := by
  simp [Reading.read, hx, Stream.deliver_of_broken hn, Delivery.isLast]

lemma read_of_unfinished (hx : x.ended = false)
    (hn : Frame.next max x.stream.unread = .unfinished) (ho : x.stream.farOpen = true) :
    x.read max = { x with
      stream := { x.stream with begun := x.stream.unread, inbound := [] } } := by
  simp [Reading.read, hx, Stream.deliver_of_unfinished hn, ho]

lemma read_of_gone (hx : x.ended = false)
    (hn : Frame.next max x.stream.unread = .unfinished) (ho : x.stream.farOpen = false) :
    x.read max = { x with
      stream := { x.stream with begun := x.stream.unread, inbound := [] }
      delivered := x.delivered ++ [.ended (.stream .earlyEof)], ended := true } := by
  simp [Reading.read, hx, Stream.deliver_of_unfinished hn, ho, Delivery.isLast]

end NotEnded

lemma Sound.read (h : x.Sound fs tail e) (he : Ends max tail e) :
    (x.read max).Sound fs tail e := by
  cases hx : x.ended with
  | true => rwa [read_of_ended hx]
  | false =>
    obtain ⟨done, left, rfl, hd, hl⟩ := h.left hx
    cases hn : Frame.next max x.stream.unread with
    | frame hdr body rest =>
      have hn' := Frame.next_append_of_frame (c := x.coming) hn
      rw [hl] at hn'
      obtain ⟨f, left, rfl, hf, hr⟩ := Frame.exists_cons_of_next he hn'
      rw [read_of_frame hx hn, hf]
      refine ⟨h.gone, fun _ => ⟨done ++ [f], left, by simp, by simp [hd], hr⟩, fun hf => ?_⟩
      exact absurd (f.isLast_delivery.symm.trans hf) (by simp)
    | broken e' rest =>
      have hn' := Frame.next_append_of_broken (c := x.coming) hn
      rw [hl] at hn'
      obtain ⟨rfl, rfl⟩ := Frame.eq_nil_of_next he (congrArg _ hn')
      rw [read_of_broken hx hn]
      exact ⟨h.gone, nofun, fun _ => by simp [hd]⟩
    | unfinished =>
      cases ho : x.stream.farOpen with
      | true =>
        rw [read_of_unfinished hx hn ho]
        exact ⟨h.gone, fun _ => ⟨done, left, rfl, hd, by simpa [Stream.unread] using hl⟩,
          fun hf => by simp [hx] at hf⟩
      | false =>
        rw [h.gone ho, List.append_nil] at hl
        have hn' : (Frame.next max (left.flatMap Complete.octets ++ tail)).failure? =
            some (.stream .earlyEof) := by rw [← hl, hn]; rfl
        obtain ⟨rfl, rfl⟩ := Frame.eq_nil_of_next he hn'
        rw [read_of_gone hx hn ho]
        exact ⟨h.gone, nofun, fun _ => by simp [hd]⟩

lemma Sound.step (h : x.Sound fs tail e) (he : Ends max tail e) (hs : Step max x y) :
    y.Sound fs tail e := by
  cases hs with
  | read => exact h.read he
  | arrive ho hc =>
    refine ⟨fun hf => ?_, fun hx => ?_, h.finished⟩
    · exact absurd (ho.symm.trans hf) (by simp)
    · obtain ⟨done, left, hfs, hd, hl⟩ := h.left hx
      exact ⟨done, left, hfs, hd, by simpa [Stream.unread, hc] using hl⟩
  | close hc => exact ⟨fun _ => hc, h.left, h.finished⟩

lemma Reached.sound {x₀ : Reading} (h : Reached max x₀ x)
    (hx₀ : Fresh (fs.flatMap Complete.octets ++ tail) x₀) (he : Ends max tail e) :
    x.Sound fs tail e := by
  induction h with
  | begin => exact hx₀.sound
  | step _ hs ih => exact ih.step he hs

lemma exists_delivered_read (hx : x.ended = false)
    (h : Frame.next max x.stream.unread ≠ .unfinished ∨ x.stream.farOpen = false) :
    ∃ d, (x.read max).delivered = x.delivered ++ [d] := by
  cases hn : Frame.next max x.stream.unread with
  | frame hdr body rest => exact ⟨_, by rw [read_of_frame hx hn]⟩
  | broken e rest => exact ⟨_, by rw [read_of_broken hx hn]⟩
  | unfinished =>
    have ho : x.stream.farOpen = false := h.resolve_left (not_not_intro hn)
    exact ⟨_, by rw [read_of_gone hx hn ho]⟩

lemma farOpen_read : (x.read max).stream.farOpen = x.stream.farOpen := by
  cases hx : x.ended with
  | true => rw [read_of_ended hx]
  | false =>
    cases hn : Frame.next max x.stream.unread with
    | frame hdr body rest => rw [read_of_frame hx hn]
    | broken e rest => rw [read_of_broken hx hn]
    | unfinished =>
      cases ho : x.stream.farOpen with
      | true => rw [read_of_unfinished hx hn ho, ho]
      | false => rw [read_of_gone hx hn ho, ho]

lemma Sound.ended_of_lt (h : x.Sound fs tail e) (hl : fs.length < x.delivered.length) :
    x.ended = true := by
  by_contra hx
  obtain ⟨done, left, rfl, hd, -⟩ := h.left (Bool.eq_false_iff.mpr hx)
  rw [hd, List.length_map, List.length_append] at hl
  omega

/-- Without the far end, what is left is delivered in as many pieces of work as there are frames
left, and one more. -/
lemma Sound.ended_iterate (h : x.Sound fs tail e) (he : Ends max tail e)
    (ho : x.stream.farOpen = false) {n : Nat} (hn : fs.length < x.delivered.length + n) :
    ((Reading.read max)^[n] x).ended = true := by
  induction n generalizing x with
  | zero => exact h.ended_of_lt hn
  | succ n ih =>
    rw [Function.iterate_succ_apply]
    cases hx : x.ended with
    | false =>
      refine ih (h.read he) (farOpen_read.trans ho) ?_
      obtain ⟨d, hd⟩ : ∃ d, (x.read max).delivered = x.delivered ++ [d] :=
        exists_delivered_read hx (.inr ho)
      rw [hd, List.length_append, List.length_singleton]
      omega
    | true =>
      have hfix : ∀ k, (Reading.read max)^[k] x = x := Function.iterate_fixed (read_of_ended hx)
      rw [read_of_ended hx, hfix, hx]

lemma Reached.iterate {x₀ : Reading} (h : Reached max x₀ x) (n : Nat) :
    Reached max x₀ ((Reading.read max)^[n] x) := by
  induction n generalizing x with
  | zero => exact h
  | succ n ih => exact ih (h.step (.read x))

lemma Reached.delivered_of_ended (h : Reached max x y) (hx : x.ended = true) :
    y.ended = true ∧ y.delivered = x.delivered := by
  induction h with
  | begin => exact ⟨hx, rfl⟩
  | step _ hs ih =>
    cases hs with
    | read => rwa [read_of_ended ih.1]
    | arrive => exact ih
    | close => exact ih

/-- **A reader neither loses nor invents frames, nor does it lose its place.** A stream holds
frames, with any octets for bodies, and then an end. In whatever pieces it arrives, the events so
far are those of the first frames, one for each and in order, and what is unread or still to come is
exactly what stands behind them. Once the reader has ended, there is the event of each frame, then
one for the end, and nothing is ever added. Whatever is complete has its event with the reader's
next piece of work, and when the far end is gone, so has everything in the end. -/
theorem Reached.delivers_frames {x₀ : Reading} (h : Reached max x₀ x)
    (hx₀ : Fresh (fs.flatMap Complete.octets ++ tail) x₀) (he : Ends max tail e) (link : Nat) :
    (x.ended = false → ∃ done left, fs = done ++ left ∧
      x.events link = done.map (Complete.event link) ∧
      x.stream.unread ++ x.coming = left.flatMap Complete.octets ++ tail) ∧
    (x.ended = true →
      x.events link = fs.map (Complete.event link) ++ [.disconnected link e] ∧
      ∀ y, Reached max x y → y.events link = x.events link) ∧
    (x.ended = false →
      Frame.next max x.stream.unread ≠ .unfinished ∨ x.stream.farOpen = false →
      ∃ ev, (x.read max).events link = x.events link ++ [ev]) ∧
    (x.stream.farOpen = false → ((Reading.read max)^[fs.length + 1] x).ended = true) := by
  have hs := h.sound hx₀ he
  have hevents : ∀ gs : List (Complete max),
      (gs.map Complete.delivery).map (eventOf link) = gs.map (Complete.event link) := fun gs => by
    simp [eventOf_delivery]
  refine ⟨fun hx => ?_, fun hx => ⟨?_, fun y hy => ?_⟩, fun hx hn => ?_, fun ho => ?_⟩
  · -- an open stream has been read up to a frame's end
    obtain ⟨done, left, hfs, hd, hl⟩ := hs.left hx
    exact ⟨done, left, hfs, by rw [events, hd, hevents], hl⟩
  · -- at the end all frames were delivered, and then the end itself
    rw [events, hs.finished hx, List.map_append, hevents]
    rfl
  · -- nothing comes after the end
    rw [events, (hy.delivered_of_ended hx).2, events]
  · -- whenever a frame or the end is there to be read, a step delivers it
    obtain ⟨d, hd⟩ := exists_delivered_read hx hn
    exact ⟨eventOf link d, by rw [events, hd, List.map_append]; rfl⟩
  · -- one read for each frame and one for the end
    exact hs.ended_iterate he ho (by omega)

/-- A message, a frame whose body is no AVP and the beginning of a third frame arrive in two pieces,
of which the first ends within the header of the message. -/
theorem delivers_twoPieces :
    let h := Header.request 272 4
    let b := h.encode 20 ++ (h.encode 24 ++ [0, 0, 0, 1]) ++ [1, 0, 0]
    let x₀ : Reading := { stream := { name := "s", capacity := 64, farReads := true }, coming := b }
    ∃ x, Reached 4096 x₀ x ∧ x.ended = true ∧ x.events 0 =
      [.received 0 ⟨h, []⟩, .receivedInvalid 0 h (.shortBuffer 8 4),
        .disconnected 0 (.stream .earlyEof)] := by
  intro h b x₀
  have legal : ∀ n < 2 ^ 24, Header.size ≤ n → n % 4 = 0 →
      Header.decode (h.encode n) = .ok (h, n, []) := fun n hl hn hm => by
    simpa using Header.decode_append (h := h) rfl (by decide) hn hm hl []
  let message : Complete 4096 :=
    ⟨h.encode 20, h, [], legal 20 (by decide) (by decide) rfl, by decide⟩
  let garbled : Complete 4096 :=
    ⟨h.encode 24, h, [0, 0, 0, 1], legal 24 (by decide) (by decide) rfl, by decide⟩
  have hm : message.event 0 = .received 0 ⟨h, []⟩ := by
    simp [Complete.event, message, Message.ofBody, Avp.decodeAll, Except.map]
  have hg : garbled.event 0 = .receivedInvalid 0 h (.shortBuffer 8 4) := by
    have hd : Avp.decodeAll [0, 0, 0, 1] = .error (.shortBuffer 8 4) := by
      rw [Avp.decodeAll, if_neg (by decide)]
      split <;> rename_i hd <;> cases hd
      rfl
    rw [Complete.event, Message.ofBody, hd]
    rfl
  have hx₀ : Fresh ([message, garbled].flatMap Complete.octets ++ [1, 0, 0]) x₀ :=
    ⟨rfl, fun h => absurd h (by decide), rfl, rfl⟩
  have he : Ends 4096 [1, 0, 0] (.stream .earlyEof) := ⟨_, .short (by decide), rfl⟩
  let half : Reading := Reading.read 4096 { x₀ with
    stream := { x₀.stream with inbound := b.take 10 }, coming := b.drop 10 }
  let gone : Reading := { half with
    stream := { half.stream with inbound := b.drop 10 }.closeFar, coming := [] }
  have hhalf : Reached 4096 x₀ half :=
    (Reached.begin.step (@Step.arrive _ x₀ (b.take 10) (b.drop 10) rfl rfl)).step (.read _)
  have hgone : Reached 4096 x₀ gone :=
    (hhalf.step (@Step.arrive _ half (b.drop 10) [] rfl rfl)).step (.close _ rfl)
  have hx := hgone.iterate 3
  have hend := (hgone.delivers_frames hx₀ he 0).2.2.2 rfl
  refine ⟨_, hx, hend, ?_⟩
  rw [((hx.delivers_frames hx₀ he 0).2.1 hend).1]
  simp [hm, hg]

end Reading

end Network

end Diameter
