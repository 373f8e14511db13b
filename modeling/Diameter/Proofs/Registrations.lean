import Diameter.Proofs.Dispatches

/-!
Handlers that are registered one after another, and what becomes of a request.

For one pair of application and command there may be many registrations. The last of them counts,
and an application stays known whatever is registered later. Instead of all registrations it is
enough to keep one handler for each pair, and the applications (`Directory`). Whatever a handler
does, what comes of a request is a legal answer to it. Main statement:
`Registry.dispatch_history`.
-/

namespace Diameter

namespace Registration

/-- The registration is for requests of this application with this command. -/
def Serves (x : Registration) (h : Header) : Prop :=
  x.application = h.application ∧ x.command = h.command

/-- Of registrations in order, it is the last one that serves such requests. -/
def IsLast (x : Registration) (calls : List Registration) (h : Header) : Prop :=
  x.Serves h ∧ ∃ before after, calls = before ++ x :: after ∧ ∀ y ∈ after, ¬ y.Serves h

end Registration

/-- The base protocol, and every application that was ever registered for. -/
def Known (calls : List Registration) (application : UInt32) : Prop :=
  application = 0 ∨ ∃ x ∈ calls, x.application = application

lemma Node.resultCode?_localAnswer (n : Node) (h : Header) (r : ResultCode) :
    (n.localAnswer h none r).resultCode? = some r.code := by
  have hf : (n.localAnswer h none r).find Avp.Code.resultCode = some (resultAvp r) :=
    find_resultCode (by simp) r n.origin
  simp [Message.resultCode?, hf, resultAvp, Avp.mandatory, Avp.make, Avp.asUnsigned32,
    Avp.Value.encode, Except.toOption]

/-- One of the three steps of a handler fails, and those before it do not. -/
inductive Handler.Fails {α β : Type} (decode : Message → Except Failure α)
    (handle : α → Except Failure β) (encode : β → Message → Except Failure Message)
    (request : Message) (e : Failure) : Prop
  | decode (h : decode request = .error e)
  | handle {a : α} (hd : decode request = .ok a) (h : handle a = .error e)
  | encode {a : α} {b : β} (hd : decode request = .ok a) (hh : handle a = .ok b)
    (h : encode b request = .error e)

lemma Handler.typed_of_fails {α β : Type} {decode : Message → Except Failure α}
    {handle : α → Except Failure β} {encode : β → Message → Except Failure Message}
    {request : Message} {e : Failure} (h : Fails decode handle encode request e) :
    typed decode handle encode request = .failed e := by
  cases h with
  | decode h => simp only [typed, h]
  | handle hd h => simp only [typed, hd, h]
  | encode hd hh h => simp only [typed, hd, hh, h]

namespace Registry

variable {calls : List Registration} {x : Registration} {h : Header}

/-- A registry after these registrations, in order. -/
def ofCalls (calls : List Registration) : Registry :=
  calls.foldl (fun r x => r.register x.application x.command x.handler) {}

lemma ofCalls_concat (calls : List Registration) (x : Registration) :
    ofCalls (calls ++ [x]) = (ofCalls calls).register x.application x.command x.handler := by
  simp [ofCalls]

lemma registrations_ofCalls (calls : List Registration) :
    (ofCalls calls).registrations = calls.reverse := by
  induction calls using List.reverseRecOn with
  | nil => rfl
  | append_singleton calls x ih => simp [ofCalls_concat, register, ih]

lemma isKnown_ofCalls (calls : List Registration) (application : UInt32) :
    (ofCalls calls).isKnown application ↔ Known calls application := by
  simp [isKnown, registrations_ofCalls, Known]

/-! ### The last registration -/

lemma lookup_of_isLast (hx : x.IsLast calls h) :
    (ofCalls calls).lookup h.application h.command = .ok x.handler := by
  obtain ⟨⟨ha, hc⟩, before, after, rfl, hn⟩ := hx
  have hf : (ofCalls (before ++ x :: after)).registrations.find?
      (fun y => y.application == h.application && y.command == h.command) = some x := by
    rw [registrations_ofCalls, List.find?_eq_some_iff_append]
    refine ⟨by simp [ha, hc], after.reverse, before.reverse, by simp, fun y hy => ?_⟩
    have hs := hn y (List.mem_reverse.mp hy)
    simpa [Registration.Serves, Classical.or_iff_not_imp_left] using hs
  simp [lookup, hf]

lemma exists_isLast (hs : ∃ x ∈ calls, x.Serves h) : ∃ x : Registration, x.IsLast calls h := by
  induction calls using List.reverseRecOn with
  | nil => simp at hs
  | append_singleton calls y ih =>
    by_cases hy : y.Serves h
    · exact ⟨y, hy, calls, [], rfl, by simp⟩
    · obtain ⟨x, hx, hxs⟩ := hs
      have hm : x ∈ calls := by
        rcases List.mem_append.mp hx with hx | hx
        · exact hx
        · exact absurd (List.mem_singleton.mp hx ▸ hxs) hy
      obtain ⟨z, hz, before, after, rfl, hn⟩ := ih ⟨x, hm, hxs⟩
      refine ⟨z, hz, before, after ++ [y], by simp, fun w hw => ?_⟩
      rcases List.mem_append.mp hw with hw | hw
      · exact hn w hw
      · exact List.mem_singleton.mp hw ▸ hy

lemma lookup_of_none (hn : ∀ x ∈ calls, ¬ x.Serves h) :
    (ofCalls calls).lookup h.application h.command =
      .error (.invalidMessage (if (ofCalls calls).isKnown h.application then .unsupportedCommand
        else .unsupportedApplication)) := by
  have hf : (ofCalls calls).registrations.find?
      (fun y => y.application == h.application && y.command == h.command) = none := by
    rw [registrations_ofCalls, List.find?_eq_none]
    intro y hy
    simpa [Registration.Serves] using hn y (List.mem_reverse.mp hy)
  rw [lookup, hf]
  dsimp only
  split <;> rfl

lemma dispatch_of_isLast (n : Node) {request : Message} (hx : x.IsLast calls request.header) :
    (ofCalls calls).dispatch n request = match x.handler request with
      | .answer m => asAnswerTo request m
      | .failed e => n.errorAnswer request e
      | .crashed => n.localAnswer request.header none .unableToComply := by
  cases hr : x.handler request <;> simp only [dispatch, lookup_of_isLast hx, hr]

/-! ### What every answer is like -/

/-- An answer that reports a protocol error is marked as one. -/
def Marked (a : Message) : Prop :=
  ∀ code, a.resultCode? = some code → 3000 ≤ code → code ≤ 3999 → a.header.isError

lemma marked_asAnswerTo (request m : Message) : Marked (asAnswerTo request m) := by
  intro code hc hl hu
  have hm : m.resultCode? = some code := hc
  have hp : ResultCode.isProtocolError code = true := by
    simp [ResultCode.isProtocolError, hl, hu]
  have ha : (asAnswerTo request m).header = (answering request m).setError := by
    simp [asAnswerTo, hm, hp, answering]
  rw [ha]
  exact Header.isError_setError _

lemma marked_of_result {a : Message} {k : Header} {r : ResultCode}
    (ha : a.header = Node.answerHeader k r) (hr : a.resultCode? = some r.code) : Marked a := by
  intro code hc hl hu
  obtain rfl : r.code = code := Option.some.inj (hr.symm.trans hc)
  have hp : ResultCode.isProtocolError r.code = true := by
    simp [ResultCode.isProtocolError, hl, hu]
  rw [ha, Node.answerHeader, if_pos hp]
  exact Header.isError_setError _

lemma marked_localAnswer (n : Node) (request : Message) (r : ResultCode) :
    Marked (n.localAnswer request.header none r) :=
  marked_of_result rfl (n.resultCode?_localAnswer request.header r)

lemma marked_errorAnswer (n : Node) (request : Message) (e : Failure) :
    Marked (n.errorAnswer request e) :=
  marked_of_result rfl (n.errorAnswer_answers request e).result

lemma marked_dispatch (r : Registry) (n : Node) (request : Message) :
    Marked (r.dispatch n request) := by
  unfold dispatch
  split
  · exact marked_errorAnswer n request _
  · split
    · exact marked_asAnswerTo request _
    · exact marked_errorAnswer n request _
    · exact marked_localAnswer n request .unableToComply

/-! ### One handler for each pair -/

end Registry

/-- One handler for each pair of application and command, and every application that was ever
registered for. -/
structure Directory where
  handlers : List ((UInt32 × UInt32) × Handler) := []
  applications : List UInt32 := []

namespace Directory

/-- What was registered for the same pair is replaced. -/
def insert (d : Directory) (x : Registration) : Directory where
  handlers := ((x.application, x.command), x.handler) ::
    d.handlers.filter (·.1 != (x.application, x.command))
  applications := if x.application ∈ d.applications then d.applications
    else x.application :: d.applications

def lookup (d : Directory) (application command : UInt32) : Except Failure Handler :=
  match d.handlers.find? (·.1 == (application, command)) with
  | some x => .ok x.2
  | none =>
    if application = 0 ∨ application ∈ d.applications then
      .error (.invalidMessage .unsupportedCommand)
    else .error (.invalidMessage .unsupportedApplication)

def ofCalls (calls : List Registration) : Directory := calls.foldl insert {}

variable {calls : List Registration}

lemma ofCalls_concat (calls : List Registration) (x : Registration) :
    ofCalls (calls ++ [x]) = (ofCalls calls).insert x := by
  simp [ofCalls]

lemma mem_applications (application : UInt32) : application ∈ (ofCalls calls).applications ↔
    ∃ x ∈ calls, x.application = application := by
  induction calls using List.reverseRecOn with
  | nil => simp [ofCalls]
  | append_singleton calls x ih =>
    rw [ofCalls_concat, insert]
    split
    · -- the application is there already
      rename_i hx
      simp only [ih, List.mem_append, List.mem_singleton]
      constructor
      · rintro ⟨y, hy, rfl⟩
        exact ⟨y, .inl hy, rfl⟩
      · rintro ⟨y, hy | rfl, rfl⟩
        · exact ⟨y, hy, rfl⟩
        · exact ih.mp hx
    · -- it is new
      simp only [List.mem_cons, ih, List.mem_append]
      constructor
      · rintro (rfl | ⟨y, hy, rfl⟩)
        · exact ⟨x, by simp, rfl⟩
        · exact ⟨y, .inl hy, rfl⟩
      · rintro ⟨y, hy | hy, rfl⟩
        · exact .inr ⟨y, hy, rfl⟩
        · simp only [List.not_mem_nil, or_false] at hy
          exact .inl (hy ▸ rfl)

variable (calls) in
lemma find?_handlers (application command : UInt32) :
    ((ofCalls calls).handlers.find? (·.1 == (application, command))).map Prod.snd =
      ((Registry.ofCalls calls).registrations.find? fun x =>
        x.application == application && x.command == command).map Registration.handler := by
  induction calls using List.reverseRecOn with
  | nil => rfl
  | append_singleton calls x ih =>
    rw [ofCalls_concat, Registry.ofCalls_concat, insert, Registry.register]
    by_cases hx : (x.application, x.command) = (application, command)
    · -- the latest call answers
      obtain ⟨ha, hc⟩ := Prod.mk.inj hx
      simp [ha, hc]
    · -- the latest call is for another key, so what it replaced is not asked for
      have hk : (x.application == application && x.command == command) = false := by
        simpa using hx
      have hn : ((x.application, x.command) == (application, command)) = false := by
        simpa using hx
      rw [List.find?_cons_of_neg (by simp [hn]), List.find?_cons_of_neg (by simp [hk]), ← ih,
        List.find?_filter]
      congr 2
      funext y
      by_cases hy : y.1 = (application, command)
      · simp [hy, Ne.symm hx]
      · simp [hy]

lemma lookup_ofCalls (application command : UInt32) :
    (ofCalls calls).lookup application command =
      (Registry.ofCalls calls).lookup application command := by
  have hf := find?_handlers calls application command
  have hk : (application = 0 ∨ application ∈ (ofCalls calls).applications) ↔
      (Registry.ofCalls calls).isKnown application := by
    rw [Registry.isKnown_ofCalls, Known, mem_applications]
  rw [lookup, Registry.lookup]
  simp only [hk]
  cases hr : (Registry.ofCalls calls).registrations.find? fun x =>
      x.application == application && x.command == command with
  | none =>
    rw [hr, Option.map_none, Option.map_eq_none_iff] at hf
    simp only [hf]
  | some x =>
    rw [hr, Option.map_some] at hf
    obtain ⟨y, hy, hh⟩ := Option.map_eq_some_iff.mp hf
    simp only [hy, hh]

end Directory

namespace Registry

/-- **How a request is answered after registrations in this order.** -/
structure AnswersByHistory (calls : List Registration) (n : Node) (request a : Message) :
    Prop where
  /-- If there is any registration for the request, the handler of the last one is asked. -/
  asked : (∃ x ∈ calls, x.Serves request.header) → ∃ x : Registration,
    x.IsLast calls request.header ∧ (ofCalls calls).lookup request.header.application
      request.header.command = .ok x.handler
  /-- What it says is said, whatever header it has given that. -/
  answered : ∀ (x : Registration) m, x.IsLast calls request.header →
    x.handler request = .answer m → a.avps = m.avps
  failed : ∀ (x : Registration) e, x.IsLast calls request.header →
    x.handler request = .failed e → a = n.errorAnswer request e
  /-- A handler in three steps has failed if one of them has. -/
  stepFailed : ∀ (x : Registration) (α β : Type) (decode : Message → Except Failure α)
    (handle : α → Except Failure β) (encode : β → Message → Except Failure Message) e,
    x.IsLast calls request.header → x.handler = .typed decode handle encode →
    Handler.Fails decode handle encode request e → a = n.errorAnswer request e
  crashed : ∀ x : Registration, x.IsLast calls request.header →
    x.handler request = .crashed → a = n.localAnswer request.header none .unableToComply
  /-- The application is known, but the command is not. -/
  unsupportedCommand : (∀ x ∈ calls, ¬ x.Serves request.header) →
    Known calls request.header.application → a.resultCode? = some 3001
  unsupportedApplication : (∀ x ∈ calls, ¬ x.Serves request.header) →
    ¬ Known calls request.header.application → a.resultCode? = some 3007
  /-- It is no request, and has the command, the application and the identifiers of the request. -/
  replies : a.header.Replies request.header
  retransmit : a.header.isRetransmit = false
  marked : Marked a

/-- **The history of registrations decides.** The handler that was registered last for a pair of
application and command is the one that is asked; without one, it matters whether anything was ever
registered for the application. It is enough to keep a directory. Whatever is in the header that a
handler has made, what goes out is a legal answer to the request. -/
theorem dispatch_history (calls : List Registration) (n : Node) (request : Message) :
    AnswersByHistory calls n request ((ofCalls calls).dispatch n request) ∧
      (Directory.ofCalls calls).lookup request.header.application request.header.command =
        (ofCalls calls).lookup request.header.application request.header.command := by
  have unserved : ∀ fault, (ofCalls calls).lookup request.header.application
      request.header.command = .error (.invalidMessage fault) →
      ((ofCalls calls).dispatch n request).resultCode? = some fault.resultCode.code := by
    intro fault hl
    rw [dispatch, hl]
    exact (n.errorAnswer_answers request (.invalidMessage fault)).result
  refine ⟨?_, Directory.lookup_ofCalls _ _⟩
  exact
    { asked := fun hs => by
        obtain ⟨x, hx⟩ := exists_isLast hs
        exact ⟨x, hx, lookup_of_isLast hx⟩
      answered := fun x m hx hm => by
        rw [dispatch_of_isLast n hx, hm]
        rfl
      failed := fun x e hx he => by rw [dispatch_of_isLast n hx, he]
      stepFailed := fun x α β decode handle encode e hx hh he => by
        rw [dispatch_of_isLast n hx, hh, Handler.typed_of_fails he]
      crashed := fun x hx hc => by rw [dispatch_of_isLast n hx, hc]
      unsupportedCommand := fun hn hk => unserved .unsupportedCommand <| by
        rw [lookup_of_none hn, if_pos ((isKnown_ofCalls _ _).mpr hk)]
      unsupportedApplication := fun hn hk => unserved .unsupportedApplication <| by
        rw [lookup_of_none hn, if_neg fun h => hk ((isKnown_ofCalls _ _).mp h)]
      replies := dispatch_replies _ n request
      retransmit := (flags_dispatch _ n request).2
      marked := marked_dispatch _ n request }

end Registry

end Diameter
