import LineChat.Session.Socket

/-!
# A Registration Knows What Is Registered

What a registration remembers after any number of requests.

A registration remembers an interest so that the system is told of changes only.
That is safe as long as the interest it remembers is the one the system has. If the
two came apart once, a request for the remembered interest would never reach the
system again, and nobody would be told of what was asked for.

They never come apart, whatever the system answers. A request is skipped exactly if
it asks for the remembered interest. A request that is not skipped is one call, and
what is remembered changes exactly if the call succeeds (`setInterest_cases`, beside
the definition). So the induction over the requests carries one equation between the
record of calls and the memory (`registered_setAll`). A refusal changes neither, and
nothing but a success changes the memory (`registration_setAll`), so a request that
was refused reaches the system again whenever it is repeated, unless another one
has been granted meanwhile.

A request comes with the socket it is made on, because the socket stays with its
owner, who passes it in each time. So the answers of the system are those of any
sequence of sockets.

## Main definitions

* `RegistrationHistory`: A registration, what requests answered, and the calls.
* `Registration.setAll`: Requests one after the other.

## Theorems

* `answer_eq_changed_iff`, `answer_eq_error_iff`: The answer to a request and its call.
* `registered_setAll`: The record of calls and the memory.
* `registration_setAll`: Without a success nothing changes.
* `interest_is_remembered`: Every history, and every request behind it.
-/

namespace LineChat

/-- What has become of a registration. -/
structure RegistrationHistory where
  registration : Registration
  /-- What the requests answered, oldest first. -/
  answers : List (Except Fault Bool)
  /-- The calls that they made. -/
  calls : List SocketCall

namespace Registration

/-! ## One request -/

section Request

variable {r : Registration} {s : Socket} {interest : Interest}

theorem setInterest_of_eq (h : r.interest = interest) :
    r.setInterest s interest = ⟨.ok false, r, s, []⟩ := by
  rcases r.setInterest_cases s interest with ⟨_, hset⟩ | ⟨hother, _⟩ | ⟨_, hother, _⟩
  · exact hset
  · exact absurd h hother
  · exact absurd h hother

/-- The system is told of an interest that is not the remembered one. -/
theorem calls_setInterest_of_ne (h : r.interest ≠ interest) :
    (r.setInterest s interest).calls = [.watch interest s.watch.1] := by
  rcases r.setInterest_cases s interest with ⟨hsame, _⟩ | ⟨_, hanswer, hset⟩ | ⟨_, _, hanswer, hset⟩
  · exact absurd hsame h
  · rw [hset, hanswer]
  · rw [hset, hanswer]

/-- The registration has changed exactly if a call was made and succeeded. -/
theorem answer_eq_changed_iff :
    (r.setInterest s interest).answer = .ok true ↔
      ∃ i, .watch i (.ok ()) ∈ (r.setInterest s interest).calls := by
  rcases r.setInterest_cases s interest with ⟨_, h⟩ | ⟨_, _, h⟩ | ⟨fault, _, _, h⟩
  · rw [h]
    exact ⟨nofun, fun ⟨_, hi⟩ => absurd hi List.not_mem_nil⟩
  · rw [h]
    exact ⟨fun _ => ⟨interest, List.mem_cons_self⟩, fun _ => rfl⟩
  · rw [h]
    refine ⟨nofun, fun ⟨i, hi⟩ => ?_⟩
    cases List.mem_singleton.mp hi

/-- A request is refused exactly if a call was made and met that fault. -/
theorem answer_eq_error_iff {fault : Fault} :
    (r.setInterest s interest).answer = .error fault ↔
      ∃ i, .watch i (.error fault) ∈ (r.setInterest s interest).calls := by
  rcases r.setInterest_cases s interest with ⟨_, h⟩ | ⟨_, _, h⟩ | ⟨fault', _, _, h⟩
  · rw [h]
    exact ⟨nofun, fun ⟨_, hi⟩ => absurd hi List.not_mem_nil⟩
  · rw [h]
    refine ⟨nofun, fun ⟨i, hi⟩ => ?_⟩
    cases List.mem_singleton.mp hi
  · rw [h]
    constructor
    · intro hanswer
      cases hanswer
      exact ⟨interest, List.mem_cons_self⟩
    · rintro ⟨i, hi⟩
      cases List.mem_singleton.mp hi
      rfl

/-- A refused request asked for another interest, and leaves the one there is. -/
theorem registration_of_refused {fault : Fault}
    (h : (r.setInterest s interest).answer = .error fault) :
    (r.setInterest s interest).registration = r ∧ r.interest ≠ interest := by
  rcases r.setInterest_cases s interest with ⟨_, hset⟩ | ⟨_, _, hset⟩ | ⟨_, hother, _, hset⟩
  · rw [hset] at h
    cases h
  · rw [hset] at h
    cases h
  · rw [hset]
    exact ⟨rfl, hother⟩

end Request

/-! ## Any number of requests -/

/-- Requests for interests one after the other, each on a socket with answers of
    its own. -/
def setAll : List (Socket × Interest) → Registration → RegistrationHistory
  | [], r => ⟨r, [], []⟩
  | (s, interest) :: requests, r =>
    let first := r.setInterest s interest
    let more := setAll requests first.registration
    ⟨more.registration, first.answer :: more.answers, first.calls ++ more.calls⟩

/-- A registration goes on to remember what the record of its calls says is
    registered, and goes on to be for the same token. -/
theorem registered_setAll (requests : List (Socket × Interest)) (r : Registration) :
    registeredInterest? (some r.interest) (r.setAll requests).calls
        = some (r.setAll requests).registration.interest ∧
      (r.setAll requests).registration.token = r.token := by
  induction requests generalizing r with
  | nil => exact ⟨rfl, rfl⟩
  | cons request requests ih =>
      rcases request with ⟨s, interest⟩
      rcases r.setInterest_cases s interest with ⟨_, h⟩ | ⟨_, _, h⟩ | ⟨fault, _, _, h⟩
      · rw [setAll, h]
        exact ih r
      · rw [setAll, h]
        exact ih { r with interest := interest }
      · rw [setAll, h]
        exact ih r

/-- Requests of which none has succeeded leave the registration as it is. -/
theorem registration_setAll {requests : List (Socket × Interest)} {r : Registration}
    (hnone : .ok true ∉ (r.setAll requests).answers) :
    (r.setAll requests).registration = r := by
  induction requests generalizing r with
  | nil => rfl
  | cons request requests ih =>
      rcases request with ⟨s, interest⟩
      rw [setAll] at hnone ⊢
      rcases r.setInterest_cases s interest with ⟨_, h⟩ | ⟨_, _, h⟩ | ⟨fault, _, _, h⟩
      · rw [h] at hnone ⊢
        exact ih (List.not_mem_of_not_mem_cons hnone)
      · rw [h] at hnone
        exact absurd List.mem_cons_self hnone
      · rw [h] at hnone ⊢
        exact ih (List.not_mem_of_not_mem_cons hnone)

end Registration

/-- A registration that was made for an interest, and then asked for others any
    number of times, whatever the system answered. The interest it remembers is the
    one that was registered last, going by the record of all calls that succeeded, the
    one that made it included. The next request, whichever it is, makes no call if it
    asks for the remembered interest, and one call for what it asks if not. It answers
    that the registration has changed exactly if a call was made and succeeded, and
    with a fault exactly if a call was made and met that fault. A request that met a
    fault leaves the registration as it was. If it is repeated, be it after other
    requests of which none succeeded, it reaches the system again. -/
theorem interest_is_remembered (r : Registration) (requests : List (Socket × Interest)) :
    let run := r.setAll requests
    let remembered := run.registration.interest
    registeredInterest? none (.watch r.interest (.ok ()) :: run.calls) = some remembered ∧
    run.registration.token = r.token ∧
    ∀ (s : Socket) (interest : Interest),
      let next := run.registration.setInterest s interest
      (interest = remembered → next.answer = .ok false ∧ next.calls = []) ∧
      (interest ≠ remembered → next.calls = [.watch interest s.watch.1]) ∧
      (next.answer = .ok true ↔ ∃ i, .watch i (.ok ()) ∈ next.calls) ∧
      (∀ fault, next.answer = .error fault ↔ ∃ i, .watch i (.error fault) ∈ next.calls) ∧
      ∀ fault, next.answer = .error fault → next.registration = run.registration ∧
        ∀ between,
          let waited := next.registration.setAll between
          .ok true ∉ waited.answers → ∀ later,
            (waited.registration.setInterest later interest).calls
              = [.watch interest later.watch.1] := by
  intro run remembered
  rcases r.registered_setAll requests with ⟨hregistered, htoken⟩
  refine ⟨hregistered, htoken, fun s interest => ?_⟩
  intro next
  refine ⟨fun hsame => ?_, fun hother => Registration.calls_setInterest_of_ne (Ne.symm hother),
    Registration.answer_eq_changed_iff, fun fault => Registration.answer_eq_error_iff,
    fun fault hfault => ?_⟩
  · have hnext : next = ⟨.ok false, run.registration, s, []⟩ :=
      Registration.setInterest_of_eq hsame.symm
    rw [hnext]
    exact ⟨rfl, rfl⟩
  · rcases Registration.registration_of_refused hfault with ⟨hkept, hother⟩
    refine ⟨hkept, ?_⟩
    intro between waited hnone later
    have hsame : waited.registration = run.registration :=
      (Registration.registration_setAll hnone).trans hkept
    rw [hsame]
    exact Registration.calls_setInterest_of_ne hother

/-- The system refuses to give up writing, once and then again while nothing is asked
    that it grants; the third request for it reaches the system and is granted. -/
theorem interest_is_remembered_until_retry :
    let refusing : Socket := { Socket.idle with watches := [.error (.errno 12)] }
    let run := (Registration.mk 5 .readable).setAll [(.idle, .both), (.idle, .both)]
    let next := run.registration.setInterest refusing .readable
    let between := [(Socket.idle, Interest.both), (refusing, .readable)]
    run.calls = [.watch .both (.ok ())] ∧ run.registration.interest = .both ∧
      next.answer = .error (.errno 12) ∧ next.registration = run.registration ∧
      .ok true ∉ (next.registration.setAll between).answers ∧
      ((next.registration.setAll between).registration.setInterest .idle .readable).calls
        = [.watch .readable (.ok ())] := by
  intro refusing run next between
  have hnone : .ok true ∉ (next.registration.setAll between).answers := by
    change (.ok true : Except Fault Bool) ∉ [.ok false, .error (.errno 12)]
    simp
  rcases interest_is_remembered ⟨5, .readable⟩ [(.idle, .both), (.idle, .both)] with
    ⟨_, _, hnext⟩
  rcases hnext refusing .readable with ⟨_, _, _, _, hfault⟩
  rcases hfault (.errno 12) rfl with ⟨hkept, hretry⟩
  exact ⟨rfl, rfl, rfl, hkept, hnone, hretry between hnone .idle⟩

end LineChat
