import SinkReporter.Client
/-!
# Proofs.Client.Traffic — what a transport is made to do by a run

`Transport.watched` keeps, beside the state of any transport, the list of what that transport was made to do and how it
answered.  Watching changes nothing (`run_watched`).  What one call does to a client is said once for each of the three
states (`call_unconfigured`, `call_closed`, `call_ready`), and runs are taken apart at any of their calls (`run_append`).
-/
namespace SinkReporter
namespace Http

/-- What a transport is made to do: a request to send, with the answer it gave, or its release. -/
inductive Deed where
  | sent (request : Request) (answer : Except SessionFault Unit)
  | released

def Deed.send? : Deed → Option (Request × Except SessionFault Unit)
  | .sent request answer => some (request, answer)
  | .released => none

def sends (deeds : List Deed) : List (Request × Except SessionFault Unit) := deeds.filterMap Deed.send?

theorem sends_append (xs ys : List Deed) : sends (xs ++ ys) = sends xs ++ sends ys := List.filterMap_append

/-- **A transport under watch**: it acts as before and keeps what it was made to do. -/
def Transport.watched {σ : Type} (t : Transport σ) : Transport (σ × List Deed) where
  send s r := ⟨(t.send s.1 r).answer, (t.send s.1 r).events, (t.send s.1 r).state, s.2 ++ [.sent r (t.send s.1 r).answer]⟩
  release s := (t.release s.1, s.2 ++ [.released])

theorem Transport.watched_send {σ : Type} (t : Transport σ) (s : σ) (deeds : List Deed) (r : Request) :
    t.watched.send (s, deeds) r =
      ⟨(t.send s r).answer, (t.send s r).events, (t.send s r).state, deeds ++ [.sent r (t.send s r).answer]⟩ := rfl

theorem Transport.watched_release {σ : Type} (t : Transport σ) (s : σ) (deeds : List Deed) :
    t.watched.release (s, deeds) = (t.release s, deeds ++ [.released]) := rfl

/-- **A network under watch.**  To open a session is no deed of its transport. -/
def Network.watched {σ : Type} (n : Network σ) : Network (σ × List Deed) where
  toTransport := n.toTransport.watched
  connect s secs? := (n.connect s.1 secs?).map (·, s.2)

end Http

open Http (Request Transport SessionFault Deed sends sends_append)

namespace Call

def isClose : Call → Bool
  | .close => true
  | _ => false

/-- **The record that a call is to report**: the one that its outcome composes to, or why there is none, or the one that is
given.  Closing reports nothing. -/
def record? : Call → Option (Except InvalidArgument TestResult)
  | .post o => some (composeWithText o.testId o.status o.expected o.log o.tags)
  | .postRecord r => some (.ok r)
  | .close => none

def request? (e : Endpoint) (call : Call) : Option Request :=
  match call.record? with
  | some (.ok r) => some (buildRequest e r)
  | _ => none

theorem record?_eq_none {call : Call} : call.record? = none ↔ call.isClose = true := by
  cases call <;> simp [record?, isClose]

theorem isClose_of_record? {call : Call} {x : Except InvalidArgument TestResult} (h : call.record? = some x) :
    call.isClose = false := by
  cases call with
  | close => cases h
  | post o => rfl
  | postRecord r => rfl

end Call

/-- **The requests that calls ask for**: one for each call before the first that closes, if it has a record. -/
def requestsOf (e : Endpoint) (calls : List Call) : List Request :=
  (calls.takeWhile (!·.isClose)).filterMap (·.request? e)

theorem requestsOf_cons {e : Endpoint} {next : Call} (h : next.isClose = false) (rest : List Call) :
    requestsOf e (next :: rest) = (next.request? e).toList ++ requestsOf e rest := by
  rw [requestsOf, List.takeWhile_cons_of_pos (by simpa using h), List.filterMap_cons]
  cases next.request? e <;> rfl

theorem requestsOf_close {e : Endpoint} {next : Call} (h : next.isClose = true) (rest : List Call) :
    requestsOf e (next :: rest) = [] := by
  rw [requestsOf, List.takeWhile_cons_of_neg (by simpa using h)]
  rfl

theorem url_of_mem_requestsOf {e : Endpoint} {calls : List Call} {request : Request} (h : request ∈ requestsOf e calls) :
    request.url = "http://" ++ e.address ++ reportPath := by
  obtain ⟨call, -, hcall⟩ := List.mem_filterMap.1 h
  unfold Call.request? at hcall
  split at hcall
  · cases hcall
    rfl
  · cases hcall

namespace Client

variable {σ : Type} (t : Transport σ)

/-! ## One call -/

theorem call_unconfigured (s : σ) (next : Call) : call t .unconfigured s next = ⟨.ok (), [], .unconfigured, s⟩ := by
  cases next <;> rfl

/-- **A closed client lets nothing through**: closing it again is well, any report is refused. -/
theorem call_closed (e : Endpoint) (s : σ) (next : Call) :
    call t (.closed e) s next = ⟨if next.isClose then .ok () else .error .closed, [], .closed e, s⟩ := by
  cases next <;> rfl

/-- **What one call on a ready client does**: it closes, or has no record and stops, or sends the one request. -/
theorem call_ready (e : Endpoint) (s : σ) (next : Call) :
    (next.record? = none ∧ call t (.ready e) s next = ⟨.ok (), [.released e.address], .closed e, t.release s⟩) ∨
    (∃ cause, next.record? = some (.error cause) ∧
      call t (.ready e) s next = ⟨.error (.argument cause), [], .ready e, s⟩) ∨
    (∃ r, next.record? = some (.ok r) ∧ ∃ events,
      call t (.ready e) s next =
        ⟨(t.send s (buildRequest e r)).answer.mapError .session, events, .ready e,
          (t.send s (buildRequest e r)).state⟩) := by
  cases next with
  | close => exact .inl ⟨rfl, rfl⟩
  | postRecord r => exact .inr (.inr ⟨r, rfl, _, rfl⟩)
  | post o =>
    simp only [Call.record?, call, post]
    cases composeWithText o.testId o.status o.expected o.log o.tags with
    | error cause => exact .inr (.inl ⟨cause, rfl, rfl⟩)
    | ok r => exact .inr (.inr ⟨r, rfl, _, rfl⟩)

theorem call_watched (c : Client) (s : σ) (deeds : List Deed) (next : Call) :
    let done := call t.watched c (s, deeds) next
    call t c s next = ⟨done.answer, done.events, done.client, done.state.1⟩ := by
  cases c with
  | unconfigured => rw [call_unconfigured, call_unconfigured]
  | closed e => rw [call_closed, call_closed]
  | ready e =>
    cases next with
    | close => rfl
    | postRecord r => rfl
    | post o =>
      simp only [call, post]
      cases composeWithText o.testId o.status o.expected o.log o.tags <;> rfl

/-! ## Runs -/

theorem run_cons (c : Client) (s : σ) (next : Call) (rest : List Call) :
    run t c s (next :: rest) =
      (((call t c s next).answer, (call t c s next).events) ::
          (run t (call t c s next).client (call t c s next).state rest).1,
        (run t (call t c s next).client (call t c s next).state rest).2) := rfl

/-- **A run goes on from where its first part ends.** -/
theorem run_append : ∀ (xs ys : List Call) (c : Client) (s : σ),
    run t c s (xs ++ ys) =
      ((run t c s xs).1 ++ (run t (run t c s xs).2.1 (run t c s xs).2.2 ys).1,
        (run t (run t c s xs).2.1 (run t c s xs).2.2 ys).2)
  | [], _, _, _ => rfl
  | x :: xs, ys, c, s => by
    rw [List.cons_append, run_cons, run_append xs ys, run_cons t c s x xs]
    rfl

theorem length_run : ∀ (calls : List Call) (c : Client) (s : σ), (run t c s calls).1.length = calls.length
  | [], _, _ => rfl
  | next :: rest, c, s => by rw [run_cons, List.length_cons, length_run rest, List.length_cons]

/-- **Watching changes no run.** -/
theorem run_watched : ∀ (calls : List Call) (c : Client) (s : σ) (deeds : List Deed),
    let ran := run t.watched c (s, deeds) calls
    run t c s calls = (ran.1, ran.2.1, ran.2.2.1)
  | [], _, _, _ => rfl
  | next :: rest, c, s, deeds => by
    dsimp only
    rw [run_cons, run_cons, call_watched t c s deeds next]
    dsimp only
    rw [run_watched rest _ _ (call t.watched c (s, deeds) next).state.2]

theorem run_unconfigured : ∀ (calls : List Call) (s : σ),
    run t .unconfigured s calls = (calls.map fun _ => (.ok (), []), .unconfigured, s)
  | [], _ => rfl
  | next :: rest, s => by rw [run_cons, call_unconfigured, run_unconfigured rest, List.map_cons]

theorem run_closed (e : Endpoint) : ∀ (calls : List Call) (s : σ),
    run t (.closed e) s calls =
      (calls.map fun next => (if next.isClose then .ok () else .error .closed, []), .closed e, s)
  | [], _ => rfl
  | next :: rest, s => by rw [run_cons, call_closed, run_closed e rest, List.map_cons]

/-- **The client at the end of a run**: closed if any call closed it. -/
theorem client_run_ready (e : Endpoint) : ∀ (calls : List Call) (s : σ),
    (run t (.ready e) s calls).2.1 = if calls.any Call.isClose then .closed e else .ready e
  | [], _ => rfl
  | next :: rest, s => by
    rw [run_cons, List.any_cons]
    rcases call_ready t e s next with ⟨hr, hc⟩ | ⟨cause, hr, hc⟩ | ⟨r, hr, events, hc⟩
    · rw [hc, run_closed, Call.record?_eq_none.1 hr]
      rfl
    · rw [hc, client_run_ready e rest, Call.isClose_of_record? hr, Bool.false_or]
    · rw [hc, client_run_ready e rest, Call.isClose_of_record? hr, Bool.false_or]

theorem ready_of_open (e : Endpoint) (before : List Call) (s : σ) (h : before.any Call.isClose = false) :
    (run t (.ready e) s before).2.1 = .ready e := by
  rw [client_run_ready, h]
  rfl

theorem closed_of_any (e : Endpoint) (before : List Call) (s : σ) (h : before.any Call.isClose = true) :
    (run t (.ready e) s before).2.1 = .closed e := by
  rw [client_run_ready, h]
  rfl

/-- **What a run makes a transport do is only added to.** -/
theorem deeds_run_prefix (calls : List Call) (c : Client) (s : σ) (deeds : List Deed) :
    ∃ more, (run t.watched c (s, deeds) calls).2.2.2 = deeds ++ more := by
  induction calls generalizing c s deeds with
  | nil => exact ⟨[], (List.append_nil deeds).symm⟩
  | cons next rest ih =>
    have hcall : ∃ s' more, (call t.watched c (s, deeds) next).state = (s', deeds ++ more) := by
      cases c with
      | unconfigured => exact ⟨s, [], by rw [call_unconfigured, List.append_nil]⟩
      | closed e => exact ⟨s, [], by rw [call_closed, List.append_nil]⟩
      | ready e =>
        rcases call_ready t.watched e (s, deeds) next with ⟨-, hc⟩ | ⟨cause, -, hc⟩ | ⟨r, -, events, hc⟩
        · exact ⟨_, _, by rw [hc]; rfl⟩
        · exact ⟨s, [], by rw [hc, List.append_nil]⟩
        · exact ⟨_, _, by rw [hc]; rfl⟩
    obtain ⟨s', more, hs⟩ := hcall
    obtain ⟨later, hl⟩ := ih (call t.watched c (s, deeds) next).client s' (deeds ++ more)
    exact ⟨more ++ later, by rw [run_cons, hs, hl, List.append_assoc]⟩

/-- **A ready client sends the requests that its calls ask for, one each and in their order.** -/
theorem sends_run_ready (e : Endpoint) (calls : List Call) (s : σ) (deeds : List Deed) :
    (sends (run t.watched (.ready e) (s, deeds) calls).2.2.2).map Prod.fst =
      (sends deeds).map Prod.fst ++ requestsOf e calls := by
  induction calls generalizing s deeds with
  | nil => exact (List.append_nil _).symm
  | cons next rest ih =>
    rw [run_cons]
    rcases call_ready t.watched e (s, deeds) next with ⟨hr, hc⟩ | ⟨cause, hr, hc⟩ | ⟨r, hr, events, hc⟩
    · rw [hc, Transport.watched_release, run_closed, requestsOf_close (Call.record?_eq_none.1 hr), sends_append,
        List.append_nil, List.map_append]
      exact List.append_nil _
    · rw [hc, ih, requestsOf_cons (Call.isClose_of_record? hr), Call.request?, hr]
      rfl
    · rw [hc, Transport.watched_send]
      dsimp only
      rw [ih, requestsOf_cons (Call.isClose_of_record? hr), Call.request?, hr, sends_append, List.map_append,
        List.append_assoc]
      rfl

end Client
end SinkReporter
