import SinkReporter.Proofs.Http.Building
/-!
# Proofs.Http.Session — a session against a sink whose replies are laid out

Over every list of sends and releases: what reaches the sink are the deliveries of the requests that are sent before the
first release and can be built, one each and in their order, and each of these sends is answered by the next reply that
has not been used.  Where a session stands after some orders hangs on the orders alone and not on how they were answered
(`run_after`), and so the answer to each of them is told by the number of deliveries before it.
-/
namespace SinkReporter
namespace Http

inductive Order where
  | send (request : Request)
  | release

namespace Order

def isRelease : Order → Bool
  | .release => true
  | .send _ => false

/-- What is delivered of an order, if it asks to send a request that can be built. -/
def delivery? : Order → Option Delivery
  | .send r => (build r).toOption.map (·.2)
  | .release => none

end Order

/-- **What orders deliver**: the requests before the first release that can be built. -/
def deliveries (orders : List Order) : List Delivery := (orders.takeWhile (!·.isRelease)).filterMap (·.delivery?)

theorem deliveries_release (rest : List Order) : deliveries (.release :: rest) = [] := rfl

theorem deliveries_send (r : Request) (rest : List Order) :
    deliveries (.send r :: rest) = ((build r).toOption.map (·.2)).toList ++ deliveries rest := by
  rw [deliveries, List.takeWhile_cons_of_pos rfl, List.filterMap_cons, Order.delivery?]
  cases build r <;> rfl

theorem deliveries_append : ∀ {before : List Order}, before.any Order.isRelease = false → ∀ rest : List Order,
    deliveries (before ++ rest) = deliveries before ++ deliveries rest
  | [], _, _ => rfl
  | .release :: _, h, _ => by cases h
  | .send r :: before, h, rest => by
    rw [List.cons_append, deliveries_send, deliveries_send, @deliveries_append before h, List.append_assoc]

namespace Transport

variable {σ : Type} (t : Transport σ)

def obey (s : σ) : Order → Sent σ
  | .send r => t.send s r
  | .release => ⟨.ok (), [], t.release s⟩

/-- **What comes of orders, one after the other**: the answers with the events on the way, and the state in the end. -/
def run : σ → List Order → List (Except SessionFault Unit × List Event) × σ
  | s, [] => ([], s)
  | s, next :: rest =>
    let sent := t.obey s next
    let (answers, s) := run sent.state rest
    ((sent.answer, sent.events) :: answers, s)

theorem run_cons (s : σ) (next : Order) (rest : List Order) :
    t.run s (next :: rest) =
      (((t.obey s next).answer, (t.obey s next).events) :: (t.run (t.obey s next).state rest).1,
        (t.run (t.obey s next).state rest).2) := rfl

theorem run_append : ∀ (xs ys : List Order) (s : σ),
    t.run s (xs ++ ys) = ((t.run s xs).1 ++ (t.run (t.run s xs).2 ys).1, (t.run (t.run s xs).2 ys).2)
  | [], _, _ => rfl
  | x :: xs, ys, s => by
    rw [List.cons_append, run_cons, run_append xs ys, run_cons t s x xs]
    rfl

theorem length_run : ∀ (orders : List Order) (s : σ), (t.run s orders).1.length = orders.length
  | [], _ => rfl
  | next :: rest, s => by rw [run_cons, List.length_cons, length_run rest, List.length_cons]

/-- What comes of one order among others is what comes of it where the orders before it lead. -/
theorem run_middle (before : List Order) (next : Order) (rest : List Order) (s : σ) :
    ((t.run s (before ++ next :: rest)).1.map Prod.fst)[before.length]? =
      some (t.obey (t.run s before).2 next).answer := by
  rw [run_append, run_cons, List.getElem?_map,
    List.getElem?_append_right (Nat.le_of_eq (length_run t before s)), length_run, Nat.sub_self]
  rfl

end Transport

/-! ## One order -/

/-- **A sink hears what is sent to an address**: it listens there and lets everyone in. -/
structure Sink.Hears (sink : Sink) (url : Url) : Prop where
  scheme : url.scheme ≠ .https
  place : url.place = sink.address
  admits : sink.refuses = false

instance (sink : Sink) (url : Url) : Decidable (sink.Hears url) :=
  decidable_of_iff (url.scheme ≠ .https ∧ url.place = sink.address ∧ sink.refuses = false)
    ⟨fun ⟨hs, hp, ha⟩ => ⟨hs, hp, ha⟩, fun h => ⟨h.scheme, h.place, h.admits⟩⟩

def Order.IsHeard (sink : Sink) : Order → Prop
  | .send r => ∀ url d, build r = .ok (url, d) → sink.Hears url
  | .release => True

instance (sink : Sink) : (next : Order) → Decidable (next.IsHeard sink)
  | .send r =>
    decidable_of_iff (∀ built ∈ (build r).toOption, sink.Hears built.1)
      ⟨fun h url d hb => h (url, d) (by rw [hb]; rfl), fun h built hb => by
        cases hr : build r with
        | error cause => rw [hr] at hb; cases hb
        | ok other => rw [hr] at hb; cases hb; exact h _ _ hr⟩
  | .release => isTrue trivial

def Heard (sink : Sink) (orders : List Order) : Prop := ∀ next ∈ orders, next.IsHeard sink

instance (sink : Sink) (orders : List Order) : Decidable (Heard sink orders) :=
  inferInstanceAs (Decidable (∀ next ∈ orders, next.IsHeard sink))

theorem Heard.front {sink : Sink} {before rest : List Order} (h : Heard sink (before ++ rest)) : Heard sink before :=
  fun next hn => h next (List.mem_append_left _ hn)

theorem Reply.answered_ne_clockOverflow (reply : Reply) (url : String) : reply.answered url ≠ .error .clockOverflow := by
  cases reply with
  | hangUp => simp [Reply.answered]
  | silence => simp [Reply.answered]
  | answer status body truncated =>
    rw [Reply.answered]
    split
    · simp
    · split <;> simp

namespace Session

def advanced (s : Session) (ds : List Delivery) : Session :=
  { s with sink := { s.sink with script := s.sink.script.drop ds.length, received := s.sink.received ++ ds } }

theorem send_released {s : Session} (h : s.isOpen = false) (r : Request) : s.send r = ⟨.error .released, [], s⟩ := by
  rw [send, h]
  rfl

theorem obey_send (s : Session) (r : Request) : transport.obey s (.send r) = s.send r := rfl

theorem connect_eq_ok {s opened : Session} {timeout : Option UInt64} (h : s.connect timeout = .ok opened) :
    opened.isOpen = true ∧ opened.sink = s.sink := by
  unfold connect at h
  split at h
  · cases h
  · cases h
    exact ⟨rfl, rfl⟩

theorem send_unprepared {s : Session} (h : s.isOpen = true) {r : Request} {cause : RequestFault}
    (hp : prepare r = .error cause) : s.send r = ⟨.error (.request cause), [], s⟩ := by
  rw [send, if_neg (by simp [h]), hp]

/-- **How a request that has been handed over goes**: nothing reaches the sink and it fails, or the sink takes one
delivery. -/
theorem exchange_cases (s : Session) (p : Prepared) :
    (∃ fault, fault ≠ .clockOverflow ∧ s.exchange p = ⟨.error fault, [], s⟩) ∨
    ∃ d, p.delivery = .ok d ∧
      s.exchange p = ⟨(s.sink.take d).1.answered p.url.text, rejection ((s.sink.take d).1.answered p.url.text),
        { s with sink := (s.sink.take d).2 }⟩ := by
  rw [exchange]
  cases hd : p.delivery with
  | error cause => exact .inl ⟨.request cause, by simp, rfl⟩
  | ok d =>
    by_cases hreach : p.url.scheme = .https ∨ p.url.place ≠ s.sink.address ∨ s.sink.refuses
    · exact .inl ⟨.request (.refused p.url.text), by simp, if_pos hreach⟩
    · exact .inr ⟨d, rfl, if_neg hreach⟩

theorem sink_exchange (s : Session) (p : Prepared) :
    (s.exchange p).state.sink = s.sink ∨ ∃ d, (s.exchange p).state.sink = (s.sink.take d).2 := by
  rcases exchange_cases s p with ⟨fault, -, hexchange⟩ | ⟨d, -, hexchange⟩
  · exact .inl (by rw [hexchange])
  · exact .inr ⟨d, by rw [hexchange]⟩

/-- The clock cannot be set: that is all that is told, whether the request gets out or not. -/
theorem send_of_not_canWait {s : Session} (h : s.isOpen = true) (hw : s.canWait = false) {r : Request} {p : Prepared}
    (hp : prepare r = .ok p) :
    s.send r = ⟨.error .clockOverflow, [], if s.machine.getsOut then (s.exchange p).state else s⟩ := by
  rw [send, if_neg (by simp [h]), hp]
  dsimp only
  rw [if_neg (by simp [hw])]

section

variable {s : Session} (h : s.isOpen = true) (hw : s.canWait = true)
include h hw

theorem send_prepared {r : Request} {p : Prepared} (hp : prepare r = .ok p) : s.send r = s.exchange p := by
  rw [send, if_neg (by simp [h]), hp]
  dsimp only
  rw [if_pos hw]

theorem send_unbuilt {r : Request} {cause : RequestFault} (hr : build r = .error cause) :
    s.send r = ⟨.error (.request cause), [], s⟩ := by
  cases hp : prepare r with
  | error cause' =>
    rw [build, hp] at hr
    cases hr
    exact send_unprepared h hp
  | ok p =>
    rw [build, hp] at hr
    rw [send_prepared h hw hp, exchange]
    change p.delivery.map _ = _ at hr
    cases hd : p.delivery with
    | error cause' =>
      rw [hd] at hr
      cases hr
      rfl
    | ok d =>
      rw [hd] at hr
      cases hr

/-- **What is built** goes nowhere unless the sink listens at its address; otherwise the sink takes it and its reply
decides. -/
theorem send_built {r : Request} {url : Url} {d : Delivery} (hb : build r = .ok (url, d)) :
    s.send r =
      if url.scheme = .https ∨ url.place ≠ s.sink.address ∨ s.sink.refuses then
        ⟨.error (.request (.refused url.text)), [], s⟩
      else
        ⟨(s.sink.take d).1.answered url.text, rejection ((s.sink.take d).1.answered url.text),
          { s with sink := (s.sink.take d).2 }⟩ := by
  obtain ⟨p, hp, rfl, hd⟩ := build_eq_ok.1 hb
  rw [send_prepared h hw hp, exchange, hd]

/-- **How sending on an open session goes**: nothing reaches the sink and it fails, or the sink takes one delivery. -/
theorem send_cases (r : Request) :
    (∃ fault, fault ≠ .clockOverflow ∧ s.send r = ⟨.error fault, [], s⟩) ∨
    ∃ url d, build r = .ok (url, d) ∧
      s.send r = ⟨(s.sink.take d).1.answered url.text, rejection ((s.sink.take d).1.answered url.text),
        { s with sink := (s.sink.take d).2 }⟩ := by
  cases hp : prepare r with
  | error cause => exact .inl ⟨.request cause, by simp, send_unprepared h hp⟩
  | ok p =>
    rw [send_prepared h hw hp]
    refine (exchange_cases s p).imp_right ?_
    rintro ⟨d, hd, hexchange⟩
    exact ⟨p.url, d, build_eq_ok.2 ⟨p, hp, rfl, hd⟩, hexchange⟩

theorem send_ne_clockOverflow (r : Request) : (s.send r).answer ≠ .error .clockOverflow := by
  rcases send_cases h hw r with ⟨fault, hfault, hsend⟩ | ⟨url, d, -, hsend⟩
  · rw [hsend]
    exact fun h => hfault (Except.error.inj h)
  · rw [hsend]
    exact Reply.answered_ne_clockOverflow _ _

/-- **What is built and heard uses the next reply**, and is answered by it. -/
theorem send_heard {r : Request} {url : Url} {d : Delivery} (hr : build r = .ok (url, d)) (hheard : s.sink.Hears url) :
    s.send r = ⟨(s.sink.script.headD .fine).answered url.text, rejection ((s.sink.script.headD .fine).answered url.text),
      s.advanced [d]⟩ := by
  have hreach : ¬ (url.scheme = .https ∨ url.place ≠ s.sink.address ∨ s.sink.refuses = true) := by
    rw [hheard.admits]
    simp [hheard.scheme, hheard.place]
  rw [send_built h hw hr, if_neg hreach]
  show _ = Sent.mk _ _ (s.advanced [d])
  rw [advanced, List.length_singleton, List.drop_one]
  rfl

end

/-- **Sending once, the sink takes one delivery at most**, whether the clock can be set or not. -/
theorem sink_send {s : Session} (h : s.isOpen = true) (r : Request) :
    (s.send r).state.sink = s.sink ∨ ∃ d, (s.send r).state.sink = (s.sink.take d).2 := by
  cases hp : prepare r with
  | error cause => exact .inl (by rw [send_unprepared h hp])
  | ok p =>
    cases hw : s.canWait with
    | true =>
      rw [send_prepared h hw hp]
      exact sink_exchange s p
    | false =>
      rw [send_of_not_canWait h hw hp]
      dsimp only
      split
      · exact sink_exchange s p
      · exact .inl rfl

theorem canWait_of_send {s : Session} (h : s.isOpen = true) {r : Request} (hr : (s.send r).answer = .ok ()) :
    s.canWait = true := by
  cases hw : s.canWait with
  | true => rfl
  | false =>
    cases hp : prepare r with
    | error cause => simp [send_unprepared h hp] at hr
    | ok p => simp [send_of_not_canWait h hw hp] at hr

theorem advanced_nil (s : Session) : s.advanced [] = s := by
  rw [advanced, List.append_nil]
  rfl

theorem advanced_advanced (s : Session) (xs ys : List Delivery) : (s.advanced xs).advanced ys = s.advanced (xs ++ ys) := by
  simp only [advanced, List.drop_drop, List.append_assoc, List.length_append]

/-! ## Runs -/

theorem run_of_released : ∀ (orders : List Order) {s : Session}, s.isOpen = false →
    transport.run s orders = (orders.map fun next => (if next.isRelease then .ok () else .error .released, []), s)
  | [], _, _ => rfl
  | next :: rest, s, h => by
    have hobey : transport.obey s next = ⟨if next.isRelease then .ok () else .error .released, [], s⟩ := by
      cases next with
      | send r => exact send_released h r
      | release =>
        obtain ⟨isOpen, timeout, machine, sink⟩ := s
        cases h
        rfl
    rw [Transport.run_cons, hobey, run_of_released rest h, List.map_cons]

/-- **Where a session stands after orders**, however they were answered: released if one of them was the order to release,
and with one reply used for each delivery. -/
def after (s : Session) (orders : List Order) : Session :=
  { s.advanced (deliveries orders) with isOpen := s.isOpen && !orders.any Order.isRelease }

theorem after_nil {s : Session} : s.after [] = s := by
  rw [after, deliveries, List.takeWhile_nil, List.filterMap_nil, advanced_nil, List.any_nil, Bool.not_false, Bool.and_true]

theorem after_release (s : Session) (rest : List Order) : s.after (.release :: rest) = s.release := by
  rw [after, deliveries_release, advanced_nil, List.any_cons, Order.isRelease, Bool.true_or, Bool.not_true, Bool.and_false]
  rfl

theorem after_send (s : Session) (r : Request) (rest : List Order) :
    s.after (.send r :: rest) = (s.advanced ((build r).toOption.map (·.2)).toList).after rest := by
  simp only [after, deliveries_send, advanced_advanced, List.any_cons, Order.isRelease, Bool.false_or]
  rfl

/-- **The step**: sending takes an open session to where it stands after that. -/
theorem state_send {s : Session} (h : s.isOpen = true) (hw : s.canWait = true) {r : Request}
    (hheard : ∀ url d, build r = .ok (url, d) → s.sink.Hears url) :
    (s.send r).state = s.advanced ((build r).toOption.map (·.2)).toList := by
  cases hr : build r with
  | error cause => rw [send_unbuilt h hw hr]; exact (advanced_nil s).symm
  | ok built => rw [send_heard h hw hr (hheard _ _ hr)]; rfl

theorem heard_advanced {s : Session} {orders : List Order} (h : Heard s.sink orders) (ds : List Delivery) :
    Heard (s.advanced ds).sink orders := fun next hn => by
  cases next with
  | send r => exact fun url d hb => ⟨(h _ hn url d hb).scheme, (h _ hn url d hb).place, (h _ hn url d hb).admits⟩
  | release => trivial

/-- **The run**: orders take an open session to where it stands after them. -/
theorem run_after : ∀ (orders : List Order) {s : Session}, s.isOpen = true → s.canWait = true → Heard s.sink orders →
    (transport.run s orders).2 = s.after orders
  | [], _, _, _, _ => after_nil.symm
  | .release :: rest, s, _, _, _ => by
    rw [Transport.run_cons, run_of_released rest rfl, after_release]
    rfl
  | .send r :: rest, s, h, hw, hheard => by
    -- the send leaves an open session of the same timeout, whose sink hears the rest
    obtain ⟨hr, hrest⟩ := List.forall_mem_cons.1 hheard
    rw [Transport.run_cons, after_send, ← @run_after rest (s.advanced _) h hw (heard_advanced hrest _), ← state_send h hw hr]
    rfl

end Session

/-! ## Answers -/

/-- A body with a byte-order mark in front, which says how the rest is to be read. -/
def isMarked : Bytes → Bool
  | 0xEF :: 0xBB :: 0xBF :: _ => true
  | 0xFE :: 0xFF :: _ => true
  | 0xFF :: 0xFE :: _ => true
  | _ => false

theorem bodyText_of_unmarked {body : Bytes} (h : isMarked body = false) : bodyText body = Text.ofBytesLossy body := by
  unfold bodyText
  split
  · cases h
  · cases h
  · cases h
  · rfl

/-- **How a last word answers a send.**  It goes well with a status from 200 to 299 and is rejected with any other status of
three digits.  The text of a rejection is the body's, read as UTF-8 unless it is marked, and there is none if the body
breaks off or the status is one that comes without a body.  A status of more digits is no reply at all. -/
def Reply.verdict (url : String) : Reply → Except SessionFault Unit
  | .hangUp => .error (.request (.hungUp url))
  | .silence => .error (.request (.timedOut url))
  | .answer status body truncated =>
    if status ≤ 299 then .ok ()
    else if 999 < status then .error (.request (.hungUp url))
    else
      .error (.status status
        (if truncated ∨ status = 304 then ""
          else if isMarked body then bodyText body
          else Text.ofBytesLossy body))

/-- A reply that accepts what was sent: an answer with a status from 200 to 299. -/
def Reply.Accepts : Reply → Prop
  | .answer status _ _ => 200 ≤ status ∧ status ≤ 299
  | _ => False

/-- **A send goes well just when the reply accepts it.** -/
theorem answered_eq_ok {reply : Reply} {url : String} : reply.answered url = .ok () ↔ reply.Accepts := by
  cases reply with
  | hangUp => simp [Reply.answered, Reply.Accepts]
  | silence => simp [Reply.answered, Reply.Accepts]
  | answer status body truncated =>
    have hsuccess : isSuccess status = true ↔ 200 ≤ status ∧ status ≤ 299 := by simp [isSuccess]; omega
    have hfinal : isSuccess status = true → isFinal status = true := by
      intro h
      have := hsuccess.1 h
      simp [isFinal]
      omega
    rw [Reply.answered, Reply.Accepts, ← hsuccess]
    by_cases hok : isSuccess status = true
    · simp [hok, hfinal hok]
    · by_cases hlast : isFinal status = true
      · simp [hok, hlast]
      · simp [hok, hlast]

/-- A reply that is no word on the way. -/
def Reply.IsLast : Reply → Prop
  | .answer status _ _ => 200 ≤ status
  | _ => True

instance : (reply : Reply) → Decidable reply.IsLast
  | .answer status _ _ => inferInstanceAs (Decidable (200 ≤ status))
  | .hangUp => isTrue trivial
  | .silence => isTrue trivial

theorem Reply.isLast_fine : Reply.fine.IsLast := Nat.le_refl 200

theorem answered_eq_verdict {reply : Reply} (h : reply.IsLast) (url : String) : reply.answered url = reply.verdict url := by
  cases reply with
  | hangUp => rfl
  | silence => rfl
  | answer status body truncated =>
    have hlow : 200 ≤ status := h
    have hlong : (!isFinal status) = true ↔ 999 < status := by
      simp only [isFinal, Bool.not_eq_true', Bool.or_eq_false_iff, Bool.and_eq_false_iff, decide_eq_false_iff_not]
      omega
    have hsuccess : isSuccess status = true ↔ status ≤ 299 := by
      simp only [isSuccess, Bool.and_eq_true, decide_eq_true_eq]
      omega
    have htext : (if isMarked body then bodyText body else Text.ofBytesLossy body) = bodyText body := by
      cases hm : isMarked body with
      | true => rfl
      | false => exact (bodyText_of_unmarked hm).symm
    rw [Reply.answered, Reply.verdict, htext]
    by_cases hok : status ≤ 299
    · rw [if_pos hok, if_pos (hsuccess.2 hok), if_neg fun hl => by have := hlong.1 hl; omega]
    by_cases hdigits : 999 < status
    · rw [if_neg hok, if_pos hdigits, if_pos (hlong.2 hdigits)]
    -- of the statuses without a body one is below 200 and one is a success
    have hbodiless : isBodiless status = decide (status = 304) := by
      simp only [isBodiless, show status ≠ 101 by omega, show status ≠ 204 by omega, decide_false, Bool.false_or]
    rw [if_neg hok, if_neg hdigits, if_neg fun hl => hdigits (hlong.1 hl), if_neg fun hs => hok (hsuccess.1 hs), hbodiless]
    simp only [Bool.or_eq_true, decide_eq_true_eq]

namespace Session

/-- **A session serves orders.**  What its sink receives are the deliveries of the orders, one each and in their order, and
each uses one reply.  A request that is sent after a release or cannot be built is refused, and any other is answered by the
next reply that is laid out, or by a fine one when none is left.  Wherever the orders are cut in two, the second part is
answered by a session that stands where the orders of the first part lead, however those were answered. -/
structure Served (s : Session) (orders : List Order) (answers : List (Except SessionFault Unit)) (final : Session) :
    Prop where
  length_eq : answers.length = orders.length
  received : final.sink.received = s.sink.received ++ deliveries orders
  left : final.sink.script = s.sink.script.drop (deliveries orders).length
  carried : ∀ r, .send r ∈ orders → ∀ url d, build r = .ok (url, d) → d.Carries r
  released : ∀ before r rest, orders = before ++ .send r :: rest → before.any Order.isRelease = true →
    answers[before.length]? = some (.error .released)
  unbuilt : ∀ before r rest cause, orders = before ++ .send r :: rest → before.any Order.isRelease = false →
    build r = .error cause → answers[before.length]? = some (.error (.request cause))
  answered : ∀ before r rest url d, orders = before ++ .send r :: rest → before.any Order.isRelease = false →
    build r = .ok (url, d) → (deliveries orders)[(deliveries before).length]? = some d ∧
      answers[before.length]? = some ((s.sink.script.getD (deliveries before).length .fine).verdict url.text)
  onward : ∀ before rest, orders = before ++ rest →
    answers = answers.take before.length ++ (transport.run (s.after before) rest).1.map Prod.fst

section

variable {s : Session} (h : s.isOpen = true) (hw : s.canWait = true)
include h

theorem isOpen_after (orders : List Order) : (s.after orders).isOpen = !orders.any Order.isRelease := by
  rw [after, h]
  exact Bool.true_and _

include hw

theorem answer_send {before rest : List Order} {r : Request} (hheard : Heard s.sink (before ++ .send r :: rest)) :
    ((transport.run s (before ++ .send r :: rest)).1.map Prod.fst)[before.length]? =
      some ((s.after before).send r).answer := by
  rw [Transport.run_middle, run_after before h hw hheard.front, obey_send]

/-- What is heard after some orders is answered by the reply whose number is that of the deliveries before. -/
theorem answer_after {before : List Order} {r : Request} {url : Url} {d : Delivery}
    (hlast : ∀ reply ∈ s.sink.script, reply.IsLast) (ho : before.any Order.isRelease = false)
    (hb : build r = .ok (url, d)) (hheard : s.sink.Hears url) :
    ((s.after before).send r).answer = (s.sink.script.getD (deliveries before).length .fine).verdict url.text := by
  have hreply : (s.sink.script.getD (deliveries before).length .fine).IsLast := by
    rw [List.getD_eq_getElem?_getD]
    cases hat : s.sink.script[(deliveries before).length]? with
    | none => exact Reply.isLast_fine
    | some reply => exact hlast reply (List.mem_of_getElem? hat)
  have hopen : (s.after before).isOpen = true := by rw [isOpen_after h, ho]; rfl
  rw [send_heard hopen hw hb ⟨hheard.scheme, hheard.place, hheard.admits⟩]
  show ((s.sink.script.drop (deliveries before).length).headD .fine).answered url.text = _
  rw [List.headD_eq_head?_getD, List.head?_drop, ← List.getD_eq_getElem?_getD, answered_eq_verdict hreply]

end

end Session
end Http
end SinkReporter
