import Mathlib.Data.List.Forall2
import SinkReporter.Proofs.Http.Session
/-!
# Proofs.Http.Twins — requests that differ in a token

Two requests are twins when one header alone tells them apart, the one with the token.  If both tokens can stand in a
header, twins are built alike and sent alike: a session answers them in the same words, and what the sink receives of them
are twins again (`Session.blind_transport`).
-/
namespace SinkReporter
namespace Http

/-- A text that can stand in the value of a header. -/
def IsHeaderText (text : String) : Prop := text.toList.all Text.isInline = true

instance (text : String) : Decidable (IsHeaderText text) := inferInstanceAs (Decidable (_ = true))

/-- Headers that differ in one of a given name, which holds the one token or the other. -/
def TwinHeaders (name token token' : String) (headers headers' : List (String × String)) : Prop :=
  ∃ front back, headers = front ++ (name, "ResultSink " ++ token) :: back ∧
    headers' = front ++ (name, "ResultSink " ++ token') :: back

/-- **Requests that differ in the token of one header.** -/
structure Request.Twins (token token' : String) (r r' : Request) : Prop where
  url : r.url = r'.url
  headers : TwinHeaders "Authorization" token token' r.headers r'.headers
  body : r.body = r'.body

/-- **Deliveries that differ in the token of one header.** -/
structure Delivery.Twins (token token' : String) (d d' : Delivery) : Prop where
  target : d.target = d'.target
  headers : TwinHeaders "authorization" token token' d.headers d'.headers
  body : d.body = d'.body

/-- **Prepared requests that differ in the token of one header.** -/
structure Prepared.Twins (token token' : String) (p p' : Prepared) : Prop where
  url : p.url = p'.url
  headers : TwinHeaders "authorization" token token' p.headers p'.headers
  body : p.body = p'.body

/-- **What goes alike**: both fail for the same reason, or both come to something and the two are related. -/
inductive Alike {ε α : Type} (related : α → α → Prop) : Except ε α → Except ε α → Prop where
  | error (cause : ε) : Alike related (.error cause) (.error cause)
  | ok {a a' : α} (h : related a a') : Alike related (.ok a) (.ok a')

theorem Alike.map {ε α β : Type} {related : α → α → Prop} {related' : β → β → Prop} {f g : α → β}
    {x x' : Except ε α} (h : Alike related x x') (hfg : ∀ {a a'}, related a a' → related' (f a) (g a')) :
    Alike related' (x.map f) (x'.map g) := by
  cases h with
  | error cause => exact .error cause
  | ok h => exact .ok (hfg h)

theorem Alike.cases {ε α : Type} {related : α → α → Prop} {x x' : Except ε α} (h : Alike related x x') :
    (∃ cause, x = .error cause ∧ x' = .error cause) ∨ ∃ a a', x = .ok a ∧ x' = .ok a' ∧ related a a' := by
  cases h with
  | error cause => exact .inl ⟨cause, rfl, rfl⟩
  | ok h => exact .inr ⟨_, _, rfl, rfl, h⟩

/-! ## Preparing -/

theorem TwinHeaders.behind {name token token' : String} {headers headers' : List (String × String)}
    (h : TwinHeaders name token token' headers headers') (front : List (String × String)) :
    TwinHeaders name token token' (front ++ headers) (front ++ headers') := by
  obtain ⟨more, back, rfl, rfl⟩ := h
  exact ⟨front ++ more, back, (List.append_assoc ..).symm, (List.append_assoc ..).symm⟩

theorem TwinHeaders.before {name token token' : String} {headers headers' : List (String × String)}
    (h : TwinHeaders name token token' headers headers') (back : List (String × String)) :
    TwinHeaders name token token' (headers ++ back) (headers' ++ back) := by
  obtain ⟨front, more, rfl, rfl⟩ := h
  exact ⟨front, more ++ back, by simp, by simp⟩

section

variable {token token' : String} (ht : IsHeaderText token) (ht' : IsHeaderText token')

theorem all_isInline (ht : IsHeaderText token) : ("ResultSink " ++ token).toList.all Text.isInline = true := by
  have hfront : "ResultSink ".toList.all Text.isInline = true := by decide
  rw [String.toList_append, List.all_append, hfront, Bool.true_and]
  exact ht

include ht in
theorem buildHeaders_token (back : List (String × String)) :
    buildHeaders (("Authorization", "ResultSink " ++ token) :: back) =
      (buildHeaders back).map (("authorization", "ResultSink " ++ token) :: ·) := by
  have hname : ¬ ("Authorization" = "" ∨ (!"Authorization".toList.all isToken) = true ∨ longestName < "Authorization".length) := by
    decide
  have hlower : String.ofList ("Authorization".toList.map Char.toLower) = "authorization" := by decide
  rw [buildHeaders, if_neg hname, all_isInline ht, hlower]
  rfl

include ht ht' in
theorem buildHeaders_twins {headers headers' : List (String × String)}
    (h : TwinHeaders "Authorization" token token' headers headers') :
    Alike (TwinHeaders "authorization" token token') (buildHeaders headers) (buildHeaders headers') := by
  obtain ⟨front, back, rfl, rfl⟩ := h
  induction front with
  | nil =>
    rw [List.nil_append, List.nil_append, buildHeaders_token ht, buildHeaders_token ht']
    cases buildHeaders back with
    | error cause => exact .error cause
    | ok built => exact .ok ⟨[], built, rfl, rfl⟩
  | cons header front ih =>
    obtain ⟨name, value⟩ := header
    rw [List.cons_append, List.cons_append, buildHeaders, buildHeaders]
    by_cases hname : name = "" ∨ (!name.toList.all isToken) = true ∨ longestName < name.length
    · rw [if_pos hname, if_pos hname]
      exact .error _
    by_cases hvalue : (!value.toList.all Text.isInline) = true
    · rw [if_neg hname, if_neg hname, if_pos hvalue, if_pos hvalue]
      exact .error _
    rw [if_neg hname, if_neg hname, if_neg hvalue, if_neg hvalue]
    exact ih.map fun htwins => htwins.behind [_]

include ht ht' in
/-- **Twins are prepared alike.** -/
theorem prepare_twins {r r' : Request} (h : r.Twins token token' r') :
    Alike (Prepared.Twins token token') (prepare r) (prepare r') := by
  rw [prepare, prepare, ← h.url, ← h.body]
  cases Url.parse r.url with
  | error fault => exact .error _
  | ok given =>
    dsimp only
    by_cases hhost : (!given.hasHost) = true
    · rw [if_pos hhost, if_pos hhost]
      exact .error _
    rw [if_neg hhost, if_neg hhost]
    exact (buildHeaders_twins ht ht' h.headers).map fun htwins => ⟨rfl, htwins.behind _, rfl⟩

end

/-! ## Delivering -/

section

variable {token token' : String} {headers headers' : List (String × String)}
  (h : TwinHeaders "authorization" token token' headers headers')
include h

theorem acceptAnything_twins : acceptAnything headers = acceptAnything headers' := by
  obtain ⟨front, back, rfl, rfl⟩ := h
  unfold acceptAnything
  rw [List.any_append, List.any_append, List.any_cons, List.any_cons]

theorem framing_twins (body : String) : framing headers body = framing headers' body := by
  have hcodings : valuesIn headers "transfer-encoding" = valuesIn headers' "transfer-encoding" := by
    obtain ⟨front, back, rfl, rfl⟩ := h
    simp [valuesIn]
  rw [framing, framing, hcodings]

theorem kept_twins :
    TwinHeaders "authorization" token token' (headers.filter (!isFraming ·.1)) (headers'.filter (!isFraming ·.1)) := by
  obtain ⟨front, back, rfl, rfl⟩ := h
  have hkept (value : String) (rest : List (String × String)) :
      (("authorization", value) :: rest).filter (!isFraming ·.1) = ("authorization", value) :: rest.filter (!isFraming ·.1) :=
    List.filter_cons_of_pos rfl
  exact ⟨front.filter (!isFraming ·.1), back.filter (!isFraming ·.1),
    by rw [List.filter_append, hkept], by rw [List.filter_append, hkept]⟩

end

/-- **Twins are delivered alike**, if a message can carry the address that they share. -/
theorem delivery_twins {token token' : String} {p p' : Prepared} (h : p.Twins token token' p') :
    Alike (Delivery.Twins token token') p.delivery p'.delivery := by
  rw [Prepared.delivery, Prepared.delivery, ← h.url, ← h.body, acceptAnything_twins h.headers, framing_twins h.headers]
  by_cases hweb : (!p.url.scheme.isWeb) = true
  · rw [if_pos hweb, if_pos hweb]
    exact .error _
  by_cases hcarried : (!p.url.canBeCarried) = true
  · rw [if_neg hweb, if_neg hweb, if_pos hcarried, if_pos hcarried]
    exact .error _
  rw [if_neg hweb, if_neg hweb, if_neg hcarried, if_neg hcarried]
  exact .ok ⟨rfl, ((kept_twins h.headers).before _).before _, rfl⟩

/-! ## Sending -/

/-- **A transport is blind** to what tells apart requests that are alike: it does with them the same, in the same words,
from states that are near one another to such states. -/
structure Transport.Blind {σ : Type} (t : Transport σ) (alike : Request → Request → Prop) (near : σ → σ → Prop) : Prop where
  send : ∀ {s s' r r'}, near s s' → alike r r' →
    (t.send s r).answer = (t.send s' r').answer ∧ (t.send s r).events = (t.send s' r').events ∧
      near (t.send s r).state (t.send s' r').state
  release : ∀ {s s'}, near s s' → near (t.release s) (t.release s')

namespace Session

/-- **Sessions of twins**: they differ in what their sinks have received, which after the first deliveries are twins. -/
structure Twins (token token' : String) (before : List Delivery) (s s' : Session) : Prop where
  isOpen : s.isOpen = s'.isOpen
  timeout : s.timeout = s'.timeout
  machine : s.machine = s'.machine
  address : s.sink.address = s'.sink.address
  refuses : s.sink.refuses = s'.sink.refuses
  script : s.sink.script = s'.sink.script
  received : ∃ ds ds', s.sink.received = before ++ ds ∧ s'.sink.received = before ++ ds' ∧
    List.Forall₂ (Delivery.Twins token token') ds ds'

variable {token token' : String} {before : List Delivery}

theorem twins_self (s : Session) : Twins token token' s.sink.received s s :=
  ⟨rfl, rfl, rfl, rfl, rfl, rfl, [], [], (List.append_nil _).symm, (List.append_nil _).symm, .nil⟩

section

variable {s s' : Session} (h : Twins token token' before s s')
include h

theorem Twins.canWait : s.canWait = s'.canWait := by
  rw [Session.canWait, Session.canWait, h.timeout, h.machine]

theorem Twins.take {d d' : Delivery} (hd : d.Twins token token' d') :
    (s.sink.take d).1 = (s'.sink.take d').1 ∧
      Twins token token' before { s with sink := (s.sink.take d).2 } { s' with sink := (s'.sink.take d').2 } := by
  obtain ⟨ds, ds', hds, hds', htwins⟩ := h.received
  have hscript := h.script
  refine ⟨by simp only [Sink.take, hscript], h.isOpen, h.timeout, h.machine, h.address, h.refuses,
    by simp only [Sink.take, hscript], ?_⟩
  refine ⟨ds ++ [d], ds' ++ [d'], ?_, ?_, List.rel_append htwins (.cons hd .nil)⟩
  · simp [Sink.take, hds]
  · simp [Sink.take, hds']

/-- **Twins that are handed over are answered alike.** -/
theorem exchange_twins {p p' : Prepared} (hp : p.Twins token token' p') :
    (s.exchange p).answer = (s'.exchange p').answer ∧ (s.exchange p).events = (s'.exchange p').events ∧
      Twins token token' before (s.exchange p).state (s'.exchange p').state := by
  rw [exchange, exchange, ← hp.url, ← h.address, ← h.refuses]
  rcases (delivery_twins hp).cases with ⟨cause, hd, hd'⟩ | ⟨d, d', hd, hd', htwins⟩
  · rw [hd, hd']
    exact ⟨rfl, rfl, h⟩
  · rw [hd, hd']
    dsimp only
    by_cases hreach : p.url.scheme = .https ∨ p.url.place ≠ s.sink.address ∨ s.sink.refuses
    · rw [if_pos hreach, if_pos hreach]
      exact ⟨rfl, rfl, h⟩
    · obtain ⟨hreply, hstate⟩ := h.take htwins
      rw [if_neg hreach, if_neg hreach, hreply]
      exact ⟨rfl, rfl, hstate⟩

/-- **Twins are sent alike**, if both tokens can stand in a header. -/
theorem send_twins (ht : IsHeaderText token) (ht' : IsHeaderText token') {r r' : Request} (hr : r.Twins token token' r') :
    (s.send r).answer = (s'.send r').answer ∧ (s.send r).events = (s'.send r').events ∧
      Twins token token' before (s.send r).state (s'.send r').state := by
  cases ho : s.isOpen with
  | false =>
    rw [send_released ho, send_released (h.isOpen ▸ ho)]
    exact ⟨rfl, rfl, h⟩
  | true =>
    have ho' : s'.isOpen = true := h.isOpen ▸ ho
    rcases (prepare_twins ht ht' hr).cases with ⟨cause, hp, hp'⟩ | ⟨p, p', hp, hp', htwins⟩
    · rw [send_unprepared ho hp, send_unprepared ho' hp']
      exact ⟨rfl, rfl, h⟩
    cases hw : s.canWait with
    | true =>
      rw [send_prepared ho hw hp, send_prepared ho' (h.canWait ▸ hw) hp']
      exact exchange_twins h htwins
    | false =>
      -- nothing is told of the exchange, but it may have taken place
      rw [send_of_not_canWait ho hw hp, send_of_not_canWait ho' (h.canWait ▸ hw) hp', ← h.machine]
      refine ⟨rfl, rfl, ?_⟩
      cases s.machine.getsOut with
      | true => exact (exchange_twins h htwins).2.2
      | false => exact h

end

/-- **A session is blind to which of two tokens a request holds**, if both can stand in a header. -/
theorem blind_transport (ht : IsHeaderText token) (ht' : IsHeaderText token') (before : List Delivery) :
    transport.Blind (Request.Twins token token') (Twins token token' before) where
  send hs hr := send_twins hs ht ht' hr
  release hs := ⟨rfl, hs.timeout, hs.machine, hs.address, hs.refuses, hs.script, hs.received⟩

end Session
end Http
end SinkReporter
