import SinkReporter.Proofs.Client.Traffic
/-!
# Proofs.Client.Release — a session is released once, and last

Over every run, whatever the transport answers: a client with an endpoint releases its transport at the first call that
closes it, or when it is let go if no call does, and never again; nothing is sent after that (`run_released`).  What is
kept from call to call is that the transport is released just when the client is closed (`Client.Holds`).
-/
namespace SinkReporter

open Http (Transport Deed)

def Http.Deed.isRelease : Deed → Bool
  | .released => true
  | .sent .. => false

/-- **A run of calls on a client with an endpoint released its session.**  `point` gives the client, and the deeds of
its transport, where the first calls have led; `final` are the deeds when the client has been let go. -/
structure Released (e : Endpoint) (calls : List Call) (point : List Call → Client × List Deed) (final : List Deed) :
    Prop where
  /-- There is one release. -/
  once : final.countP Deed.isRelease = 1
  /-- Nothing comes after it. -/
  last : ∃ sent, final = sent ++ [.released]
  /-- The client keeps its endpoint, and it is closed from the first call on that closes it. -/
  client : ∀ before after, calls = before ++ after → (point before).1.isClosed = before.any Call.isClose ∧
    (point before).1.isConfigured = true ∧ (point before).1.endpoint? = some e
  /-- Up to that call there is no release. -/
  held : ∀ before after, calls = before ++ after → before.any Call.isClose = false →
    (point before).2.countP Deed.isRelease = 0
  /-- That call releases, and it is the last that makes the transport do anything. -/
  closing : ∀ before after, calls = before ++ .close :: after → before.any Call.isClose = false →
    (point (before ++ [.close])).2 = (point before).2 ++ [.released] ∧ final = (point (before ++ [.close])).2
  /-- Without such a call, letting the client go releases. -/
  dropping : calls.any Call.isClose = false → final = (point calls).2 ++ [.released]

namespace Client

/-- **A client for an endpoint and what it has made its transport do**: while the client is ready there has been no
release, and once it is closed the last deed was the one release. -/
def Holds (e : Endpoint) : Client → List Deed → Prop
  | .unconfigured, _ => False
  | .ready e', deeds => e' = e ∧ deeds.countP Deed.isRelease = 0
  | .closed e', deeds => e' = e ∧ deeds.countP Deed.isRelease = 1 ∧ ∃ sent, deeds = sent ++ [.released]

variable {σ : Type} (t : Transport σ)

theorem holds_call {e : Endpoint} {c : Client} {s : σ × List Deed} (h : Holds e c s.2) (next : Call) :
    Holds e (call t.watched c s next).client (call t.watched c s next).state.2 := by
  cases c with
  | unconfigured => exact h.elim
  | closed e' => rw [call_closed]; exact h
  | ready e' =>
    obtain ⟨rfl, hdeeds⟩ := h
    rcases call_ready t.watched e' s next with ⟨-, hc⟩ | ⟨cause, -, hc⟩ | ⟨r, -, events, hc⟩
    · rw [hc, Transport.watched_release]
      exact ⟨rfl, by rw [List.countP_append, hdeeds]; rfl, s.2, rfl⟩
    · rw [hc]
      exact ⟨rfl, hdeeds⟩
    · rw [hc, Transport.watched_send]
      exact ⟨rfl, by rw [List.countP_append, hdeeds]; rfl⟩

theorem holds_run {e : Endpoint} : ∀ (calls : List Call) {c : Client} {s : σ × List Deed}, Holds e c s.2 →
    Holds e (run t.watched c s calls).2.1 (run t.watched c s calls).2.2.2
  | [], _, _, h => h
  | next :: rest, c, s, h => by
    rw [run_cons]
    exact holds_run rest (holds_call t h next)

theorem holds_run_ready (e : Endpoint) (calls : List Call) (s : σ) :
    Holds e (run t.watched (.ready e) (s, []) calls).2.1 (run t.watched (.ready e) (s, []) calls).2.2.2 :=
  holds_run t calls ⟨rfl, rfl⟩

theorem drop_eq_call (c : Client) (s : σ) : drop t c s = call t c s .close := rfl

theorem drop_watched (c : Client) (s : σ) (deeds : List Deed) :
    (drop t c s).state = (drop t.watched c (s, deeds)).state.1 := by
  rw [drop_eq_call, drop_eq_call, call_watched t c s deeds]

theorem holds_drop {e : Endpoint} {c : Client} {s : σ × List Deed} (h : Holds e c s.2) :
    Holds e (.closed e) (drop t.watched c s).state.2 := by
  have hdrop := holds_call t h .close
  cases c with
  | unconfigured => exact h.elim
  | ready e' => exact h.1 ▸ hdrop
  | closed e' => exact h.1 ▸ hdrop

theorem run_ready_close (e : Endpoint) (s : σ) (rest : List Call) :
    (run t (.ready e) s (.close :: rest)).2 = (.closed e, t.release s) := by
  rw [run_cons]
  exact congrArg Prod.snd (run_closed t e rest (t.release s))

/-- **A ready client releases its session.** -/
theorem released_run_ready (e : Endpoint) (calls : List Call) (s : σ) :
    let point := fun before => (run t.watched (.ready e) (s, []) before).2
    Released e calls (fun before => ((point before).1, (point before).2.2))
      (drop t.watched (point calls).1 (point calls).2).state.2 where
  once := (holds_drop t (holds_run_ready t e calls s)).2.1
  last := (holds_drop t (holds_run_ready t e calls s)).2.2
  client before after _ := by
    dsimp only
    rw [client_run_ready]
    cases before.any Call.isClose <;> exact ⟨rfl, rfl, rfl⟩
  held before after _ ho := by
    have hbefore := holds_run_ready t e before s
    rw [ready_of_open t.watched e before _ ho] at hbefore
    exact hbefore.2
  closing before after hs ho := by
    subst hs
    dsimp only
    rw [run_append, run_append, ready_of_open t.watched e before _ ho, run_ready_close, run_ready_close]
    exact ⟨rfl, rfl⟩
  dropping ho := by
    dsimp only
    rw [ready_of_open t.watched e calls _ ho]
    rfl

/-- **Every run releases its session once, and last, whatever the transport.**  Watching the transport changes nothing,
letting the client go included.  With an endpoint the run is `Released`; without one the transport is never touched, and
the client stays as it was. -/
theorem run_released (endpoint? : Option Endpoint) (s : σ) (calls : List Call) :
    let point := fun before => (run t.watched (ofEndpoint endpoint?) (s, []) before).2
    let gone := drop t.watched (point calls).1 (point calls).2
    (∀ before, (run t (ofEndpoint endpoint?) s before).2 = ((point before).1, (point before).2.1)) ∧
    (drop t (point calls).1 (point calls).2.1).state = gone.state.1 ∧
    match endpoint? with
    | none => gone.state.2 = [] ∧ ∀ before after, calls = before ++ after → (point before).2.2 = [] ∧
        (point before).1.isClosed = false ∧ (point before).1.isConfigured = false ∧ (point before).1.endpoint? = none
    | some e => Released e calls (fun before => ((point before).1, (point before).2.2)) gone.state.2 := by
  dsimp only
  refine ⟨fun before => ?_, drop_watched t _ _ _, ?_⟩
  · rw [run_watched t before _ s []]
  · cases endpoint? with
    | none =>
      dsimp only [ofEndpoint]
      refine ⟨by rw [run_unconfigured]; rfl, fun before after _ => ?_⟩
      rw [run_unconfigured]
      exact ⟨rfl, rfl, rfl, rfl⟩
    | some e => exact released_run_ready t e calls s

end Client
end SinkReporter
