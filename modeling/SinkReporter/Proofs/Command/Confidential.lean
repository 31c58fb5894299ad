import SinkReporter.Proofs.Client.Confidential
import SinkReporter.Proofs.Command.Course
import SinkReporter.Proofs.Settings.Loading
/-!
# Proofs.Command.Confidential — nobody learns a token from the program

Whether there is a token is all that is ever told of it.  Of two worlds whose endpoints hold different tokens the same is
told, and two clients with different tokens answer and log alike, while what they send differs in one header
(`token_confidential`).
-/
namespace SinkReporter
namespace Command

open Http (Network Session Request IsHeaderText)

/-- **Two worlds whose endpoints differ in the token alone**, there being one in both or in neither. -/
structure TokensDiffer (w w' : World) (name address token token' : String) : Prop where
  here : Context.tryResolve w name = .ok ⟨address, token⟩
  there : Context.tryResolve w' name = .ok ⟨address, token'⟩
  known : token = "" ↔ token' = ""

section

variable {w w' : World} {s : Settings} {address token token' : String}

theorem contextExit_of_tokens (h : TokensDiffer w w' s.contextVariable address token token') :
    contextExit w s = contextExit w' s := by
  have hlines : sinkLines s.contextVariable (.ok ⟨address, token⟩) = sinkLines s.contextVariable (.ok ⟨address, token'⟩) := by
    unfold sinkLines
    simp only [h.known]
  rw [contextExit, contextExit, h.here, h.there, hlines]

theorem ofSettings_of_tokens (h : TokensDiffer w w' s.contextVariable address token token') :
    (Client.ofSettings w s).2 = (Client.ofSettings w' s).2 := by
  rw [Client.ofSettings, Client.ofSettings, Client.ofResolver, Client.ofResolver, Context.resolve, Context.resolve, h.here,
    h.there]

theorem gather_of_tokens {path : Bytes} (hb : w.Besides w' path) (hpath : w.value? s.contextVariable = some path)
    (h : TokensDiffer w w' s.contextVariable address token token') {i : Invocation}
    (hs : Settings.gather w (settingsPath (w.value? settingsVariable) i) = .ok s) :
    Settings.gather w' (settingsPath (w'.value? settingsVariable) i) = .ok s := by
  obtain ⟨path', text, c, hvalue, htext, hc, -⟩ := Context.tryResolve_eq_ok.1 h.here
  obtain rfl : path' = path := by
    have hsame := (World.path?_eq_some.1 hvalue).1
    rw [hpath] at hsame
    exact (Option.some.inj hsame).symm
  rw [← hb.value]
  exact Settings.gather_of_besides hb htext hc hs

end

/-- **A token is confidential.**  Over two worlds whose endpoints differ in the token alone, where the settings are the
same or the context file is all that differs, the command that tells of the sink ends in the same way, and opening a client
logs the same.  Over HTTP, whatever the sink replies and whatever is to be reported, two clients of one address with tokens
that can stand in a header run alike: what they are told, what they log and what they ask to be sent differs nowhere but in
the value of one header, and so does what the sink receives. -/
theorem token_confidential :
    (∀ (w w' : World) (settings : Option Bytes) (verbose : Bool) (s : Settings) (address token token' : String),
      let asked : Invocation := ⟨.context, settings, verbose⟩
      Settings.gather w (settingsPath (w.value? settingsVariable) asked) = .ok s →
      Settings.gather w' (settingsPath (w'.value? settingsVariable) asked) = .ok s ∨
        (∃ path, w.Besides w' path ∧ w.value? s.contextVariable = some path) →
      TokensDiffer w w' s.contextVariable address token token' →
      (∀ {σ : Type} (n : Network σ) (state : σ), carryOut n state w asked = carryOut n state w' asked) ∧
        (Client.ofSettings w s).2 = (Client.ofSettings w' s).2) ∧
    ∀ (address token token' : String) (session : Session) (calls : List Call), IsHeaderText token → IsHeaderText token' →
      Client.RunsAlike token token' session.sink.received
        (Client.run Session.transport (.ready ⟨address, token⟩) session calls)
        (Client.run Session.transport (.ready ⟨address, token'⟩) session calls) ∧
      List.Forall₂ (Request.Twins token token') (requestsOf ⟨address, token⟩ calls) (requestsOf ⟨address, token'⟩ calls) := by
  constructor
  · intro w w' settings verbose s address token token' asked hs hworlds htokens
    have hs' : Settings.gather w' (settingsPath (w'.value? settingsVariable) asked) = .ok s := by
      rcases hworlds with hsame | ⟨path, hb, hpath⟩
      · exact hsame
      · exact gather_of_tokens hb hpath htokens hs
    refine ⟨fun n state => ?_, ofSettings_of_tokens htokens⟩
    rw [carryOut_context n state hs, carryOut_context n state hs', contextExit_of_tokens htokens]
  · intro address token token' session calls ht ht'
    exact ⟨Client.runsAlike_http ht ht' address session calls, requestsOf_twins address token token' calls⟩

/-- Two context files with different tokens, and two clients that report to a sink which turns their reports away. -/
theorem token_confidential_two :
    let world (token : String) : World := .ofContext ("\x7b\"result_sink\":[\"[::1]:9\",\"" ++ token ++ "\"]\x7d")
    let session : Session := ⟨true, none, ⟨none, 0, false⟩, "[::1]:9", false, [.answer 403 [110, 111] false], []⟩
    let calls : List Call := [.post ⟨"Suite/test", "FAIL", true, none, none⟩, .close]
    let ran (token : String) := Client.run Session.transport (.ready ⟨"[::1]:9", token⟩) session calls
    TokensDiffer (world "one") (world "two") "LUCI_CONTEXT" "[::1]:9" "one" "two" ∧
    carryOut Session.network session (world "one") ⟨.context, none, false⟩ =
      carryOut Session.network session (world "two") ⟨.context, none, false⟩ ∧
    Client.RunsAlike "one" "two" [] (ran "one") (ran "two") ∧ (ran "one").2.2.sink.received.length = 1 := by
  intro world session calls ran
  have htokens : TokensDiffer (world "one") (world "two") "LUCI_CONTEXT" "[::1]:9" "one" "two" :=
    ⟨rfl, rfl, by decide⟩
  have hworlds : (world "one").Besides (world "two") (Text.bytes "context.json") := World.besides_ofContext _ _
  refine ⟨htokens, ?_, (token_confidential.2 "[::1]:9" "one" "two" session calls (by decide) (by decide)).1, by decide +kernel⟩
  exact (token_confidential.1 (world "one") (world "two") none false ⟨none, none⟩ "[::1]:9" "one" "two" rfl
    (.inr ⟨_, hworlds, rfl⟩) htokens).1 Session.network session

end Command
end SinkReporter
