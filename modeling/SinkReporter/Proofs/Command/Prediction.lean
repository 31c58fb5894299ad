import SinkReporter.Proofs.Command.Arguments
import SinkReporter.Proofs.Command.Course
import SinkReporter.Proofs.Context.Resolution
import SinkReporter.Proofs.Http.Session
/-!
# Proofs.Command.Prediction — telling of the sink predicts posting

The command that tells where reports would go looks for faults, while posting takes any fault for the lack of a sink.  The
two come to the same end: what is told is the address that every request of a client goes to, once its session is open, or
else that there is no sink, and then posting is skipped (`context_predicts_post`).  It is not told whether a session can be
opened.
-/
namespace SinkReporter
namespace Command

open Http (Transport Network Deed sends)

/-! ## What is told -/

/-- **An exit tells an address**: that, whether there is a token, and the timeout, and nothing else. -/
def TellsAddress (told : Exit) (s : Settings) (address : String) : Prop :=
  told.code = 0 ∧ ∃ word ∈ ["missing", "present"],
    told.output = "address:    " ++ address ++ "\n" ++ "auth_token: " ++ word ++ "\n" ++ timeoutLine s

/-- **An exit tells that there is no sink**, under the name of the variable that was looked at. -/
def TellsNone (told : Exit) (s : Settings) : Prop :=
  told.code = 0 ∧ ∃ message,
    told.output = "No ResultSink configured (" ++ s.contextVariable ++ "): " ++ message ++ "\n" ++ timeoutLine s

theorem length_word {word : String} (h : word ∈ ["missing", "present"]) : word.toList.length = 7 := by
  have heither : word = "missing" ∨ word = "present" := by simpa using h
  rcases heither with rfl | rfl <;> rfl

section

variable {w : World} {s : Settings}

theorem contextExit_of_ok {e : Endpoint} (he : Context.tryResolve w s.contextVariable = .ok e) :
    ∃ word ∈ ["missing", "present"],
      contextExit w s =
        .fine ("address:    " ++ e.address ++ "\n" ++ "auth_token: " ++ word ++ "\n" ++ timeoutLine s) := by
  refine ⟨if e.authToken = "" then "missing" else "present", ?_, ?_⟩
  · split <;> simp
  · rw [contextExit, he]
    rfl

theorem contextExit_of_error {fault : ConfigFault} (he : Context.tryResolve w s.contextVariable = .error fault) :
    contextExit w s =
      .fine ("No ResultSink configured (" ++ s.contextVariable ++ "): " ++ fault.message ++ "\n" ++ timeoutLine s) := by
  rw [contextExit, he]
  rfl

/-- **The address that is told is that of the endpoint.** -/
theorem tellsAddress_iff {address : String} :
    TellsAddress (contextExit w s) s address ↔
      ∃ e, Context.tryResolve w s.contextVariable = .ok e ∧ e.address = address := by
  cases he : Context.tryResolve w s.contextVariable with
  | error fault =>
    rw [contextExit_of_error he]
    constructor
    · -- the first letters tell the two texts apart
      rintro ⟨-, word, -, htext⟩
      have hlist := congrArg String.toList htext
      simp [Exit.fine, String.toList_append] at hlist
    · rintro ⟨e, he', -⟩
      cases he'
  | ok e =>
    obtain ⟨word, hword, hexit⟩ := contextExit_of_ok he
    rw [hexit]
    constructor
    · rintro ⟨-, word', hword', htext⟩
      refine ⟨e, rfl, ?_⟩
      have hlist := congrArg String.toList htext
      simp only [Exit.fine, String.toList_append, List.append_assoc, List.append_cancel_left_eq] at hlist
      -- what stands behind the two addresses is of one length
      have hlength : ("\n".toList ++ ("auth_token: ".toList ++ (word.toList ++ ("\n".toList ++ (timeoutLine s).toList)))).length =
          ("\n".toList ++ ("auth_token: ".toList ++ (word'.toList ++ ("\n".toList ++ (timeoutLine s).toList)))).length := by
        simp only [List.length_append, length_word hword, length_word hword']
      exact String.toList_inj.1 (List.append_inj' hlist hlength).1
    · rintro ⟨e', he', rfl⟩
      cases he'
      exact ⟨rfl, word, hword, rfl⟩

theorem tellsNone_iff :
    TellsNone (contextExit w s) s ↔ ∃ fault, Context.tryResolve w s.contextVariable = .error fault := by
  cases he : Context.tryResolve w s.contextVariable with
  | error fault =>
    rw [contextExit_of_error he]
    exact ⟨fun _ => ⟨fault, rfl⟩, fun _ => ⟨rfl, fault.message, rfl⟩⟩
  | ok e =>
    obtain ⟨word, -, hexit⟩ := contextExit_of_ok he
    rw [hexit]
    constructor
    · rintro ⟨-, message, htext⟩
      have hlist := congrArg String.toList htext
      simp [Exit.fine, String.toList_append] at hlist
    · rintro ⟨fault, hfault⟩
      cases hfault

end

/-! ## What comes of it -/

/-- **A client reaches an address**: it is configured, and every request of every run goes to the method of the sink
there. -/
def Reaches (c : Client) (address : String) : Prop :=
  c.isConfigured = true ∧ ∀ {σ : Type} (t : Transport σ) (state : σ) (calls : List Call),
    ∀ sent ∈ sends (Client.run t.watched c (state, []) calls).2.2.2, sent.1.url = "http://" ++ address ++ reportPath

theorem url_inj {address address' : String} (h : "http://" ++ address ++ reportPath = "http://" ++ address' ++ reportPath) :
    address = address' :=
  (String.append_right_inj _).1 ((String.append_left_inj _).1 h)

def plainArguments : ResultArguments := ⟨"test", "PASS", true, none, [], none⟩

theorem composeRecord_plain (w : World) : ∃ r, composeRecord w plainArguments = .ok r := ⟨_, rfl⟩

theorem reaches_ready {e : Endpoint} {address : String} : Reaches (.ready e) address ↔ e.address = address := by
  constructor
  · rintro ⟨-, hevery⟩
    obtain ⟨r, -⟩ := composeRecord_plain ⟨fun _ => none, fun _ => .error .notFound⟩
    exact url_inj (hevery Http.Recording.transport ⟨[], [], 0⟩ [.postRecord r] (buildRequest e r, .ok ()) List.mem_cons_self)
  · rintro rfl
    refine ⟨rfl, fun t state calls sent hsent => ?_⟩
    have hmem : sent.1 ∈ (sends (Client.run t.watched (.ready e) (state, []) calls).2.2.2).map Prod.fst :=
      List.mem_map_of_mem hsent
    rw [Client.sends_run_ready] at hmem
    exact url_of_mem_requestsOf hmem

section

variable {σ : Type} (n : Network σ) (state : σ) {w : World} {s : Settings}

/-- **Posting finds a client** that reaches an address. -/
def FindsClient (w : World) (s : Settings) (address : String) : Prop :=
  ∃ opened, (Client.openSettings (n.connect state) w s).1 = .ok opened ∧ Reaches opened.client address

theorem findsClient_iff {opened : σ} (hc : n.connect state s.timeoutSecs = .ok opened) {address : String} :
    FindsClient n state w s address ↔ ∃ e, Context.tryResolve w s.contextVariable = .ok e ∧ e.address = address := by
  cases he : Context.tryResolve w s.contextVariable with
  | error fault =>
    have hopen : (Client.openSettings (n.connect state) w s).1 = .ok ⟨.unconfigured, none⟩ := by
      rw [openSettings_unresolved he]
    constructor
    · rintro ⟨found, hfound, hconfigured, -⟩
      cases hopen.symm.trans hfound
      cases hconfigured
    · rintro ⟨e, he', -⟩
      cases he'
  | ok e =>
    have hopen : (Client.openSettings (n.connect state) w s).1 = .ok ⟨.ready e, some opened⟩ := by
      rw [openSettings_resolved he, hc]
      rfl
    constructor
    · rintro ⟨found, hfound, hreaches⟩
      cases hopen.symm.trans hfound
      exact ⟨e, rfl, reaches_ready.1 hreaches⟩
    · rintro ⟨e', he', h⟩
      cases he'
      exact ⟨_, hopen, reaches_ready.2 h⟩

end

/-- **What was told predicts what comes of posting**, whatever the arguments.  Both ask the context under the same
variable.  That there is no sink is told just when posting is skipped, with its notice and nothing sent.  If a session can be
opened, an address is told just when the client that posting finds reaches it, and just when posting is never skipped and
sends to it alone.  If none can be opened, an address is told all the same, and then posting says so and sends nothing. -/
structure Predicts {σ : Type} (n : Network σ) (state : σ) (w : World) (s : Settings) (told : Exit)
    (posted : ResultArguments → Ended (σ × List Deed)) : Prop where
  asked : told = contextExit w s ∧ ∀ a, (Context.resolve w s.contextVariable).2 <+: (posted a).events
  client : ∀ opened, n.connect state s.timeoutSecs = .ok opened → ∀ address,
    TellsAddress told s address ↔ FindsClient n state w s address
  address : ∀ opened, n.connect state s.timeoutSecs = .ok opened → ∀ address,
    TellsAddress told s address ↔ ∀ a, (posted a).exit ≠ skippedExit a.testId ∧
      ∀ sent ∈ sends (posted a).state.2, sent.1.url = "http://" ++ address ++ reportPath
  unopened : ∀ cause, n.connect state s.timeoutSecs = .error cause → ∀ address, TellsAddress told s address →
    ∀ a, (posted a).exit = unopenedExit (.session cause) ∧ (posted a).state = (state, [])
  none : ∀ a, TellsNone told s ↔ (posted a).exit.code = 0 ∧ sends (posted a).state.2 = [] ∧
    (posted a).exit.errors = "No ResultSink configured; skipping " ++ a.testId ++ "\n"

theorem afterReport_ne_skipped (testId : String) (answer : Except ReportFault Unit) :
    afterReport testId answer ≠ skippedExit testId := by
  intro h
  cases answer with
  | ok =>
    have herrors := congrArg Exit.errors h
    simp [afterReport, Exit.fine, skippedExit] at herrors
  | error fault =>
    have hcode := congrArg Exit.code h
    simp [afterReport, Failure.exit, skippedExit] at hcode

section

variable {σ : Type} (n : Network σ) (state : σ) {w : World} {s : Settings}

theorem events_post (a : ResultArguments) :
    (Context.resolve w s.contextVariable).2 <+: (post n state w s a).events := by
  have hresolved {e : Endpoint} (he : Context.tryResolve w s.contextVariable = .ok e) (more : List Event) :
      (Context.resolve w s.contextVariable).2 <+: .resolved e.address :: more := by
    rw [Context.resolve, he]
    exact ⟨more, rfl⟩
  cases course_post n state a w s with
  | skipped fault he hpost =>
    have hevents : (Context.resolve w s.contextVariable).2 = [.notResolved fault] := by rw [Context.resolve, he]
    exact ⟨[], by rw [hpost, hevents, List.append_nil]⟩
  | unopened e cause he hc hpost => rw [hpost]; exact hresolved he _
  | failed e opened f he hc hf hpost => rw [hpost]; exact hresolved he _
  | aborted e opened r more he hc hr ha hpost => rw [hpost]; exact hresolved he _
  | answered e opened r more he hc hr ha hpost => rw [hpost]; exact hresolved he _

/-- **With a sink, posting is never skipped**, it goes well only when something is sent, and it sends to the sink's address
alone. -/
theorem post_resolved {e : Endpoint} (he : Context.tryResolve w s.contextVariable = .ok e) (a : ResultArguments) :
    let posted := post n.watched (state, []) w s a
    posted.exit ≠ skippedExit a.testId ∧ (posted.exit.code = 0 → sends posted.state.2 ≠ []) ∧
      ∀ sent ∈ sends posted.state.2, sent.1.url = "http://" ++ e.address ++ reportPath := by
  intro posted
  cases course_post n.watched (state, []) a w s with
  | skipped fault hfault hpost => simp [he] at hfault
  | unopened e' cause he' hc hpost =>
    rw [show posted = _ from hpost]
    refine ⟨fun h => ?_, fun h => ?_, fun sent hsent => ?_⟩
    · cases congrArg Exit.code h
    · cases h
    · cases hsent
  | failed e' opened f he' hc hf hpost =>
    obtain ⟨opened, -, rfl⟩ := map_eq_ok.1 hc
    rw [show posted = _ from hpost]
    refine ⟨fun h => ?_, fun h => ?_, fun sent hsent => ?_⟩
    · cases congrArg Exit.code h
    · cases h
    · cases hsent
  | aborted e' opened r more he' hc hr ha hpost =>
    obtain ⟨opened, hopen, rfl⟩ := map_eq_ok.1 hc
    rw [show sends posted.state.2 = _ from sends_post n state w he hopen hr]
    refine ⟨fun h => ?_, fun _ => List.cons_ne_nil _ _, fun sent hsent => ?_⟩
    · rw [show posted = _ from hpost] at h
      cases congrArg Exit.code h
    · rw [List.mem_singleton.1 hsent]
      rfl
  | answered e' opened r more he' hc hr ha hpost =>
    obtain ⟨opened, hopen, rfl⟩ := map_eq_ok.1 hc
    rw [show sends posted.state.2 = _ from sends_post n state w he hopen hr]
    refine ⟨fun h => ?_, fun _ => List.cons_ne_nil _ _, fun sent hsent => ?_⟩
    · rw [show posted = _ from hpost] at h
      exact afterReport_ne_skipped _ _ h
    · rw [List.mem_singleton.1 hsent]
      rfl

theorem run_of_ne (h : w.value? settingsVariable ≠ some []) (arguments : List String) (i : Invocation)
    (hi : parse none arguments = .ok i) : run n state w arguments = carryOut n state w i := by
  rw [run, parse_of_ne h, hi]

theorem run_misused (h : w.value? settingsVariable = some []) (name : String) (hname : name ∈ ["context", "post"])
    (rest : List String) (i : Invocation) (hi : parse none (name :: rest) = .ok i) :
    run n state w (name :: rest) = ⟨Stop.usage.exit, [], state⟩ ∧ Stop.usage.exit.code = 2 := by
  have hparse : parse (some []) (name :: rest) = .error .usage := by
    simp only [List.mem_cons, List.not_mem_nil, or_false] at hname
    rcases hname with rfl | rfl
    · exact parse_empty rfl rfl hi
    · exact parse_empty rfl rfl hi
  rw [run, h, hparse]
  exact ⟨rfl, rfl⟩

theorem predicts_post : Predicts n state w s (contextExit w s) (post n.watched (state, []) w s) where
  asked := ⟨rfl, events_post n.watched (state, [])⟩
  client opened hc address := tellsAddress_iff.trans (findsClient_iff n state hc).symm
  address opened hc address := by
    rw [tellsAddress_iff]
    cases he : Context.tryResolve w s.contextVariable with
    | error fault =>
      constructor
      · rintro ⟨e, he', -⟩
        cases he'
      · intro h
        -- without a sink posting is skipped
        refine absurd ?_ (h plainArguments).1
        rw [post_skipped n.watched (state, []) plainArguments he]
    | ok e =>
      constructor
      · rintro ⟨e', he', rfl⟩
        cases he'
        intro a
        obtain ⟨hskipped, -, hurl⟩ := post_resolved n state he a
        exact ⟨hskipped, hurl⟩
      · intro h
        obtain ⟨r, hr⟩ := composeRecord_plain w
        have hmem := List.mem_singleton_self (buildRequest e r, (n.send opened (buildRequest e r)).answer)
        rw [← sends_post n state w he hc hr] at hmem
        exact ⟨e, rfl, url_inj ((h plainArguments).2 _ hmem)⟩
  unopened cause hc address htold a := by
    obtain ⟨e, he, -⟩ := tellsAddress_iff.1 htold
    have hc' : n.watched.connect (state, []) s.timeoutSecs = .error cause := map_eq_error.2 hc
    rw [post_unopened n.watched (state, []) a he hc']
    exact ⟨rfl, rfl⟩
  none a := by
    rw [tellsNone_iff]
    cases he : Context.tryResolve w s.contextVariable with
    | error fault =>
      rw [post_skipped n.watched (state, []) a he]
      exact ⟨fun _ => ⟨rfl, rfl, rfl⟩, fun _ => ⟨fault, rfl⟩⟩
    | ok e =>
      obtain ⟨-, hsends, -⟩ := post_resolved n state he a
      constructor
      · rintro ⟨fault, hfault⟩
        cases hfault
      · rintro ⟨hcode, hnothing, -⟩
        exact absurd hnothing (hsends hcode)

end

end Command
end SinkReporter
