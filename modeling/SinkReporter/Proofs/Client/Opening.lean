import SinkReporter.Proofs.Settings.Precedence
import SinkReporter.Proofs.Client.Traffic
import SinkReporter.ClientOpening
import SinkReporter.Http.Session
/-!
# Proofs.Client.Opening — a client can always be made

Neither the environment nor any file keeps a client from being made, as long as sessions can be opened.  The environment's
settings are heeded when they hold as a whole (`HoldIn`), and then they say where the client looks for its endpoint; if any
of them is wrong the client looks where it would without them (`MadeFor`).
-/
namespace SinkReporter

open Http (Transport SessionFault)

namespace Settings

variable {w : World} {s : Settings}

/-! ## The settings that are heeded -/

/-- **The environment's settings hold**: what it says of the timeout is a number above zero, and what it says of the
variable is the name of one. -/
structure HoldIn (w : World) : Prop where
  timeout : ∀ text, w.SetsTo timeoutVariable text → ∃ secs : UInt64, SpellsNumber text secs.toNat ∧ 1 ≤ secs
  named : ∀ name, w.SetsTo contextVarVariable name → IsVariable name

theorem holdIn_of_overrides (h : Overrides w empty s) (hs : s.Sensible) : HoldIn w where
  timeout text htext := by
    obtain ⟨secs, hspells, hsecs⟩ := h.timeout_set text htext
    exact ⟨secs, hspells, hs.timeout secs hsecs⟩
  named name hname := hs.named name (h.variable_set name hname)

theorem HoldIn.exists_timeout (h : HoldIn w) :
    ∃ secs? : Option UInt64, timeoutAfter w empty = .ok secs? ∧ ∀ secs, secs? = some secs → 1 ≤ secs := by
  cases htext : w.text? timeoutVariable with
  | none =>
    have hunset := World.text?_eq_none.1 htext
    exact ⟨none, timeoutAfter_eq_ok.2 ⟨fun text h => absurd h (hunset text), fun _ => rfl⟩, fun secs h => by cases h⟩
  | some text =>
    have hset := World.text?_eq_some.1 htext
    obtain ⟨secs, hspells, hpos⟩ := h.timeout text hset
    refine ⟨some secs, timeoutAfter_eq_ok.2 ⟨fun text' h => ?_, fun h => ?_⟩, fun secs' h => Option.some.inj h ▸ hpos⟩
    · cases htext.symm.trans (World.text?_eq_some.2 h)
      exact ⟨secs, hspells, rfl⟩
    · exact absurd hset (h text)

theorem HoldIn.exists_ok (h : HoldIn w) : ∃ s, ofEnvironment w = .ok s := by
  obtain ⟨secs?, hsecs, hpos⟩ := h.exists_timeout
  have hover : Overrides w empty (withTimeout w empty secs?) := overrides_iff.2 ⟨secs?, hsecs, rfl⟩
  have hvariable : (withTimeout w empty secs?).contextVar = w.text? contextVarVariable := Option.or_none
  exact ⟨_, overridden_eq_ok.2 ⟨hover, hpos, fun name hname => h.named name (World.text?_eq_some.1 (hvariable ▸ hname))⟩⟩

theorem ofEnvironment_eq_ok : ofEnvironment w = .ok s ↔ Overrides w empty s ∧ s.Sensible := overridden_eq_ok

theorem holdIn_iff : HoldIn w ↔ ∃ s, ofEnvironment w = .ok s := by
  refine ⟨HoldIn.exists_ok, ?_⟩
  rintro ⟨s, hs⟩
  obtain ⟨hover, hsensible⟩ := ofEnvironment_eq_ok.1 hs
  exact holdIn_of_overrides hover hsensible

instance (w : World) : Decidable (HoldIn w) :=
  decidable_of_iff ((errorOf (ofEnvironment w)).isNone = true) <| by
    rw [holdIn_iff, ← errorOf_eq_none, Option.isNone_iff_eq_none]

theorem heeded_of_holdIn (h : HoldIn w) : ∃ s, Overrides w empty s ∧ heeded w = (s, []) := by
  obtain ⟨s, hs⟩ := h.exists_ok
  obtain ⟨hover, -⟩ := ofEnvironment_eq_ok.1 hs
  exact ⟨s, hover, by rw [heeded, hs]⟩

theorem heeded_of_not_holdIn (h : ¬ HoldIn w) :
    ∃ fault, ofEnvironment w = .error fault ∧ heeded w = (empty, [.settingsIgnored fault]) := by
  cases hs : ofEnvironment w with
  | ok s => exact (h (holdIn_iff.2 ⟨s, hs⟩)).elim
  | error fault => exact ⟨fault, rfl, by rw [heeded, hs]⟩

/-- **The variable that leads to the context file**: the one that the environment names, if its settings hold. -/
def variableIn (w : World) : String :=
  if HoldIn w then (w.text? contextVarVariable).getD Context.defaultVariable else Context.defaultVariable

/-- **The settings that prevail in an environment**: all that it says, or nothing of it. -/
structure Prevail (w : World) (s : Settings) : Prop where
  heeded : HoldIn w → Overrides w empty s
  ignored : ¬ HoldIn w → s = empty

theorem contextVariable_of_prevail (h : Prevail w s) : s.contextVariable = variableIn w := by
  unfold variableIn contextVariable
  split
  · rename_i hw
    cases hname : w.text? contextVarVariable with
    | none => rw [(h.heeded hw).variable_kept (World.text?_eq_none.1 hname)]; rfl
    | some name => rw [(h.heeded hw).variable_set name (World.text?_eq_some.1 hname)]
  · rename_i hw
    rw [h.ignored hw]
    rfl

/-- The warnings about an environment: one if its settings do not hold. -/
structure Warned (w : World) (warnings : List Event) : Prop where
  silent : HoldIn w → warnings = []
  once : ¬ HoldIn w → ∃ fault, ofEnvironment w = .error fault ∧ warnings = [.settingsIgnored fault]

theorem heeded_spec (w : World) : Prevail w (heeded w).1 ∧ Warned w (heeded w).2 := by
  by_cases h : HoldIn w
  · obtain ⟨s, hover, hs⟩ := heeded_of_holdIn h
    rw [hs]
    exact ⟨⟨fun _ => hover, fun hn => (hn h).elim⟩, fun _ => rfl, fun hn => (hn h).elim⟩
  · obtain ⟨fault, hfault, hs⟩ := heeded_of_not_holdIn h
    rw [hs]
    exact ⟨⟨fun hw => (h hw).elim, fun _ => rfl⟩, fun hw => (h hw).elim, fun _ => ⟨fault, hfault, rfl⟩⟩

end Settings

namespace Client

variable {σ : Type} (connect : Option UInt64 → Except SessionFault σ)

/-! ## The client that is made -/

/-- **A client is silent** when whatever it is asked to do goes well and nothing comes of it. -/
def IsSilent (c : Client) : Prop :=
  ∀ {τ : Type} (t : Transport τ) (state : τ) (calls : List Call),
    run t c state calls = (calls.map fun _ => (.ok (), []), c, state)

theorem isSilent_ofEndpoint {endpoint? : Option Endpoint} : IsSilent (ofEndpoint endpoint?) ↔ endpoint? = none := by
  cases endpoint? with
  | none => exact iff_of_true (fun t state calls => run_unconfigured t calls state) rfl
  | some e =>
    refine iff_of_false (fun h => ?_) (fun h => by cases h)
    -- closing it is told
    have hclose := h Http.Recording.transport ⟨[], [], 0⟩ [.close]
    cases hclose

theorem isConfigured_ofEndpoint {endpoint? : Option Endpoint} :
    (ofEndpoint endpoint?).isConfigured = false ↔ endpoint? = none := by
  cases endpoint? <;> simp [ofEndpoint, isConfigured]

theorem endpoint?_ofEndpoint (endpoint? : Option Endpoint) : (ofEndpoint endpoint?).endpoint? = endpoint? := by
  cases endpoint? <;> rfl

theorem ofEnvironment_eq (w : World) :
    ofEnvironment w = (ofEndpoint (Context.resolve w (Settings.variableIn w)).1,
      (Settings.heeded w).2 ++ (Context.resolve w (Settings.variableIn w)).2) := by
  rw [← Settings.contextVariable_of_prevail (Settings.heeded_spec w).1]
  rfl

theorem openEnvironment_eq (w : World) :
    openEnvironment connect w =
      (openEndpoint connect (Settings.heeded w).1 (Context.resolve w (Settings.variableIn w)).1,
        (Settings.heeded w).2 ++ (Context.resolve w (Settings.variableIn w)).2) := by
  rw [← Settings.contextVariable_of_prevail (Settings.heeded_spec w).1]
  rfl

theorem openEndpoint_eq (hconnect : ∀ secs?, ∃ session, connect secs? = .ok session) (s : Settings)
    (endpoint? : Option Endpoint) :
    openEndpoint connect s endpoint? =
      .ok ⟨ofEndpoint endpoint?, endpoint?.bind fun _ => (connect s.timeoutSecs).toOption⟩ := by
  cases endpoint? with
  | none => rfl
  | some e =>
    obtain ⟨session, hsession⟩ := hconnect s.timeoutSecs
    rw [openEndpoint, hsession]
    rfl

theorem warnings_resolve (w : World) (name : String) : (Context.resolve w name).2.filter (·.level = .warn) = [] := by
  rw [(Context.resolve_eq w name).2]
  cases Context.tryResolve w name <;> rfl

theorem warnings_heeded (w : World) : (Settings.heeded w).2.filter (·.level = .warn) = (Settings.heeded w).2 := by
  unfold Settings.heeded
  cases Settings.ofEnvironment w <;> rfl

/-- **How a client comes to be in an environment**, `events` being told on the way.  It has the endpoint that its variable
leads to.  Its session, if there is an endpoint, is as it was opened, under the timeout of the settings that prevail: nothing
has been sent.  It has nowhere to report to, and is silent, just when its variable leads nowhere. -/
structure MadeFor (w : World) (opened : Opened σ) (events : List Event) : Prop where
  made : (opened.client, events) = ofEnvironment w
  endpoint : opened.client.endpoint? = (Context.resolve w (Settings.variableIn w)).1
  session : ∃ s, Settings.Prevail w s ∧
    opened.session? = opened.client.endpoint?.bind fun _ => (connect s.timeoutSecs).toOption
  warned : Settings.Warned w (events.filter (·.level = .warn))
  unconfigured : opened.client.isConfigured = false ↔ (Context.resolve w (Settings.variableIn w)).1 = none
  silent : IsSilent opened.client ↔ (Context.resolve w (Settings.variableIn w)).1 = none

/-- **A client can always be made**, whatever the environment and the files, as long as sessions can be opened.  Its variable
is the one that the environment names if all of the environment's settings hold, and else the usual one; a wrong setting is
told in one warning and takes the right one beside it with it. -/
theorem openEnvironment_total (hconnect : ∀ secs?, ∃ session, connect secs? = .ok session) (w : World) :
    ∃ opened events, openEnvironment connect w = (.ok opened, events) ∧ MadeFor connect w opened events := by
  obtain ⟨hprevail, hwarned⟩ := Settings.heeded_spec w
  refine ⟨_, _, by rw [openEnvironment_eq, openEndpoint_eq connect hconnect], ?_⟩
  refine ⟨(ofEnvironment_eq w).symm, endpoint?_ofEndpoint _, ⟨_, hprevail, ?_⟩, ?_, isConfigured_ofEndpoint,
    isSilent_ofEndpoint⟩
  · rw [endpoint?_ofEndpoint]
  · rw [List.filter_append, warnings_heeded, warnings_resolve, List.append_nil]
    exact hwarned

end Client

/-- A world with one file, a context, which the usual variable names, and an environment that says more. -/
def World.withVariables (entries : List (String × String)) (text : String) : World where
  value? name := ((entries.lookup name).map Text.bytes).or ((World.ofContext text).value? name)
  read := (World.ofContext text).read

/-- With a timeout of zero beside it, the name that the environment gives goes unheard, too. -/
theorem Client.openEnvironment_total_ignored :
    let w := World.withVariables [(Settings.timeoutVariable, "0"), (Settings.contextVarVariable, "ELSEWHERE")]
      "[[\"a:1\",\"\"]]"
    let connect := Http.Session.connect ⟨false, none, ⟨none, 0, false⟩, ⟨"a:1", false, [], []⟩⟩
    ∃ opened events, openEnvironment connect w = (.ok opened, events) ∧ MadeFor connect w opened events ∧
      opened.client = .ready ⟨"a:1", ""⟩ ∧ events.length = 2 := by
  intro w connect
  obtain ⟨opened, events, hopen, hmade⟩ := openEnvironment_total connect (fun _ => ⟨_, rfl⟩) w
  have hclient : ofEnvironment w = (.ready ⟨"a:1", ""⟩,
      [.settingsIgnored (.invalidValue "timeout_secs" "must be greater than zero"), .resolved "a:1"]) := rfl
  obtain ⟨hc, he⟩ := Prod.mk.inj (hmade.made.trans hclient)
  exact ⟨opened, events, hopen, hmade, hc, he ▸ rfl⟩

end SinkReporter
