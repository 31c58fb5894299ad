import SinkReporter.Client
import SinkReporter.Settings.Basic
/-!
# ClientOpening — which endpoint a client gets

A client asks once, when it is made, for the endpoint that its settings lead to.  If there is one, a session is opened for
it under the timeout of the settings.
-/
namespace SinkReporter

open Http (SessionFault)

/-- **The settings that are heeded**: the environment's.  If they make no sense they are ignored as a whole, with a
warning. -/
def Settings.heeded (w : World) : Settings × List Event :=
  match ofEnvironment w with
  | .ok s => (s, [])
  | .error fault => (empty, [.settingsIgnored fault])

namespace Client

/-! ## Its endpoint -/

/-- **A client whose endpoint a resolver finds**, and the events of finding it.  The resolver is asked once, for the
variable that the settings name. -/
def ofResolver (s : Settings) (resolver : String → Option Endpoint × List Event) : Client × List Event :=
  let (endpoint, events) := resolver s.contextVariable
  (ofEndpoint endpoint, events)

/-- **A client for settings**: its endpoint is in the context file that they lead to. -/
def ofSettings (w : World) (s : Settings) : Client × List Event := ofResolver s (Context.resolve w)

/-- **A client for the environment.** -/
def ofEnvironment (w : World) : Client × List Event :=
  let (s, ignored) := Settings.heeded w
  let (client, events) := ofSettings w s
  (client, ignored ++ events)

/-! ## Its session -/

/-- A client that has been made, and the session that was opened for it, if one was. -/
structure Opened (σ : Type) where
  client : Client
  session? : Option σ

variable {σ : Type} (connect : Option UInt64 → Except SessionFault σ)

/-- **Opens a session for an endpoint**, if there is one, under the timeout of settings. -/
def openEndpoint (s : Settings) : Option Endpoint → Except ReportFault (Opened σ)
  | none => .ok ⟨.unconfigured, none⟩
  | some e => ((connect s.timeoutSecs).map fun session => ⟨.ready e, some session⟩).mapError .session

/-- **Opens a session for the endpoint that a resolver finds.** -/
def openResolver (s : Settings) (resolver : String → Option Endpoint × List Event) :
    Except ReportFault (Opened σ) × List Event :=
  let (endpoint, events) := resolver s.contextVariable
  (openEndpoint connect s endpoint, events)

/-- **Opens a session for what settings lead to.** -/
def openSettings (w : World) (s : Settings) : Except ReportFault (Opened σ) × List Event :=
  openResolver connect s (Context.resolve w)

/-- **Opens a session for what the environment leads to.** -/
def openEnvironment (w : World) : Except ReportFault (Opened σ) × List Event :=
  let (s, ignored) := Settings.heeded w
  let (opened, events) := openSettings connect w s
  (opened, ignored ++ events)

end Client
end SinkReporter
