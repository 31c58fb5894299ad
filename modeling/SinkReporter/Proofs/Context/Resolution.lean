import SinkReporter.Proofs.Context.Reading
/-!
# Proofs.Context.Resolution — how a variable leads to an endpoint

Seven things are asked of a variable and of the file it names.  Whether one of them is met is a matter of its own, and the
first that is not decides the fault (`errorOf_tryResolve`); when all are met there is an endpoint, which is the one in the
file (`tryResolve_eq_ok`).
-/
namespace SinkReporter

theorem World.path?_eq_some {w : World} {name : String} {path : Bytes} :
    w.path? name = some path ↔ w.value? name = some path ∧ path ≠ [] := by
  rw [World.path?, Option.filter_eq_some_iff, decide_eq_true_iff]

/-- **A variable is set to a text** when its value is the bytes of that text. -/
def World.SetsTo (w : World) (name text : String) : Prop := ∃ data, w.value? name = some data ∧ Text.ofBytes? data = some text

theorem World.text?_eq_some {w : World} {name text : String} : w.text? name = some text ↔ w.SetsTo name text :=
  Option.bind_eq_some_iff

theorem World.text?_eq_none {w : World} {name : String} : w.text? name = none ↔ ∀ text, ¬ w.SetsTo name text := by
  simp only [← World.text?_eq_some, Option.eq_none_iff_forall_ne_some, ne_eq]

theorem World.readText_eq_ok {w : World} {path : Bytes} {text : String} :
    w.readText path = .ok text ↔ ∃ data, w.read path = .ok data ∧ Text.ofBytes? data = some text := by
  unfold World.readText
  cases w.read path with
  | error cause => simp
  | ok data =>
    simp only [Except.ok.injEq, exists_eq_left']
    cases Text.ofBytes? data <;> simp

namespace Context

/-! ## An endpoint is found -/

theorem endpoint_eq_ok {c : Context} {path : Bytes} {e : Endpoint} : c.endpoint path = .ok e ↔ c.Leads e := by
  unfold endpoint
  constructor
  · intro h
    split at h
    · cases h
    rename_i sink hsink
    split at h
    · cases h
    rename_i address haddress
    split at h
    · cases h
    rename_i hne
    split at h
    · cases h
    rename_i token htoken
    cases h
    exact ⟨sink, hsink, haddress, hne, htoken⟩
  · rintro ⟨sink, hsink, haddress, hne, htoken⟩
    simp only [hsink, haddress, htoken]
    rw [if_neg hne]

theorem load_eq_ok {w : World} {path : Bytes} {c : Context} :
    load w path = .ok c ↔ ∃ text, w.readText path = .ok text ∧ form.ofText text = .ok c := by
  unfold load
  cases w.readText path with
  | error cause => simp
  | ok text =>
    dsimp only
    rw [mapError_eq_ok]
    simp

/-- **A variable leads to an endpoint** just when it names a file that holds one. -/
theorem tryResolve_eq_ok {w : World} {name : String} {e : Endpoint} :
    tryResolve w name = .ok e ↔
      ∃ path text c, w.path? name = some path ∧ w.readText path = .ok text ∧ form.ofText text = .ok c ∧ c.Leads e := by
  unfold tryResolve Context.path
  cases w.path? name with
  | none => simp [Except.bind]
  | some path =>
    have hbind : (Except.ok path : Except ConfigFault Bytes).bind (endpointAt w) = endpointAt w path := rfl
    dsimp only
    rw [hbind, endpointAt, bind_eq_ok]
    constructor
    · rintro ⟨c, hload, he⟩
      obtain ⟨text, htext, hc⟩ := load_eq_ok.1 hload
      exact ⟨path, text, c, rfl, htext, hc, endpoint_eq_ok.1 he⟩
    · rintro ⟨path', text, c, hpath, htext, hc, hleads⟩
      cases hpath
      exact ⟨c, load_eq_ok.2 ⟨text, htext, hc⟩, endpoint_eq_ok.2 hleads⟩

/-! ## What is asked for -/

/-- **The text that a variable leads to**, with the path of its file. -/
def found? (w : World) (name : String) : Option (Bytes × String) :=
  (w.path? name).bind fun path => (w.readText path).toOption.map fun text => (path, text)

def decoded? (w : World) (name : String) : Option (Bytes × Context) :=
  (found? w name).bind fun file => (form.ofText file.2).toOption.map fun c => (file.1, c)

/-- What is asked of a variable and of the file it names. -/
inductive Requirement where
  | isSet
  | isReadable
  | isContext
  | hasSection
  | hasAddress
  | addressFilled
  | hasToken

namespace Requirement

/-- What is asked of the section. -/
def ofSection : List Requirement := [.hasSection, .hasAddress, .addressFilled, .hasToken]

/-- **All that is asked for, in order.** -/
def all : List Requirement := [.isSet, .isReadable, .isContext] ++ ofSection

/-- **The fault of a requirement**, if it is not met.  Nothing is asked of what is not there. -/
def fault? (w : World) (name : String) : Requirement → Option ConfigFault
  | .isSet => if w.path? name = none then some (.variableNotSet name) else none
  | .isReadable => (w.path? name).bind fun path =>
    match w.readText path with
    | .ok _ => none
    | .error .notFound => some (.notFound path)
    | .error cause => some (.unreadable cause)
  | .isContext => (found? w name).bind fun file => (errorOf (form.ofText file.2)).map (.badJson file.1)
  | .hasSection => (decoded? w name).bind fun file =>
    if file.2.resultSink = none then some (.missingField "result_sink" file.1) else none
  | .hasAddress => (decoded? w name).bind fun file => file.2.resultSink.bind fun sink =>
    if sink.address = none then some (.missingField "result_sink.address" file.1) else none
  | .addressFilled => (decoded? w name).bind fun file => file.2.resultSink.bind fun sink =>
    if sink.address = some "" then some (.invalidValue "result_sink.address" "address is empty") else none
  | .hasToken => (decoded? w name).bind fun file => file.2.resultSink.bind fun sink =>
    if sink.authToken = none then some (.missingField "result_sink.auth_token" file.1) else none

end Requirement

section

variable {w : World} {name : String} {path : Bytes}

theorem errorOf_endpoint {c : Context} (h : decoded? w name = some (path, c)) :
    errorOf (c.endpoint path) = Requirement.ofSection.findSome? (Requirement.fault? w name) := by
  simp only [Requirement.ofSection, List.findSome?_cons, List.findSome?_nil, Requirement.fault?, h, Option.bind_some]
  unfold endpoint
  obtain ⟨sink⟩ := c
  cases sink with
  | none => rfl
  | some sink =>
    obtain ⟨address, token⟩ := sink
    cases address with
    | none => rfl
    | some address =>
      by_cases hne : address = ""
      · subst hne
        rfl
      · have hfilled : some address ≠ some "" := fun h => hne (Option.some.inj h)
        cases token <;> simp [hne, errorOf_error]

theorem errorOf_load (hpath : w.path? name = some path) :
    errorOf (load w path) =
      (Requirement.isReadable.fault? w name).or (Requirement.isContext.fault? w name) := by
  unfold load Requirement.fault? found?
  rw [hpath]
  dsimp only [Option.bind_some]
  cases w.readText path with
  | error cause => cases cause <;> rfl
  | ok text =>
    dsimp only
    rw [errorOf_mapError]
    rfl

theorem decoded?_of_load (hpath : w.path? name = some path) {c : Context} (hc : load w path = .ok c) :
    decoded? w name = some (path, c) := by
  obtain ⟨text, htext, hform⟩ := load_eq_ok.1 hc
  simp [decoded?, found?, hpath, htext, hform, Except.toOption]

/-- **The first requirement that is not met decides the fault.** -/
theorem errorOf_tryResolve (w : World) (name : String) :
    errorOf (tryResolve w name) = Requirement.all.findSome? (Requirement.fault? w name) := by
  have hall : Requirement.all.findSome? (Requirement.fault? w name) =
      (Requirement.isSet.fault? w name).or (((Requirement.isReadable.fault? w name).or
        (Requirement.isContext.fault? w name)).or (Requirement.ofSection.findSome? (Requirement.fault? w name))) := by
    rw [Requirement.all, List.findSome?_append]
    simp only [findSome?_cons_or, List.findSome?_nil, Option.or_none, Option.or_assoc]
  rw [hall]
  unfold tryResolve Context.path
  cases hpath : w.path? name with
  | none =>
    rw [Requirement.fault?, if_pos hpath]
    rfl
  | some path =>
    have hset : Requirement.isSet.fault? w name = none := if_neg (by simp [hpath])
    rw [hset, Option.none_or, ← errorOf_load hpath]
    -- nothing is asked of the section unless the file has been decoded
    show errorOf ((load w path).bind (·.endpoint path)) = _
    exact errorOf_bind fun c hc => errorOf_endpoint (decoded?_of_load hpath hc)

end

/-- **An endpoint that is not to be had is no error**: what goes wrong is told for those who look for faults, and nothing
else is said. -/
theorem resolve_eq (w : World) (name : String) :
    (resolve w name).1 = (tryResolve w name).toOption ∧
      (resolve w name).2 = [match tryResolve w name with
        | .ok e => .resolved e.address
        | .error fault => .notResolved fault] := by
  unfold resolve
  cases tryResolve w name with
  | ok e => exact ⟨rfl, rfl⟩
  | error fault => exact ⟨rfl, rfl⟩

/-- **Where a variable leads**, for every environment, all files and every name.  It leads to an endpoint just when it is
set, the file that it names is read as a text and decoded, and the context in it has an address, which is not empty, and a
token.  If the text is a value without repeated names, the value tells where it leads.  When a variable leads nowhere, the
fault is that of the first requirement that is not met; to those who only ask for an endpoint there is none then, and this
is told in a single event for those who look for faults. -/
theorem resolution_exact (w : World) (name : String) :
    (∀ e, tryResolve w name = .ok e ↔
      ∃ path data text c, w.value? name = some path ∧ path ≠ [] ∧ w.read path = .ok data ∧
        Text.ofBytes? data = some text ∧ form.ofText text = .ok c ∧ c.Leads e) ∧
    (∀ text v e, Json.parse text = .ok v → Json.NoRepeats text →
      ((∃ c, form.ofText text = .ok c ∧ c.Leads e) ↔ e.address ≠ "" ∧ e.IsFoundIn v)) ∧
    errorOf (tryResolve w name) = Requirement.all.findSome? (Requirement.fault? w name) ∧
    (resolve w name).1 = (tryResolve w name).toOption ∧
    ∃ event, (resolve w name).2 = [event] ∧ event.level = .debug := by
  refine ⟨fun e => ?_, fun text v e hv hr => ofText_leads_iff hv hr, errorOf_tryResolve w name, (resolve_eq w name).1, ?_⟩
  · rw [tryResolve_eq_ok]
    constructor
    · rintro ⟨path, text, c, hpath, htext, hc, hleads⟩
      obtain ⟨hvalue, hne⟩ := World.path?_eq_some.1 hpath
      obtain ⟨data, hdata, hspells⟩ := World.readText_eq_ok.1 htext
      exact ⟨path, data, text, c, hvalue, hne, hdata, hspells, hc, hleads⟩
    · rintro ⟨path, data, text, c, hvalue, hne, hdata, hspells, hc, hleads⟩
      exact ⟨path, text, c, World.path?_eq_some.2 ⟨hvalue, hne⟩, World.readText_eq_ok.2 ⟨data, hdata, hspells⟩, hc, hleads⟩
  · refine ⟨_, (resolve_eq w name).2, ?_⟩
    cases tryResolve w name <;> rfl

end Context

/-- A world with one file, a context, which the usual variable names. -/
def World.ofContext (text : String) : World where
  value? name := if name = Context.defaultVariable then some (Text.bytes "context.json") else none
  read path := if path = Text.bytes "context.json" then .ok (Text.bytes text) else .error .notFound

/-- File and section may both be arrays, and a token may be empty. -/
example : Context.tryResolve (.ofContext "[[\"a:1\",\"\"]]") "LUCI_CONTEXT" = .ok ⟨"a:1", ""⟩ := by rfl

end SinkReporter
