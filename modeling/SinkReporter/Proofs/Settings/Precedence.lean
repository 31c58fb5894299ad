import SinkReporter.Proofs.Context.Resolution
import SinkReporter.Proofs.Settings.Natural
/-!
# Proofs.Settings.Precedence — the file, the environment, and what comes of both

A file's settings have to make sense before the environment has its word, and so does what comes of both.  Which settings
there are then is a matter of each field on its own (`gather_eq_ok`).  Seven things are asked for on the way, and the first
that is not met decides the fault (`errorOf_gather`).
-/
namespace SinkReporter
namespace Settings

variable {w : World} {path? : Option Bytes} {f s : Settings}

/-! ## Settings that make sense -/

/-- A name that a variable of an environment can have. -/
def IsVariable (name : String) : Prop := name ≠ "" ∧ '=' ∉ name.toList

/-- **Settings make sense** when they allow some time and name a variable that there can be, as far as they say anything. -/
structure Sensible (s : Settings) : Prop where
  timeout : ∀ secs, s.timeoutSecs = some secs → 1 ≤ secs
  named : ∀ name, s.contextVar = some name → IsVariable name

def timeoutFault? (s : Settings) : Option ConfigFault :=
  if s.timeoutSecs = some 0 then some (.invalidValue "timeout_secs" "must be greater than zero") else none

def variableFault? (s : Settings) : Option ConfigFault :=
  (s.contextVar.filter isImpossibleName).map fun name =>
    .invalidValue "context_var" ("'" ++ name ++ "' is not a valid environment variable name")

theorem errorOf_validate (s : Settings) : errorOf s.validate = s.timeoutFault?.or s.variableFault? := by
  obtain ⟨timeoutSecs, contextVar⟩ := s
  unfold validate timeoutFault? variableFault?
  by_cases hzero : timeoutSecs = some 0
  · simp [hzero]
  · cases contextVar with
    | none => simp [hzero]
    | some name => by_cases hname : isImpossibleName name = true <;> simp [hzero, hname, Option.filter_some]

theorem isImpossibleName_eq_false {name : String} : isImpossibleName name = false ↔ IsVariable name := by
  simp [isImpossibleName, IsVariable]

theorem timeoutFault?_eq_none : s.timeoutFault? = none ↔ ∀ secs, s.timeoutSecs = some secs → 1 ≤ secs := by
  have hpos : ∀ secs : UInt64, 1 ≤ secs ↔ secs ≠ 0 := fun secs => by
    rw [UInt64.le_iff_toNat_le, Ne, ← UInt64.toNat_inj]
    exact Nat.one_le_iff_ne_zero
  unfold timeoutFault?
  cases s.timeoutSecs <;> simp [hpos]

theorem variableFault?_eq_none : s.variableFault? = none ↔ ∀ name, s.contextVar = some name → IsVariable name := by
  unfold variableFault?
  cases s.contextVar <;> simp [isImpossibleName_eq_false]

theorem validate_eq_ok : s.validate = .ok () ↔ s.Sensible := by
  have hok : s.validate = .ok () ↔ errorOf s.validate = none := by
    cases s.validate <;> simp
  rw [hok, errorOf_validate, Option.or_eq_none_iff, timeoutFault?_eq_none, variableFault?_eq_none]
  exact ⟨fun h => ⟨h.1, h.2⟩, fun h => ⟨h.timeout, h.named⟩⟩

theorem empty_sensible : empty.Sensible := validate_eq_ok.1 rfl

theorem validated_eq_ok : (f.validate.map fun () => f) = .ok s ↔ f = s ∧ s.Sensible := by
  rw [map_eq_ok]
  constructor
  · rintro ⟨_, hok, rfl⟩
    exact ⟨rfl, validate_eq_ok.1 hok⟩
  · rintro ⟨rfl, hs⟩
    exact ⟨(), validate_eq_ok.2 hs, rfl⟩

/-! ## The environment's word -/

def timeoutAfter (w : World) (f : Settings) : Except ConfigFault (Option UInt64) :=
  match w.text? timeoutVariable with
  | none => .ok f.timeoutSecs
  | some text =>
    ((naturalOfText (Text.trim text.toList)).map some).mapError fun e => .invalidValue timeoutVariable e.message

def withTimeout (w : World) (f : Settings) (timeoutSecs : Option UInt64) : Settings :=
  ⟨timeoutSecs, (w.text? contextVarVariable).or f.contextVar⟩

theorem overridden_eq (w : World) (f : Settings) :
    f.overridden w = (timeoutAfter w f).bind fun secs =>
      (withTimeout w f secs).validate.map fun () => withTimeout w f secs := by
  unfold overridden timeoutAfter
  cases w.text? timeoutVariable with
  | none => rfl
  | some text => rfl

/-- **Each field is the environment's, where the environment has one, and else the file's.** -/
structure Overrides (w : World) (f s : Settings) : Prop where
  timeout_set : ∀ text, w.SetsTo timeoutVariable text → ∃ secs, SpellsNumber text secs.toNat ∧ s.timeoutSecs = some secs
  timeout_kept : (∀ text, ¬ w.SetsTo timeoutVariable text) → s.timeoutSecs = f.timeoutSecs
  variable_set : ∀ name, w.SetsTo contextVarVariable name → s.contextVar = some name
  variable_kept : (∀ name, ¬ w.SetsTo contextVarVariable name) → s.contextVar = f.contextVar

theorem timeoutAfter_eq_ok {secs? : Option UInt64} :
    timeoutAfter w f = .ok secs? ↔
      (∀ text, w.SetsTo timeoutVariable text → ∃ secs, SpellsNumber text secs.toNat ∧ secs? = some secs) ∧
      ((∀ text, ¬ w.SetsTo timeoutVariable text) → secs? = f.timeoutSecs) := by
  simp only [← World.text?_eq_some]
  unfold timeoutAfter
  cases w.text? timeoutVariable with
  | none => simp [eq_comm]
  | some text =>
    dsimp only
    rw [mapError_eq_ok, map_eq_ok]
    simp only [naturalOfText_trim_eq_ok, Option.some.injEq, forall_eq', false_implies, and_true,
      eq_comm (a := secs?)]

theorem overrides_iff : Overrides w f s ↔ ∃ secs?, timeoutAfter w f = .ok secs? ∧ withTimeout w f secs? = s := by
  constructor
  · intro h
    have hvariable : (w.text? contextVarVariable).or f.contextVar = s.contextVar := by
      cases hname : w.text? contextVarVariable with
      | none => rw [Option.none_or, h.variable_kept (World.text?_eq_none.1 hname)]
      | some name => rw [Option.some_or, h.variable_set name (World.text?_eq_some.1 hname)]
    refine ⟨s.timeoutSecs, timeoutAfter_eq_ok.2 ⟨h.timeout_set, h.timeout_kept⟩, ?_⟩
    rw [withTimeout, hvariable]
  · rintro ⟨secs?, hsecs, rfl⟩
    obtain ⟨hset, hkept⟩ := timeoutAfter_eq_ok.1 hsecs
    refine ⟨hset, hkept, fun name h => ?_, fun h => ?_⟩
    · rw [withTimeout, World.text?_eq_some.2 h, Option.some_or]
    · rw [withTimeout, World.text?_eq_none.2 h, Option.none_or]

/-- **What the environment makes of settings.** -/
theorem overridden_eq_ok : f.overridden w = .ok s ↔ Overrides w f s ∧ s.Sensible := by
  rw [overridden_eq, bind_eq_ok, overrides_iff]
  simp only [validated_eq_ok, ← and_assoc, exists_and_right]

/-! ## The file -/

/-- **What a file gives**, whether it makes sense or not; without a file, nothing is set. -/
def IsGiven (w : World) (path? : Option Bytes) (f : Settings) : Prop :=
  match path? with
  | none => f = empty
  | some path => ∃ data text, w.read path = .ok data ∧ Text.ofBytes? data = some text ∧ ofText? text = some f

def given? (w : World) : Option Bytes → Option Settings
  | none => some empty
  | some path => (w.readText path).toOption.bind ofText?

theorem given?_eq_some : given? w path? = some f ↔ IsGiven w path? f := by
  cases path? with
  | none => rw [given?, IsGiven, Option.some.injEq, eq_comm]
  | some path =>
    simp only [given?, IsGiven, Option.bind_eq_some_iff, toOption_eq_some, World.readText_eq_ok]
    constructor
    · rintro ⟨text, ⟨data, hdata, hspells⟩, htext⟩
      exact ⟨data, text, hdata, hspells, htext⟩
    · rintro ⟨data, text, hdata, hspells, htext⟩
      exact ⟨text, ⟨data, hdata, hspells⟩, htext⟩

def base (w : World) : Option Bytes → Except ConfigFault Settings
  | none => .ok empty
  | some path => load w path

theorem gather_eq (w : World) (path? : Option Bytes) : gather w path? = (base w path?).bind (overridden w) := by
  cases path? <;> rfl

theorem load_eq_ok {path : Bytes} : load w path = .ok f ↔ given? w (some path) = some f ∧ f.Sensible := by
  simp only [load, given?]
  cases w.readText path with
  | error cause => simp [Except.toOption]
  | ok text =>
    simp only [Except.toOption, Option.bind_some]
    cases ofText? text with
    | none => simp
    | some g =>
      dsimp only
      rw [validated_eq_ok, Option.some.injEq]

theorem base_eq_ok : base w path? = .ok f ↔ given? w path? = some f ∧ f.Sensible := by
  cases path? with
  | none =>
    rw [base, given?, Except.ok.injEq, Option.some.injEq]
    constructor
    · rintro rfl
      exact ⟨rfl, empty_sensible⟩
    · rintro ⟨rfl, -⟩
      rfl
  | some path => exact load_eq_ok

theorem gather_eq_ok : gather w path? = .ok s ↔ ∃ f, IsGiven w path? f ∧ f.Sensible ∧ Overrides w f s ∧ s.Sensible := by
  rw [gather_eq, bind_eq_ok]
  simp only [base_eq_ok, overridden_eq_ok, given?_eq_some, and_assoc]

/-- **Nothing but settings that make sense leaves here**, from wherever they come. -/
theorem sensible_of_gather (h : gather w path? = .ok s) : s.Sensible := by
  obtain ⟨_, -, -, -, hs⟩ := gather_eq_ok.1 h
  exact hs

/-! ## What is asked for -/

def merged? (w : World) (path? : Option Bytes) : Option Settings :=
  (given? w path?).bind fun f => (timeoutAfter w f).toOption.map (withTimeout w f)

theorem merged?_eq_some : merged? w path? = some s ↔ ∃ f, IsGiven w path? f ∧ Overrides w f s := by
  simp only [merged?, Option.bind_eq_some_iff, Option.map_eq_some_iff, given?_eq_some, toOption_eq_some, overrides_iff]

/-- What is asked of a file, of the environment, and of what comes of both. -/
inductive Requirement where
  | fileReadable
  | fileDecoded
  | fileTimeout
  | fileVariable
  | environmentTimeout
  | mergedTimeout
  | mergedVariable

namespace Requirement

def ofFile : List Requirement := [.fileReadable, .fileDecoded, .fileTimeout, .fileVariable]

/-- **All that is asked for, in order.** -/
def all : List Requirement := ofFile ++ [.environmentTimeout, .mergedTimeout, .mergedVariable]

/-- **A requirement is met.**  Nothing is asked of what is not there. -/
def IsMet (w : World) (path? : Option Bytes) : Requirement → Prop
  | .fileReadable => ∀ path ∈ path?, ∃ data text, w.read path = .ok data ∧ Text.ofBytes? data = some text
  | .fileDecoded => ∀ path ∈ path?, ∀ data text, w.read path = .ok data → Text.ofBytes? data = some text →
    ∃ f, ofText? text = some f
  | .fileTimeout => ∀ f, IsGiven w path? f → ∀ secs, f.timeoutSecs = some secs → 1 ≤ secs
  | .fileVariable => ∀ f, IsGiven w path? f → ∀ name, f.contextVar = some name → IsVariable name
  | .environmentTimeout => ∀ text, w.SetsTo timeoutVariable text → ∃ secs : UInt64, SpellsNumber text secs.toNat
  | .mergedTimeout => ∀ f s, IsGiven w path? f → Overrides w f s → ∀ secs, s.timeoutSecs = some secs → 1 ≤ secs
  | .mergedVariable => ∀ f s, IsGiven w path? f → Overrides w f s → ∀ name, s.contextVar = some name → IsVariable name

def fault? (w : World) (path? : Option Bytes) : Requirement → Option ConfigFault
  | .fileReadable => path?.bind fun path => (errorOf (w.readText path)).map (.ofFile path)
  | .fileDecoded => path?.bind fun path =>
    (w.readText path).toOption.bind fun text => if ofText? text = none then some (.badSettings path) else none
  | .fileTimeout => (given? w path?).bind timeoutFault?
  | .fileVariable => (given? w path?).bind variableFault?
  | .environmentTimeout => (w.text? timeoutVariable).bind fun text =>
    (errorOf (naturalOfText (Text.trim text.toList))).map fun e => .invalidValue timeoutVariable e.message
  | .mergedTimeout => (merged? w path?).bind timeoutFault?
  | .mergedVariable => (merged? w path?).bind variableFault?

/-- **A requirement has no fault just when it is met.** -/
theorem fault?_eq_none (r : Requirement) : r.fault? w path? = none ↔ r.IsMet w path? := by
  cases r with
  | fileReadable =>
    simp only [fault?, IsMet, Option.bind_eq_none_iff, Option.map_eq_none_iff, errorOf_eq_none,
      World.readText_eq_ok]
    exact forall₂_congr fun _ _ => exists_comm
  | fileDecoded =>
    simp only [fault?, IsMet, Option.bind_eq_none_iff, toOption_eq_some, World.readText_eq_ok]
    simp only [forall_exists_index, and_imp, ite_eq_right_iff, reduceCtorEq, imp_false, Option.ne_none_iff_exists']
    exact forall₂_congr fun _ _ => forall_comm
  | fileTimeout =>
    simp only [fault?, IsMet, Option.bind_eq_none_iff, given?_eq_some, timeoutFault?_eq_none]
  | fileVariable =>
    simp only [fault?, IsMet, Option.bind_eq_none_iff, given?_eq_some, variableFault?_eq_none]
  | environmentTimeout =>
    simp only [fault?, IsMet, Option.bind_eq_none_iff, Option.map_eq_none_iff, errorOf_eq_none, naturalOfText_trim_eq_ok,
      World.text?_eq_some]
  | mergedTimeout =>
    simp only [fault?, IsMet, Option.bind_eq_none_iff, merged?_eq_some, timeoutFault?_eq_none, forall_exists_index, and_imp]
    exact forall_comm
  | mergedVariable =>
    simp only [fault?, IsMet, Option.bind_eq_none_iff, merged?_eq_some, variableFault?_eq_none, forall_exists_index, and_imp]
    exact forall_comm

end Requirement

theorem errorOf_timeoutAfter (w : World) (f : Settings) :
    errorOf (timeoutAfter w f) = Requirement.environmentTimeout.fault? w path? := by
  unfold timeoutAfter Requirement.fault?
  cases w.text? timeoutVariable with
  | none => rfl
  | some text =>
    dsimp only [Option.bind_some]
    rw [errorOf_mapError, errorOf_map]

theorem errorOf_overridden (hf : given? w path? = some f) :
    errorOf (f.overridden w) = (Requirement.environmentTimeout.fault? w path?).or
      ((Requirement.mergedTimeout.fault? w path?).or (Requirement.mergedVariable.fault? w path?)) := by
  rw [overridden_eq, ← errorOf_timeoutAfter w f]
  -- nothing is asked of what comes of both unless the environment's timeout has been read
  refine errorOf_bind fun secs hsecs => ?_
  have hmerged : merged? w path? = some (withTimeout w f secs) := by
    simp [merged?, hf, hsecs, Except.toOption]
  rw [errorOf_map, errorOf_validate, Requirement.fault?, Requirement.fault?, hmerged]
  rfl

theorem errorOf_base (w : World) (path? : Option Bytes) :
    errorOf (base w path?) = Requirement.ofFile.findSome? (Requirement.fault? w path?) := by
  simp only [Requirement.ofFile, findSome?_cons_or, List.findSome?_nil, Option.or_none]
  cases path? with
  | none => rfl
  | some path =>
    simp only [base, load, Requirement.fault?, given?, Option.bind_some]
    cases w.readText path with
    | error cause => rfl
    | ok text =>
      simp only [Except.toOption, Option.bind_some, errorOf_ok, Option.map_none, Option.none_or]
      cases ofText? text with
      | none => rfl
      | some g =>
        dsimp only
        rw [errorOf_map, errorOf_validate]
        rfl

/-- **The first requirement that is not met decides the fault.** -/
theorem errorOf_gather (w : World) (path? : Option Bytes) :
    errorOf (gather w path?) = Requirement.all.findSome? (Requirement.fault? w path?) := by
  rw [gather_eq, Requirement.all, List.findSome?_append, ← errorOf_base]
  simp only [findSome?_cons_or, List.findSome?_nil, Option.or_none]
  -- the environment is asked only when the file is in order, and then it starts from what the file gives
  exact errorOf_bind fun f hf => errorOf_overridden (base_eq_ok.1 hf).1

/-- **Which settings there are**, for every environment, all files, and with a settings file or without one.  There are
settings just when the file, if there is one, is read and decoded and makes sense in itself, the timeout of the environment,
if it has one, is a number, and what comes of both makes sense; each field is then the environment's, if that has one, and
else the file's, whatever becomes of the other field.  Settings that come from a file, from the environment or from both
make sense.  When there are none, the fault is that of the first requirement that is not met: what is wrong with the file is
told before what is wrong with the environment, and that before what is wrong with both together. -/
theorem precedence_exact (w : World) (path? : Option Bytes) :
    (∀ s, gather w path? = .ok s ↔ ∃ f, IsGiven w path? f ∧ f.Sensible ∧ Overrides w f s ∧ s.Sensible) ∧
    (∀ s, gather w path? = .ok s ∨ (∃ path, load w path = .ok s) ∨ ofEnvironment w = .ok s → s.Sensible) ∧
    errorOf (gather w path?) = Requirement.all.findSome? (Requirement.fault? w path?) ∧
    ∀ r : Requirement, r.fault? w path? = none ↔ r.IsMet w path? := by
  refine ⟨fun s => gather_eq_ok, fun s h => ?_, errorOf_gather w path?, Requirement.fault?_eq_none⟩
  rcases h with h | ⟨path, h⟩ | h
  · exact sensible_of_gather h
  · exact (load_eq_ok.1 h).2
  · have hgather : gather w none = .ok s := h
    exact sensible_of_gather hgather

end Settings

/-- A world with one file, of settings, and an environment that sets a timeout. -/
def World.ofTimeouts (file environment : String) : World where
  value? name := if name = Settings.timeoutVariable then some (Text.bytes environment) else none
  read path := if path = Text.bytes "settings.toml" then .ok (Text.bytes file) else .error .notFound

/-- A file that makes no sense is not mended by the environment. -/
example : Settings.gather (.ofTimeouts "timeout_secs = 0" "5") (some (Text.bytes "settings.toml")) =
    .error (.invalidValue "timeout_secs" "must be greater than zero") := by rfl

end SinkReporter
