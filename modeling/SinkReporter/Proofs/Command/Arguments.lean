import SinkReporter.Command.Run
import SinkReporter.Proofs.Outcome
/-!
# Proofs.Command.Arguments — two commands that take the same arguments

Posting and composing understand what follows them alike.  Only whose help is shown differs, and that ends a run before
anything is done (`parse_post_iff`).
-/
namespace SinkReporter
namespace Command

section

variable {scope scope' : Scope} (h : scope.isAboutResult = true) (h' : scope'.isAboutResult = true)
include h h'

theorem Scope.long?_eq (name : String) : scope.long? name = scope'.long? name := by
  rw [Scope.long?, Scope.long?, h, h']

theorem Scope.short?_eq (letter : Char) : scope.short? letter = scope'.short? letter := by
  rw [Scope.short?, Scope.short?, h, h']

omit h h' in
theorem Given.set_toOption (g : Given) (option : Switch) :
    (g.set scope option).toOption = (g.set scope' option).toOption := by
  cases option <;> rfl

theorem Given.letters_toOption : ∀ (letters : List Char) (g : Given),
    (g.letters scope letters).toOption = (g.letters scope' letters).toOption
  | [], g => rfl
  | letter :: rest, g => by
    rw [Given.letters, Given.letters, Scope.short?_eq h h']
    cases scope'.short? letter with
    | none => rfl
    | some option =>
      dsimp only
      split
      · rfl
      · exact toOption_bind_congr (toOption_bind_congr rfl fun g => g.set_toOption option)
          fun g => Given.letters_toOption rest g

theorem Given.longOption_toOption (g : Given) (text : List Char) :
    (g.longOption scope text).toOption = (g.longOption scope' text).toOption := by
  unfold Given.longOption
  dsimp only
  rw [Scope.long?_eq h h']
  split
  · rfl
  · split <;> rfl
  · refine toOption_bind_congr rfl fun g => ?_
    split
    · rfl
    · exact toOption_bind_congr (g.set_toOption _) fun g => rfl

theorem Given.collect_toOption : ∀ (arguments : List String) (g : Given) (waiting : Option Switch) (onlyWords : Bool),
    (Given.collect scope g waiting onlyWords arguments).toOption =
      (Given.collect scope' g waiting onlyWords arguments).toOption
  | [], g, none, _ => rfl
  | [], g, some option, _ => rfl
  | argument :: rest, g, waiting, onlyWords => by
    have ih := Given.collect_toOption rest
    cases waiting with
    | some option =>
      -- an option that waits takes a word and nothing else, whatever the command
      unfold Given.collect
      dsimp only
      cases (if onlyWords then Shape.word else Shape.of argument) with
      | word => exact ih _ _ _
      | endOfOptions => rfl
      | long text => rfl
      | letters text => rfl
    | none =>
      unfold Given.collect
      dsimp only
      cases (if onlyWords then Shape.word else Shape.of argument) with
      | endOfOptions => exact ih _ _ _
      | long text => exact toOption_bind_congr (g.longOption_toOption h h' text) fun _ => ih _ _ _
      | letters text => exact toOption_bind_congr (Given.letters_toOption h h' text g) fun _ => ih _ _ _
      | word =>
        dsimp only
        rw [h, h']
        split
        · exact toOption_bind_congr rfl fun _ => ih _ _ _
        · rfl

end

theorem parse_eq {environment : Option Bytes} {name : String} {scope : Scope} (rest : List String)
    (hword : Shape.of name = .word) (hname : Scope.ofName? name = some scope) :
    parse environment (name :: rest) = (Given.collect scope {} none false rest).bind fun after =>
      (after.action scope).bind fun action =>
        if emptyPathNeeded environment {} after then .error .usage else .ok ⟨action, after.settings.map Text.bytes, after.verbose⟩ := by
  have hsettle : Given.settle {} = .ok {} := rfl
  unfold parse Given.collectTop
  dsimp only
  rw [hword]
  dsimp only
  rw [hname, hsettle]
  dsimp only
  cases Given.collect scope {} none false rest with
  | error stop => rfl
  | ok after =>
    simp only [Except.bind, Except.map, Option.or_none, Bool.false_or]
    cases after.action scope <;> rfl

/-- **Posting and composing take the same arguments.** -/
theorem parse_post_iff {environment : Option Bytes} {rest : List String} {a : ResultArguments}
    {settings : Option Bytes} {verbose : Bool} :
    parse environment ("post" :: rest) = .ok ⟨.post a, settings, verbose⟩ ↔
      parse environment ("compose" :: rest) = .ok ⟨.compose a, settings, verbose⟩ := by
  have hcollect := @Given.collect_toOption .post .compose rfl rfl rest {} none false
  rw [@parse_eq environment "post" .post rest rfl rfl, @parse_eq environment "compose" .compose rest rfl rfl]
  rcases toOption_eq_iff.1 hcollect with ⟨after, hpost, hcompose⟩ | ⟨stop, stop', hpost, hcompose⟩
  · rw [hpost, hcompose]
    simp only [Except.bind, Given.action]
    cases after.result with
    | error stop => simp [Except.map]
    | ok b => cases emptyPathNeeded environment {} after <;> simp [Except.map]
  · rw [hpost, hcompose]
    simp [Except.bind]

/-! ## The path that the environment names -/

/-- **The path that the environment names does not matter here unless it is empty.** -/
theorem parse_of_ne {environment : Option Bytes} (h : environment ≠ some []) (arguments : List String) :
    parse environment arguments = parse none arguments := by
  have hneeded (top after : Given) : emptyPathNeeded environment top after = emptyPathNeeded none top after := by
    simp [emptyPathNeeded, h]
  simp only [parse, hneeded]

theorem parse_empty {name : String} {scope : Scope} {rest : List String} {i : Invocation} (hword : Shape.of name = .word)
    (hname : Scope.ofName? name = some scope) (h : parse none (name :: rest) = .ok i) :
    parse (some []) (name :: rest) = .error .usage := by
  rw [parse_eq rest hword hname] at h ⊢
  obtain ⟨after, hafter, h⟩ := bind_eq_ok.1 h
  obtain ⟨action, haction, -⟩ := bind_eq_ok.1 h
  rw [hafter]
  simp only [Except.bind, haction]
  rfl

end Command
end SinkReporter
