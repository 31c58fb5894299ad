import SinkReporter.Plugin
import SinkReporter.Proofs.Text.Quoted
/-!
# Proofs.Plugin — what a service logs tells which requests it has served

The line of a request is read in one way (`prefixCode_line`), since the names and errors in it are quoted, and it holds
visible characters only (`visible_line`).  Over any run there is one such line for each request, in order, so that the
text of the log gives the requests back (`serveAll_faithful`).
-/
namespace SinkReporter
namespace Plugin

open Json (Value)
open Text (PrefixCode Visible)

def told (r : Request) : Event := .received r.operation.name r.quoted

/-- Serves requests, one after another, on top of a log: the responses, and the log after them. -/
def serveAll (log : List Event) : List Request → List Value × List Event
  | [] => ([], log)
  | r :: rest =>
    let (response, events) := serve r
    let (responses, log) := serveAll (log ++ events) rest
    (response :: responses, log)

def logText (log : List Event) : String := String.join (log.map fun e => e.line ++ "\n")

/-! ## The line of a request -/

theorem fieldsText_didFail (t : TestCase) (error : Option String) :
    (Request.didFail t error).fieldsText =
      " \x7b " ++ ("test_case: " ++ t.quoted ++ ", " ++ ("error: " ++ errorText error)) ++ " \x7d" := by
  simp only [Request.fieldsText, Request.quotedFields, String.intercalate_cons_cons, String.intercalate_singleton]

theorem quoted_testCase (t : TestCase) : t.quoted = "TestCase \x7b name: " ++ Text.quoted t.name ++ " \x7d" := rfl

theorem prefixCode_testCase : PrefixCode fun t : TestCase => t.quoted.toList := by
  have hname : Function.Injective TestCase.name := fun a b h => by cases a; cases b; cases h; rfl
  have hcode := (Text.prefixCode_quoted.comp hname).around "TestCase \x7b name: ".toList " \x7d".toList
  simpa only [quoted_testCase, String.toList_append] using hcode

theorem prefixCode_errorText : PrefixCode fun error => (errorText error).toList := by
  intro a b s t h
  cases a with
  | none =>
    cases b with
    | none => exact ⟨rfl, List.append_cancel_left h⟩
    | some e => simp [errorText] at h
  | some d =>
    cases b with
    | none => simp [errorText] at h
    | some e =>
      simp only [errorText, String.toList_append] at h
      obtain ⟨rfl, hst⟩ := Text.prefixCode_quoted.around "Some(".toList ")".toList d e s t h
      exact ⟨rfl, hst⟩

theorem prefixCode_willStart : PrefixCode fun t => (Request.willStart t).fieldsText.toList := by
  have hcode := prefixCode_testCase.around " \x7b test_case: ".toList " \x7d".toList
  simpa [Request.fieldsText, Request.quotedFields] using hcode

theorem prefixCode_didFail :
    PrefixCode fun p : TestCase × Option String => (Request.didFail p.1 p.2).fieldsText.toList := by
  have hcode := ((prefixCode_testCase.around " \x7b test_case: ".toList ", error: ".toList).append
    prefixCode_errorText).around [] " \x7d".toList
  simpa [fieldsText_didFail] using hcode

theorem fieldsText_inj {r r' : Request} (hop : r.operation = r'.operation) {s t : List Char}
    (h : r.fieldsText.toList ++ s = r'.fieldsText.toList ++ t) : r = r' ∧ s = t := by
  cases r with
  | willStart a =>
    cases r' with
    | willStart b =>
      obtain ⟨rfl, hst⟩ := prefixCode_willStart a b s t h
      exact ⟨rfl, hst⟩
    | _ => cases hop
  | didFinish a =>
    cases r' with
    | didFinish b =>
      -- both notices of one test case have the same fields
      obtain ⟨rfl, hst⟩ := prefixCode_willStart a b s t h
      exact ⟨rfl, hst⟩
    | _ => cases hop
  | didFail a error =>
    cases r' with
    | didFail b error' =>
      obtain ⟨hab, hst⟩ := prefixCode_didFail (a, error) (b, error') s t h
      cases hab
      exact ⟨rfl, hst⟩
    | _ => cases hop
  | listEnabled =>
    cases r' with
    | listEnabled => exact ⟨rfl, List.append_cancel_left h⟩
    | _ => cases hop

theorem prefixCode_operation : PrefixCode fun op : Operation => op.name.toList ++ [' '] := by
  have hspace : ∀ op : Operation, ' ' ∉ op.name.toList := fun op => by cases op <;> decide
  have hname : Function.Injective Operation.name := fun a b h => by
    cases a <;> cases b <;> simp [Operation.name] at h ⊢
  exact .ended (fun a b h => hname (String.toList_inj.1 h)) hspace

theorem line_told (r : Request) :
    (told r).line =
      "INFO: " ++ ("Received request for " ++ r.operation.name ++ " " ++ (r.operation.requestName ++ r.fieldsText)) :=
  rfl

/-- **The line of a request is read in one way**, whatever comes behind it. -/
theorem prefixCode_line : PrefixCode fun r => (told r).line.toList := by
  intro r r' s t h
  simp only [line_told, String.toList_append, List.append_assoc] at h
  -- the operation first: it says which fields come behind it
  obtain ⟨hop, hrest⟩ := prefixCode_operation _ _ _ _ (by
    simpa using List.append_cancel_left (List.append_cancel_left h))
  rw [hop] at hrest
  exact fieldsText_inj hop (List.append_cancel_left hrest)

theorem visible_testCase (t : TestCase) : Visible t.quoted := by
  simp +decide [quoted_testCase, Text.visible_of_ascii, Text.visible_quoted]

theorem visible_errorText (e : Option String) : Visible (errorText e) := by
  cases e <;> simp +decide [errorText, Text.visible_of_ascii, Text.visible_quoted]

theorem visible_fieldsText (r : Request) : Visible r.fieldsText := by
  cases r with
  | didFail t error =>
    simp +decide [fieldsText_didFail, Text.visible_of_ascii, visible_testCase, visible_errorText]
  | _ => simp +decide [Request.fieldsText, Request.quotedFields, Text.visible_of_ascii, visible_testCase]

theorem visible_line (r : Request) : Visible (told r).line := by
  have hname : ∀ op : Operation, Visible op.name := fun op => by cases op <;> exact Text.visible_of_ascii (by decide)
  simp +decide [line_told, Operation.requestName, hname, Text.visible_of_ascii, visible_fieldsText]

/-! ## Any number of requests -/

theorem serve_eq (r : Request) : serve r = (.object [], [told r]) := rfl

theorem serveAll_eq : ∀ (log : List Event) (requests : List Request),
    serveAll log requests = (requests.map fun _ => .object [], log ++ requests.map told)
  | log, [] => by rw [serveAll, List.map_nil, List.map_nil, List.append_nil]
  | log, r :: rest => by
    rw [serveAll, serve_eq]
    dsimp only
    rw [serveAll_eq (log ++ [told r]) rest, List.append_assoc]
    rfl

theorem toList_logText (log : List Event) : (logText log).toList = log.flatMap fun e => e.line.toList ++ ['\n'] := by
  simp [logText, List.flatMap_map]

theorem logText_told_inj {log : List Event} {requests others : List Request}
    (h : logText (log ++ requests.map told) = logText (log ++ others.map told)) : requests = others := by
  have hlines : PrefixCode fun r => (told r).line.toList ++ ['\n'] := prefixCode_line.around [] ['\n']
  have hends : ∀ r rest, ((told r).line.toList ++ ['\n']) ++ rest ≠ [] := fun r rest => by simp
  have htext := congrArg String.toList h
  simp only [toList_logText, List.flatMap_append, List.flatMap_map] at htext
  refine (hlines.flatMap_inj hends hends requests others ?_).1
  rw [List.append_cancel_left htext]

/-- **What a service logs tells which requests it has served.**  Each of any requests, one after another, is answered
with the empty response and adds one line to the log, of the level for information.  The lines of two requests differ
unless operation, test case and error are the same, and neither control characters nor ends of lines stand in them,
whatever the names and errors are; so the text of the log gives the requests back, all of them and in order. -/
theorem serveAll_faithful (log : List Event) (requests : List Request) :
    serveAll log requests = (requests.map fun _ => .object [], log ++ requests.map told) ∧
    (∀ r, (told r).level = .info ∧ ∀ c ∈ (told r).line.toList, ¬ Text.IsControl c ∧ ¬ Text.BreaksLine c) ∧
    (∀ r r', (told r).line = (told r').line ↔ r = r') ∧
    ∀ others, logText (serveAll log requests).2 = logText (serveAll log others).2 ↔ requests = others := by
  refine ⟨serveAll_eq log requests, fun r => ⟨rfl, (visible_line r).harmless⟩, fun r r' => ⟨fun h => ?_, ?_⟩,
    fun others => ⟨fun h => ?_, ?_⟩⟩
  · exact prefixCode_line.injective (congrArg String.toList h)
  · rintro rfl
    rfl
  · rw [serveAll_eq, serveAll_eq] at h
    exact logText_told_inj h
  · rintro rfl
    rfl

end Plugin
end SinkReporter
