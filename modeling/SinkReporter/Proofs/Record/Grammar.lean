import SinkReporter.Proofs.Base64.Standard
import SinkReporter.Proofs.Json.Named
import SinkReporter.Proofs.Record.Reading
import Mathlib.Data.List.Forall2
/-!
# Proofs.Record.Grammar — which values are records

What a value has to look like to be a tag, an artifact, metadata, a status or a whole record is said here without any
reading (`IsHeldBy`).  A record is taken from a value just when the value holds it (`TestResult.take_iff`).
-/
namespace SinkReporter

open Json (Value Form Field Distinct)

/-! ## What values look like -/

def TestMetadata.IsHeldBy (metadata : TestMetadata) (v : Value) : Prop :=
  v.HasRoom ["name"] ∧ v.under ["name"] "name" = some (.string metadata.name)

def Artifact.IsHeldBy (artifact : Artifact) (v : Value) : Prop :=
  v.HasRoom ["contents"] ∧ v.under ["contents"] "contents" = some (.string artifact.contents)

def Tag.IsHeldBy (tag : Tag) (v : Value) : Prop :=
  v.HasRoom ["key", "value"] ∧ v.under ["key", "value"] "key" = some (.string tag.key) ∧
    v.under ["key", "value"] "value" = some (.string tag.value)

/-- A value that holds a status: its name, or an object of this one name and nothing in it. -/
def Status.IsHeldBy (status : Status) (v : Value) : Prop :=
  v = .string status.name ∨ v = .object [(status.name, .null)]

def IsNothing (found : Option Value) : Prop := found = none ∨ found = some .null

/-- What stands for the list of tags: an array of them, or nothing for no tags. -/
def AreTags (found : Option Value) (tags : List Tag) : Prop :=
  (found = none ∧ tags = []) ∨
  ∃ items, found = some (.array items) ∧ List.Forall₂ (fun v (tag : Tag) => tag.IsHeldBy v) items tags

/-- What stands for the summary and for the artifacts: nothing for both, or the snippet and an object with the log alone,
whose text is in the standard form of bytes. -/
def AreLog (summaryFound artifactsFound : Option Value) (summary : Option String)
    (artifacts : Option (List (String × Artifact))) : Prop :=
  (IsNothing summaryFound ∧ IsNothing artifactsFound ∧ summary = none ∧ artifacts = none) ∨
  ∃ v log, summaryFound = some (.string logSummary) ∧ artifactsFound = some (.object [(logName, v)]) ∧
    log.IsHeldBy v ∧ (∃ numbers pads, Base64.Standard log.contents.toList numbers pads) ∧
    summary = some logSummary ∧ artifacts = some [(logName, log)]

namespace TestResult

def fieldNames : List String :=
  ["testId", "status", "expected", "summaryHtml", "artifacts", "tags", "testMetadata"]

/-- **What stands under the names of the fields is this record.** -/
structure IsGivenBy (r : TestResult) (found : String → Option Value) : Prop where
  testId : found "testId" = some (.string r.testId)
  filled : r.testId ≠ ""
  status : ∃ v, found "status" = some v ∧ r.status.IsHeldBy v
  expected : found "expected" = some (.bool r.expected)
  log : AreLog (found "summaryHtml") (found "artifacts") r.summaryHtml r.artifacts
  tags : AreTags (found "tags") r.tags
  testMetadata : ∃ v, found "testMetadata" = some v ∧ r.testMetadata.IsHeldBy v
  name : r.testMetadata.name = r.testId

/-- **A value that holds a record**: an object, or an array of all seven fields. -/
def IsHeldBy (r : TestResult) (v : Value) : Prop := v.HasRoom fieldNames ∧ r.IsGivenBy (v.under fieldNames)

end TestResult

/-! ## What is taken from them -/

section

variable {α : Type} {v : Value}

theorem Json.take_text {s : String} : Form.text.take v = .ok s ↔ v = .string s := by
  cases v <;> simp [Form.text]

theorem Json.take_boolean {b : Bool} : Form.boolean.take v = .ok b ↔ v = .bool b := by
  cases v <;> simp [Form.boolean]

theorem Json.need_eq_ok {name : String} {x : Option α} {a : α} : Json.need name x = .ok a ↔ x = some a := by
  cases x <;> simp [Json.need]

theorem Json.take_single {title name : String} {make : String → α} (hd : Distinct v) {a : α} :
    (Json.single title name make).form.take v = .ok a ↔
      v.HasRoom [name] ∧ ∃ text, v.under [name] name = some (.string text) ∧ make text = a := by
  have hregular : (Json.single title name make).Regular := {
    toLawful := Json.lawful_single
    passes := rfl
    names := List.pairwise_singleton _ _
    blank := List.forall_mem_singleton.2 rfl
    last := fun f hf => by cases hf; rfl }
  refine (hregular.take_iff hd).trans (and_congr_right fun _ => ?_)
  refine (Json.exists_takeFrom_cons id rfl rfl fun _ => rfl).trans ?_
  simp only [Json.single, Json.exists_takeFrom_nil, map_eq_ok, Json.need_eq_ok, id]
  constructor
  · rintro ⟨x, hx, text, rfl, rfl⟩
    obtain ⟨u, hu, htext⟩ := Form.finds_some.1 hx
    exact ⟨text, by rw [← Json.take_text.1 htext]; exact hu, rfl⟩
  · rintro ⟨text, htext, rfl⟩
    exact ⟨some text, Form.finds_some.2 ⟨_, htext, rfl⟩, text, rfl, rfl⟩

theorem Json.take_optional_none {form : Form α} : form.optional.take v = .ok none ↔ v = .null := by
  by_cases hv : v = .null
  · subst hv
    exact ⟨fun _ => rfl, fun _ => rfl⟩
  · rw [Json.optional_take hv]
    simp [hv]

theorem Json.take_optional_some {form : Form α} {a : α} (hnull : form.take .null ≠ .ok a) :
    form.optional.take v = .ok (some a) ↔ form.take v = .ok a := by
  by_cases hv : v = .null
  · subst hv
    exact ⟨(fun h => by cases h), fun h => absurd h hnull⟩
  · rw [Json.optional_take hv]
    simp

theorem Json.take_map_single {form : Form α} (hd : Distinct v) {name : String} {a : α} :
    form.map.take v = .ok [(name, a)] ↔ ∃ u, v = .object [(name, u)] ∧ form.take u = .ok a := by
  constructor
  · intro h
    cases hd with
    | @object members hn _ =>
      obtain ⟨named, hnamed, hsorted⟩ := Json.map_take.1 h
      have hmap := Json.mapM_takeNamed_iff.1 hnamed
      have hnames : named.map (·.1) = members.map (·.1) := by
        have := congrArg (List.map Prod.fst) hmap
        rw [List.map_map, List.map_map] at this
        exact this.symm
      have hperm := Json.sortMembers_perm (hnames.symm ▸ hn)
      rw [hsorted] at hperm
      rw [List.perm_singleton.1 hperm.symm] at hmap
      obtain ⟨⟨key, u⟩, rfl, hu⟩ := List.map_eq_singleton_iff.1 hmap
      obtain ⟨rfl, hu⟩ := Prod.mk.inj hu
      exact ⟨u, rfl, hu⟩
    | _ => cases h
  · rintro ⟨u, rfl, hu⟩
    refine Json.map_take.2 ⟨[(name, a)], Json.mapM_takeNamed_iff.2 ?_, rfl⟩
    rw [List.map_singleton, List.map_singleton, hu]

theorem mapM_eq_ok_iff {ε β γ : Type} {f : β → Except ε γ} {xs : List β} {ys : List γ} :
    xs.mapM f = .ok ys ↔ List.Forall₂ (fun x y => f x = .ok y) xs ys := by
  induction xs generalizing ys with
  | nil => simp [pure, Except.pure, eq_comm]
  | cons x xs ih =>
    rw [mapM_cons_eq_ok, List.forall₂_cons_left_iff]
    constructor
    · rintro ⟨y, ys', hy, hys, rfl⟩
      exact ⟨y, ys', hy, ih.1 hys, rfl⟩
    · rintro ⟨y, ys', hy, hys, rfl⟩
      exact ⟨y, ys', hy, ih.2 hys, rfl⟩

end

section

variable {v : Value}

theorem TestMetadata.take_iff (hd : Distinct v) {metadata : TestMetadata} :
    form.take v = .ok metadata ↔ metadata.IsHeldBy v := by
  refine (Json.take_single hd).trans (and_congr_right fun _ => ?_)
  constructor
  · rintro ⟨text, htext, rfl⟩
    exact htext
  · exact fun h => ⟨_, h, rfl⟩

theorem Artifact.take_iff (hd : Distinct v) {artifact : Artifact} :
    form.take v = .ok artifact ↔ artifact.IsHeldBy v := by
  refine (Json.take_single hd).trans (and_congr_right fun _ => ?_)
  constructor
  · rintro ⟨text, htext, rfl⟩
    exact htext
  · exact fun h => ⟨_, h, rfl⟩

theorem Status.ofName?_eq_some {name : String} {status : Status} :
    Status.ofName? name = some status ↔ name = status.name := by
  constructor
  · intro h
    have hfound := List.find?_some h
    exact (of_decide_eq_true hfound).symm
  · rintro rfl
    cases status <;> rfl

theorem Status.take_iff {status : Status} : form.take v = .ok status ↔ status.IsHeldBy v := by
  rw [Status.form, Json.choice_take]
  simp only [Status.ofName?_eq_some, exists_eq_right, Status.IsHeldBy]

theorem Tag.take_iff (hd : Distinct v) {tag : Tag} : form.take v = .ok tag ↔ tag.IsHeldBy v := by
  have hregular : record.Regular := {
    toLawful := lawful_record
    passes := rfl
    names := by decide
    blank := by decide
    last := fun f hf => by cases hf; rfl }
  refine (hregular.take_iff hd).trans (and_congr_right fun _ => ?_)
  refine (Json.exists_takeFrom_cons (fun key => (⟨key, none⟩ : Draft)) rfl rfl fun _ => rfl).trans ?_
  constructor
  · rintro ⟨key, hkey, hrest⟩
    obtain ⟨value, hvalue, hrest⟩ :=
      (Json.exists_takeFrom_cons (fun value => (⟨key, value⟩ : Draft)) rfl rfl fun _ => rfl).1 hrest
    have hfinish := Json.exists_takeFrom_nil.1 hrest
    obtain ⟨k, hk, hfinish⟩ := bind_eq_ok.1 hfinish
    obtain ⟨u, hu, hfinish⟩ := bind_eq_ok.1 hfinish
    cases hfinish
    obtain rfl : key = some k := Json.need_eq_ok.1 hk
    obtain rfl : value = some u := Json.need_eq_ok.1 hu
    obtain ⟨w, hw, htext⟩ := Form.finds_some.1 hkey
    obtain ⟨x, hx, htext'⟩ := Form.finds_some.1 hvalue
    rw [Json.take_text.1 htext] at hw
    rw [Json.take_text.1 htext'] at hx
    exact ⟨hw, hx⟩
  · rintro ⟨hkey, hvalue⟩
    refine ⟨some tag.key, Form.finds_some.2 ⟨_, hkey, rfl⟩, ?_⟩
    refine (Json.exists_takeFrom_cons (fun value => (⟨some tag.key, value⟩ : Draft)) rfl rfl fun _ => rfl).2 ?_
    exact ⟨some tag.value, Form.finds_some.2 ⟨_, hvalue, rfl⟩, Json.exists_takeFrom_nil.2 rfl⟩

end

/-! ## The log and the tags -/

section

variable {found : Option Value}

theorem isNothing_iff {α : Type} {form : Form α} : form.optional.FindsOr none found none ↔ IsNothing found := by
  simp [Form.FindsOr, IsNothing, Json.take_optional_none]

theorem findsOr_summary {text : String} :
    Form.text.optional.FindsOr none found (some text) ↔ found = some (.string text) := by
  have hnull : Form.text.take .null ≠ .ok text := by simp [Json.take_text]
  simp [Form.FindsOr, Json.take_optional_some hnull, Json.take_text]

theorem findsOr_artifacts (hd : ∀ v, found = some v → Distinct v) {name : String} {artifact : Artifact} :
    Artifact.form.map.optional.FindsOr none found (some [(name, artifact)]) ↔
      ∃ v, found = some (.object [(name, v)]) ∧ artifact.IsHeldBy v := by
  have hnull : Artifact.form.map.take .null ≠ .ok [(name, artifact)] := fun h => by cases h
  simp only [Form.FindsOr, Json.take_optional_some hnull, reduceCtorEq, and_false, false_or]
  constructor
  · rintro ⟨u, hu, htake⟩
    obtain ⟨v, rfl, hv⟩ := (Json.take_map_single (hd u hu)).1 htake
    cases hd _ hu with
    | object _ hmember => exact ⟨v, hu, (Artifact.take_iff (hmember _ List.mem_cons_self)).1 hv⟩
  · rintro ⟨v, hv, hheld⟩
    cases hd _ hv with
    | object hn hmember =>
      refine ⟨_, hv, (Json.take_map_single (hd _ hv)).2 ⟨v, rfl, ?_⟩⟩
      exact (Artifact.take_iff (hmember _ List.mem_cons_self)).2 hheld

/-- **A log is read when it looks like one.** -/
theorem areLog_iff {summaryFound artifactsFound : Option Value} (hd : ∀ v, artifactsFound = some v → Distinct v)
    {summary : Option String} {artifacts : Option (List (String × Artifact))} :
    AreLog summaryFound artifactsFound summary artifacts ↔
      Form.text.optional.FindsOr none summaryFound summary ∧
        Artifact.form.map.optional.FindsOr none artifactsFound artifacts ∧ TestResult.LogShape summary artifacts := by
  constructor
  · rintro (⟨hs, ha, rfl, rfl⟩ | ⟨v, log, hs, ha, hheld, hlog, rfl, rfl⟩)
    · exact ⟨isNothing_iff.2 hs, isNothing_iff.2 ha, .inl ⟨rfl, rfl⟩⟩
    · obtain ⟨data, hdata⟩ := Artifact.bytes_iff_standard.2 hlog
      exact ⟨findsOr_summary.2 hs, (findsOr_artifacts hd).2 ⟨v, ha, hheld⟩, .inr ⟨log, data, rfl, rfl, hdata⟩⟩
  · rintro ⟨hs, ha, ⟨rfl, rfl⟩ | ⟨log, data, rfl, rfl, hdata⟩⟩
    · exact .inl ⟨isNothing_iff.1 hs, isNothing_iff.1 ha, rfl, rfl⟩
    · obtain ⟨v, hv, hheld⟩ := (findsOr_artifacts hd).1 ha
      exact .inr ⟨v, log, findsOr_summary.1 hs, hv, hheld, Artifact.bytes_iff_standard.1 ⟨data, hdata⟩, rfl, rfl⟩

theorem take_tags {items : List Value} (hd : ∀ v ∈ items, Distinct v) {tags : List Tag} :
    items.mapM Tag.form.take = .ok tags ↔ List.Forall₂ (fun v (tag : Tag) => tag.IsHeldBy v) items tags := by
  rw [mapM_eq_ok_iff]
  constructor
  · intro h
    exact ((List.forall₂_and_left _ _).2 ⟨hd, h⟩).imp fun v tag hv => (Tag.take_iff hv.1).1 hv.2
  · intro h
    exact ((List.forall₂_and_left _ _).2 ⟨hd, h⟩).imp fun v tag hv => (Tag.take_iff hv.1).2 hv.2

/-- **Tags are read when they look like tags.** -/
theorem areTags_iff (hd : ∀ v, found = some v → Distinct v) {tags : List Tag} :
    AreTags found tags ↔ Tag.form.list.FindsOr [] found tags := by
  refine or_congr_right ?_
  constructor
  · rintro ⟨items, hitems, hall⟩
    cases hd _ hitems with
    | array hitem => exact ⟨_, hitems, (take_tags hitem).2 hall⟩
  · rintro ⟨v, hv, htake⟩
    cases hd v hv with
    | @array items hitem => exact ⟨items, hv, (take_tags hitem).1 htake⟩
    | _ => cases htake

end

namespace TestResult

/-! ## The whole record -/

theorem regular_record : record.Regular where
  toLawful := lawful_record
  passes := rfl
  names := by decide
  blank := by decide
  last f hf := by cases hf; rfl

theorem finish_eq_ok {d : Draft} {r : TestResult} :
    d.finish = .ok r ↔
      (d.testId = some r.testId ∧ d.status = some r.status ∧ d.expected = some r.expected ∧
        d.testMetadata = some r.testMetadata) ∧
      d.summaryHtml.getD none = r.summaryHtml ∧ d.artifacts.getD none = r.artifacts ∧ d.tags.getD [] = r.tags := by
  constructor
  · intro h
    obtain ⟨testId, h₁, h⟩ := bind_eq_ok.1 h
    obtain ⟨status, h₂, h⟩ := bind_eq_ok.1 h
    obtain ⟨expected, h₃, h⟩ := bind_eq_ok.1 h
    obtain ⟨metadata, h₄, h⟩ := bind_eq_ok.1 h
    cases h
    exact ⟨⟨Json.need_eq_ok.1 h₁, Json.need_eq_ok.1 h₂, Json.need_eq_ok.1 h₃, Json.need_eq_ok.1 h₄⟩, rfl, rfl, rfl⟩
  · rintro ⟨⟨h₁, h₂, h₃, h₄⟩, h₅, h₆, h₇⟩
    rw [Draft.finish, h₁, h₂, h₃, h₄, h₅, h₆, h₇]
    rfl

/-- **Each field is taken from what stands under its name**, the later ones with the earlier ones in the draft. -/
theorem exists_taken_iff {look : String → Option Value} {P : Draft → Prop} :
    (∃ d, record.fields.foldlM (Field.takeFrom look) record.blank = .ok d ∧ P d) ↔
      ∃ testId, Form.text.Finds (look "testId") testId ∧
      ∃ status, Status.form.Finds (look "status") status ∧
      ∃ expected, Form.boolean.Finds (look "expected") expected ∧
      ∃ summaryHtml, Form.text.optional.Finds (look "summaryHtml") summaryHtml ∧
      ∃ artifacts, Artifact.form.map.optional.Finds (look "artifacts") artifacts ∧
      ∃ tags, Tag.form.list.Finds (look "tags") tags ∧
      ∃ testMetadata, TestMetadata.form.Finds (look "testMetadata") testMetadata ∧
        P ⟨testId, status, expected, summaryHtml, artifacts, tags, testMetadata⟩ := by
  refine (Json.exists_takeFrom_cons (fun a => (⟨a, none, none, none, none, none, none⟩ : Draft)) rfl rfl
    fun _ => rfl).trans (exists_congr fun a => and_congr_right fun _ => ?_)
  refine (Json.exists_takeFrom_cons (fun b => (⟨a, b, none, none, none, none, none⟩ : Draft)) rfl rfl
    fun _ => rfl).trans (exists_congr fun b => and_congr_right fun _ => ?_)
  refine (Json.exists_takeFrom_cons (fun c => (⟨a, b, c, none, none, none, none⟩ : Draft)) rfl rfl fun _ => rfl).trans
    (exists_congr fun c => and_congr_right fun _ => ?_)
  refine (Json.exists_takeFrom_cons (fun d => (⟨a, b, c, d, none, none, none⟩ : Draft)) rfl rfl fun _ => rfl).trans
    (exists_congr fun d => and_congr_right fun _ => ?_)
  refine (Json.exists_takeFrom_cons (fun e => (⟨a, b, c, d, e, none, none⟩ : Draft)) rfl rfl fun _ => rfl).trans
    (exists_congr fun e => and_congr_right fun _ => ?_)
  refine (Json.exists_takeFrom_cons (fun f => (⟨a, b, c, d, e, f, none⟩ : Draft)) rfl rfl fun _ => rfl).trans
    (exists_congr fun f => and_congr_right fun _ => ?_)
  refine (Json.exists_takeFrom_cons (fun g => (⟨a, b, c, d, e, f, g⟩ : Draft)) rfl rfl fun _ => rfl).trans
    (exists_congr fun g => and_congr_right fun _ => ?_)
  exact Json.exists_takeFrom_nil

variable {v : Value} {r : TestResult}

/-- **What is taken as a record**, before it is checked. -/
theorem take_record_iff (hd : Distinct v) :
    record.form.take v = .ok r ↔
      v.HasRoom fieldNames ∧
      (Form.text.Finds (v.under fieldNames "testId") (some r.testId) ∧
        Status.form.Finds (v.under fieldNames "status") (some r.status) ∧
        Form.boolean.Finds (v.under fieldNames "expected") (some r.expected) ∧
        TestMetadata.form.Finds (v.under fieldNames "testMetadata") (some r.testMetadata)) ∧
      Form.text.optional.FindsOr none (v.under fieldNames "summaryHtml") r.summaryHtml ∧
      Artifact.form.map.optional.FindsOr none (v.under fieldNames "artifacts") r.artifacts ∧
      Tag.form.list.FindsOr [] (v.under fieldNames "tags") r.tags := by
  refine (regular_record.take_iff hd).trans (and_congr_right fun _ => exists_taken_iff.trans ?_)
  constructor
  · rintro ⟨a, ha, b, hb, c, hc, d, hd, e, he, f, hf, g, hg, hfinish⟩
    obtain ⟨⟨h₁, h₂, h₃, h₄⟩, h₅, h₆, h₇⟩ := finish_eq_ok.1 hfinish
    dsimp only at h₁ h₂ h₃ h₄
    subst h₁ h₂ h₃ h₄
    exact ⟨⟨ha, hb, hc, hg⟩, Form.finds_getD.1 ⟨d, hd, h₅⟩, Form.finds_getD.1 ⟨e, he, h₆⟩, Form.finds_getD.1 ⟨f, hf, h₇⟩⟩
  · rintro ⟨⟨ha, hb, hc, hg⟩, hd, he, hf⟩
    obtain ⟨d, hd, h₅⟩ := Form.finds_getD.2 hd
    obtain ⟨e, he, h₆⟩ := Form.finds_getD.2 he
    obtain ⟨f, hf, h₇⟩ := Form.finds_getD.2 hf
    exact ⟨_, ha, _, hb, _, hc, d, hd, e, he, f, hf, _, hg, finish_eq_ok.2 ⟨⟨rfl, rfl, rfl, rfl⟩, h₅, h₆, h₇⟩⟩

/-- **A record is taken from a value just when the value holds it.** -/
theorem take_iff (hd : Distinct v) : form.take v = .ok r ↔ r.IsHeldBy v := by
  have hunder : ∀ name u, v.under fieldNames name = some u → Distinct u := fun _ _ => hd.under
  have hform : form.take v = .ok r ↔ record.form.take v = .ok r ∧ r.WellFormed := by
    rw [form, Json.checked_take]
    constructor
    · rintro ⟨a, ha, hchecked⟩
      obtain ⟨hwf, rfl⟩ := checked_eq_ok.1 (mapError_eq_ok.1 hchecked)
      exact ⟨ha, hwf⟩
    · rintro ⟨ha, hwf⟩
      exact ⟨r, ha, mapError_eq_ok.2 (checked_eq_ok.2 ⟨hwf, rfl⟩)⟩
  rw [hform, take_record_iff hd]
  constructor
  · rintro ⟨⟨hroom, ⟨hid, hstatus, hexpected, hmetadata⟩, hsummary, hartifacts, htags⟩, hwf⟩
    obtain ⟨u, hu, hid⟩ := Form.finds_some.1 hid
    obtain ⟨x, hx, hstatus⟩ := Form.finds_some.1 hstatus
    obtain ⟨y, hy, hexpected⟩ := Form.finds_some.1 hexpected
    obtain ⟨z, hz, hmetadata⟩ := Form.finds_some.1 hmetadata
    exact ⟨hroom, {
      testId := Json.take_text.1 hid ▸ hu
      filled := hwf.testId
      status := ⟨x, hx, Status.take_iff.1 hstatus⟩
      expected := Json.take_boolean.1 hexpected ▸ hy
      log := (areLog_iff (hunder _)).2 ⟨hsummary, hartifacts, hwf.log⟩
      tags := (areTags_iff (hunder _)).2 htags
      testMetadata := ⟨z, hz, (TestMetadata.take_iff (hunder _ _ hz)).1 hmetadata⟩
      name := hwf.name }⟩
  · rintro ⟨hroom, h⟩
    obtain ⟨x, hx, hstatus⟩ := h.status
    obtain ⟨z, hz, hmetadata⟩ := h.testMetadata
    obtain ⟨hsummary, hartifacts, hlog⟩ := (areLog_iff (hunder _)).1 h.log
    refine ⟨⟨hroom, ⟨?_, ?_, ?_, ?_⟩, hsummary, hartifacts, (areTags_iff (hunder _)).1 h.tags⟩,
      h.filled, h.name, hlog⟩
    · exact Form.finds_some.2 ⟨_, h.testId, rfl⟩
    · exact Form.finds_some.2 ⟨x, hx, Status.take_iff.2 hstatus⟩
    · exact Form.finds_some.2 ⟨_, h.expected, rfl⟩
    · exact Form.finds_some.2 ⟨z, hz, (TestMetadata.take_iff (hunder _ _ hz)).2 hmetadata⟩

/-- **The values that are records.**  From any value, no object of which names two members alike, a record is taken just
when the value holds it.  What is read of a text by way of its value is therefore the record that this value holds. -/
theorem grammar_exact :
    (∀ v, Distinct v → ∀ r, form.take v = .ok r ↔ r.IsHeldBy v) ∧
    ∀ text r, form.ofParsedText text = .ok r ↔ ∃ v, Json.parse text = .ok v ∧ r.IsHeldBy v := by
  refine ⟨fun v hd r => take_iff hd, fun text r => ?_⟩
  rw [Json.ofParsedText_eq_ok]
  constructor
  · rintro ⟨tree, htree, htake⟩
    exact ⟨_, Json.parse_eq_ok_iff.2 ⟨tree, htree, rfl⟩, (take_iff (Json.distinct_canonical tree)).1 htake⟩
  · rintro ⟨v, hv, hheld⟩
    obtain ⟨tree, htree, rfl⟩ := Json.parse_eq_ok_iff.1 hv
    exact ⟨tree, htree, (take_iff (Json.distinct_canonical tree)).2 hheld⟩

/-- A record, all of it in arrays but for its status, its artifacts and one tag. -/
def sampleArray : Value :=
  .array [.string "t", .object [("PASS", .null)], .bool false, .string logSummary,
    .object [(logName, .array [.string "QQ=="])],
    .array [.array [.string "k", .string "v"], .object [("key", .string "k"), ("other", .null), ("value", .string "")]],
    .array [.string "t"]]

theorem grammar_exact_array : Distinct sampleArray ∧
    form.take sampleArray = .ok ⟨"t", .pass, false, some logSummary, some [(logName, ⟨"QQ=="⟩)], [⟨"k", "v"⟩, ⟨"k", ""⟩],
      ⟨"t"⟩⟩ := by
  have hd : Distinct sampleArray := Json.distinct_canonical sampleArray
  refine ⟨hd, (grammar_exact.1 sampleArray hd _).2 ⟨rfl, ?_⟩⟩
  exact {
    testId := rfl
    filled := by decide
    status := ⟨_, rfl, .inr rfl⟩
    expected := rfl
    log := .inr ⟨_, _, rfl, rfl, ⟨rfl, rfl⟩, Artifact.bytes_iff_standard.1 ⟨[65], rfl⟩, rfl, rfl⟩
    tags := .inr ⟨_, rfl, .cons ⟨rfl, rfl, rfl⟩ (.cons ⟨trivial, rfl, rfl⟩ .nil)⟩
    testMetadata := ⟨_, rfl, rfl, rfl⟩
    name := rfl }

end TestResult
end SinkReporter
