import SinkReporter.Proofs.Context.Resolution
import SinkReporter.Proofs.Record.Tolerance
/-!
# Proofs.Context.Tolerance — other sections of a context file do not count

A context file may hold any sections besides the one about the sink, and in that one anything besides the address and the
token.  None of it makes a difference to where the file leads.
-/
namespace SinkReporter

open Json (Blind Shape Changed HoldsContainer Sound SoundMembers readString sound_iff stringText_iff)

namespace SinkSection

def shapes : List (String × Shape) := [("address", .plain), ("auth_token", .plain)]

theorem tolerant_record : record.Tolerant shapes where
  toLawful := lawful_record
  fits := .cons ⟨rfl, Json.Field.blind_of Json.blind_text.optional⟩
    (.cons ⟨rfl, Json.Field.blind_of Json.blind_text.optional⟩ .nil)
  swaps := List.pairwise_pair.2 ⟨Json.Field.swaps_of fun _ _ _ => rfl, Json.Field.swaps_of fun _ _ _ => rfl⟩
  passes := rfl

end SinkSection

namespace Context

def shapes : List (String × Shape) := [("result_sink", .record SinkSection.shapes)]

def shape : Shape := .record shapes

theorem tolerant_record : record.Tolerant shapes where
  toLawful := lawful_record
  fits := .cons ⟨rfl, Json.Field.blind_of SinkSection.tolerant_record.blind.optional⟩ .nil
  swaps := List.pairwise_singleton _ _
  passes := rfl

/-- **Changes of its text do not make another context.** -/
theorem blind : Blind shape form.read := tolerant_record.blind

theorem holdsContainer {text : String} {c : Context} (h : form.ofText text = .ok c) : HoldsContainer text :=
  lawful_form.holdsContainer record.ofContainer h

/-- Two files in one place lead to the same, or fail alike, if the same is read of both. -/
theorem tryResolve_congr {w w' : World} {name : String} {path : Bytes} {text text' : String} {c : Context}
    (hpath : w.path? name = some path) (hpath' : w'.path? name = some path) (htext : w.readText path = .ok text)
    (htext' : w'.readText path = .ok text') (hc : form.ofText text = .ok c) (hc' : form.ofText text' = .ok c) :
    tryResolve w name = tryResolve w' name := by
  have hat : ∀ {v : World} {t : String}, v.path? name = some path → v.readText path = .ok t → form.ofText t = .ok c →
      tryResolve v name = c.endpoint path := fun hp ht hread => by
    have hload := load_eq_ok.2 ⟨_, ht, hread⟩
    rw [tryResolve, Context.path, hp]
    dsimp only [Except.bind]
    rw [endpointAt, hload]
    rfl
  rw [hat hpath htext hc, hat hpath' htext' hc']

def Accepted (text : String) : Prop := (∃ r, TestResult.form.ofText text = .ok r) ∨ ∃ c, form.ofText text = .ok c

theorem Accepted.holdsContainer {text : String} (h : Accepted text) : HoldsContainer text := by
  rcases h with ⟨r, hr⟩ | ⟨c, hc⟩
  · exact TestResult.holdsContainer hr
  · exact Context.holdsContainer hc

/-- **Members that a record does not know are ignored wherever they stand, and so is the order of its members.**  Whatever
changes of this sort a text undergoes, at the top or in any record inside it, the same is read of it before and after;
this goes for results and for context files, all of which are texts that hold a container.  A context file that was changed
so leads where it led before. -/
theorem changes_ignored :
    (∀ {text text'}, Relation.EqvGen (Changed TestResult.shape) text text' → ∀ r,
      TestResult.form.ofText text = .ok r ↔ TestResult.form.ofText text' = .ok r) ∧
    (∀ {text text'}, Relation.EqvGen (Changed shape) text text' → ∀ c, form.ofText text = .ok c ↔ form.ofText text' = .ok c) ∧
    (∀ {text}, Accepted text → HoldsContainer text) ∧
    ∀ {w w' : World} {name path text text' c}, w.path? name = some path → w'.path? name = some path →
      w.readText path = .ok text → w'.readText path = .ok text' → Relation.EqvGen (Changed shape) text text' →
      form.ofText text = .ok c → tryResolve w name = tryResolve w' name := by
  refine ⟨fun h _ => TestResult.blind.ofText_iff h, fun h _ => blind.ofText_iff h, Accepted.holdsContainer, ?_⟩
  intro w w' name path text text' c hpath hpath' htext htext' hchanged hc
  exact tryResolve_congr hpath hpath' htext htext' hc ((blind.ofText_iff hchanged).1 hc)

theorem changes_ignored_before_section :
    Changed shape "\x7b\"result_sink\":\x7b\"address\":\"h\",\"auth_token\":\"t\"\x7d\x7d"
      "\x7b\"\\u0078\":[1e400,\"\\ud800\"],\"result_sink\":\x7b\"address\":\"h\",\"auth_token\":\"t\"\x7d\x7d" ∧
    form.ofText "\x7b\"\\u0078\":[1e400,\"\\ud800\"],\"result_sink\":\x7b\"address\":\"h\",\"auth_token\":\"t\"\x7d\x7d" =
      .ok ⟨some ⟨some "h", some "t"⟩⟩ := by
  have hsink : Sound "\x7b\"address\":\"h\",\"auth_token\":\"t\"\x7d".toList := sound_iff.2
    ⟨by decide +kernel, toOption_eq_some.1 (by decide +kernel)⟩
  have hother : Sound "[1e400,\"\\ud800\"]".toList := sound_iff.2
    ⟨by decide +kernel, toOption_eq_some.1 (by decide +kernel)⟩
  have hmembers : SoundMembers []
      ([] ++ ⟨[], "\\u0078\"".toList, [], [], _, []⟩ :: [⟨[], "result_sink\"".toList, [], [], _, []⟩]) :=
    ⟨rfl, List.forall_mem_cons.2 ⟨⟨rfl, stringText_iff.2 rfl, rfl, rfl, rfl⟩,
      List.forall_mem_singleton.2 ⟨rfl, stringText_iff.2 rfl, rfl, rfl, rfl⟩⟩,
      List.forall_mem_cons.2 ⟨hother, List.forall_mem_singleton.2 hsink⟩⟩
  have hkey : readString "\\u0078\"".toList = .ok ("x", []) := rfl
  have hchanged : Changed shape "\x7b\"result_sink\":\x7b\"address\":\"h\",\"auth_token\":\"t\"\x7d\x7d"
      "\x7b\"\\u0078\":[1e400,\"\\ud800\"],\"result_sink\":\x7b\"address\":\"h\",\"auth_token\":\"t\"\x7d\x7d" :=
    .mk List.all_nil List.all_nil List.all_nil List.all_nil (by decide +kernel) (by decide +kernel)
      (.inserted hmembers hkey (by decide))
  exact ⟨hchanged, (changes_ignored.2.1 (.rel _ _ hchanged) _).1 (toOption_eq_some.1 (by decide +kernel))⟩

end Context

end SinkReporter
