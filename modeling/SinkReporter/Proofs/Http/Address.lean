import SinkReporter.Http.Url
import SinkReporter.Proofs.Outcome
/-!
# Proofs.Http.Address — a path that stays as it is

Reading an address writes some characters of its path anew and carries out the steps that stay in place or go up.  A path
that has neither is the path of the address that is read (`target_of_plain`), wherever the address leads.
-/
namespace SinkReporter

/-! ## Cutting -/

namespace Text

theorem cutAt_of_not_mem {mark : Char} {s : List Char} (h : mark ∉ s) : cutAt mark s = (s, none) := by
  have hdrop : s.dropWhile (· ≠ mark) = [] := by
    induction s with
    | nil => rfl
    | cons c rest ih =>
      obtain ⟨hc, hrest⟩ := not_or.1 (mt List.mem_cons.2 h)
      rw [List.dropWhile_cons_of_pos (by simpa using Ne.symm hc), ih hrest]
  rw [cutAt, hdrop]

theorem flatMap_splitWhere {p : Char → Bool} {mark : Char} {s : List Char} (h : ∀ c ∈ s, p c = true → c = mark) :
    (splitWhere p s).flatMap (mark :: ·) = mark :: s := by
  induction s with
  | nil => rfl
  | cons c rest ih =>
    obtain ⟨hc, hrest⟩ := List.forall_mem_cons.1 h
    have hih := ih hrest
    rw [splitWhere]
    by_cases hp : p c = true
    · rw [if_pos hp, List.flatMap_cons, hih, hc hp]
      rfl
    · rw [if_neg hp]
      cases hparts : splitWhere p rest with
      | nil => rw [hparts] at hih; cases hih
      | cons first others =>
        rw [hparts, List.flatMap_cons, List.cons_append, List.cons.injEq] at hih
        show ((c :: first) :: others).flatMap (mark :: ·) = mark :: c :: rest
        rw [List.flatMap_cons, List.cons_append, List.cons_append, hih.2]

theorem mem_of_mem_splitWhere {p : Char → Bool} : ∀ {s part : List Char} {c : Char}, part ∈ splitWhere p s → c ∈ part →
    c ∈ s
  | [], part, c, hpart, hc => by
    rw [splitWhere, List.mem_singleton] at hpart
    rw [hpart] at hc
    cases hc
  | d :: rest, part, c, hpart, hc => by
    rw [splitWhere] at hpart
    split at hpart
    · rcases List.mem_cons.1 hpart with rfl | hpart
      · cases hc
      · exact List.mem_cons_of_mem _ (mem_of_mem_splitWhere hpart hc)
    split at hpart
    · rw [List.mem_singleton] at hpart
      rw [hpart, List.mem_singleton] at hc
      exact hc ▸ List.mem_cons_self
    · rename_i first others hparts
      rcases List.mem_cons.1 hpart with rfl | hpart
      · rcases List.mem_cons.1 hc with rfl | hc
        · exact List.mem_cons_self
        · exact List.mem_cons_of_mem _ (mem_of_mem_splitWhere (hparts ▸ List.mem_cons_self) hc)
      · exact List.mem_cons_of_mem _ (mem_of_mem_splitWhere (hparts ▸ List.mem_cons_of_mem _ hpart) hc)

end Text

namespace Http

theorem Percent.encode_of_plain {special : Char → Bool} {s : List Char} (h : ∀ c ∈ s, special c = false) :
    Percent.encode special s = String.ofList s := by
  rw [Percent.encode]
  congr 1
  induction s with
  | nil => rfl
  | cons c rest ih =>
    obtain ⟨hc, hrest⟩ := List.forall_mem_cons.1 h
    rw [List.flatMap_cons, ih hrest, hc]
    rfl

namespace Url

/-! ## Paths -/

def isPlain (c : Char) : Bool := !Percent.inPath c && c ≠ '\\'

/-- **A path that stays as it is**, the slash in front of it left out: nothing in it has to be written anew, and no step
stays in place or goes up. -/
structure PlainPath (s : List Char) : Prop where
  plain : ∀ c ∈ s, isPlain c = true
  forward : ∀ step ∈ Text.splitWhere (isSlash .http) s, isDot step = false ∧ isDotDot step = false

theorem walk_of_forward : ∀ {steps done : List (List Char)}, (∀ step ∈ steps, isDot step = false ∧ isDotDot step = false) →
    walk done steps = done.reverse ++ steps
  | [], done, _ => (List.append_nil _).symm
  | step :: rest, done, h => by
    obtain ⟨⟨hdot, hdotdot⟩, hrest⟩ := List.forall_mem_cons.1 h
    rw [walk, hdot, hdotdot]
    simp only [Bool.false_eq_true, if_false]
    rw [walk_of_forward hrest, List.reverse_cons, List.append_assoc]
    rfl

theorem PlainPath.pathText_eq {s : List Char} (h : PlainPath s) :
    pathText (stepsOf .http ('/' :: s)) = String.ofList ('/' :: s) := by
  have hsteps : stepsOf .http ('/' :: s) = Text.splitWhere (isSlash .http) s := walk_of_forward h.forward
  have hslash : ∀ c ∈ s, isSlash .http c = true → c = '/' := fun c hc hs => by
    have hplain := h.plain c hc
    simp only [isPlain, isSlash, Bool.and_eq_true, Bool.or_eq_true, decide_eq_true_eq] at hplain hs
    exact hs.resolve_right fun hb => hplain.2 hb.2
  have hencode : ∀ step ∈ Text.splitWhere (isSlash .http) s,
      "/" ++ Percent.encode Percent.inPath step = String.ofList ('/' :: step) := fun step hstep => by
    rw [Percent.encode_of_plain fun c hc => ?_]
    · exact (@String.ofList_append ['/'] step).symm
    have hplain := h.plain c (Text.mem_of_mem_splitWhere hstep hc)
    simp only [isPlain, Bool.and_eq_true, Bool.not_eq_true'] at hplain
    exact hplain.1
  rw [hsteps, pathText, List.map_congr_left hencode, ← String.toList_inj, String.toList_join, List.flatMap_map]
  simp only [String.toList_ofList]
  exact Text.flatMap_splitWhere hslash

/-! ## Addresses -/

theorem dropWhile_of_head? {p : Char → Bool} {s : List Char} (h : ∀ c ∈ s.head?, p c = false) : s.dropWhile p = s := by
  cases s with
  | nil => rfl
  | cons c rest => exact List.dropWhile_cons_of_neg (Bool.eq_false_iff.1 (h c rfl))

/-- Nothing is lost of a text that has no line breaks or tabs and neither starts nor ends with blanks. -/
theorem cleaned_of_clean {s : List Char} (hhead : ∀ c ∈ s.head?, 0x20 < c.toNat) (hlast : ∀ c ∈ s.getLast?, 0x20 < c.toNat)
    (h : ∀ c ∈ s, c ≠ '\n' ∧ c ≠ '\r' ∧ c ≠ '\t') : cleaned s = s := by
  have hfront : s.dropWhile (fun c => decide (c.toNat ≤ 0x20)) = s :=
    dropWhile_of_head? fun c hc => by simpa using hhead c hc
  have hback : s.reverse.dropWhile (fun c => decide (c.toNat ≤ 0x20)) = s.reverse :=
    dropWhile_of_head? fun c hc => by simpa using hlast c (by rwa [List.head?_reverse] at hc)
  unfold cleaned
  dsimp only
  rw [hfront, hback, List.reverse_reverse]
  refine List.filter_eq_self.2 fun c hc => ?_
  obtain ⟨hn, hr, ht⟩ := h c hc
  simp [hn, hr, ht]

def isOfPlace (c : Char) : Bool := ! ['/', '\\', '?', '#', '\n', '\r', '\t'].contains c

theorem isOfPlace_iff {c : Char} : isOfPlace c = true ↔
    c ≠ '/' ∧ c ≠ '\\' ∧ c ≠ '?' ∧ c ≠ '#' ∧ c ≠ '\n' ∧ c ≠ '\r' ∧ c ≠ '\t' := by
  simp [isOfPlace]

theorem isPlain_spec {c : Char} (h : isPlain c = true) : 0x20 < c.toNat ∧ c ≠ '\\' ∧ c ≠ '?' ∧ c ≠ '#' := by
  simp only [isPlain, Percent.inPath, Percent.inFragment, Percent.isOutside, Bool.and_eq_true, Bool.not_eq_true',
    Bool.or_eq_false_iff, decide_eq_false_iff_not, decide_eq_true_eq, List.contains_eq_mem, List.mem_cons,
    List.not_mem_nil, or_false, not_or] at h
  obtain ⟨⟨⟨⟨hlow, -⟩, hspace, -⟩, hhash, hquestion, -⟩, hback⟩ := h
  have hne : c.toNat ≠ 0x20 := fun he => hspace (Char.toNat_inj.1 he)
  exact ⟨by omega, hback, hquestion, hhash⟩

theorem webParts_of_place {place path : List Char} (hne : place ≠ []) (hplace : ∀ c ∈ place, isOfPlace c = true) :
    webParts .http ('/' :: '/' :: (place ++ '/' :: path)) =
      (Authority.parse .http true place).map fun a => (some a.1, pathText (stepsOf .http ('/' :: path))) := by
  have hslash : ∀ c ∈ place, isSlash .http c = false := fun c hc => by
    obtain ⟨h, hb, -⟩ := isOfPlace_iff.1 (hplace c hc)
    simp [isSlash, h, hb]
  have hdrop : ('/' :: '/' :: (place ++ '/' :: path)).dropWhile (isSlash .http) = place ++ '/' :: path := by
    obtain ⟨c, more, rfl⟩ := List.exists_cons_of_ne_nil hne
    rw [List.dropWhile_cons_of_pos rfl, List.dropWhile_cons_of_pos rfl, List.cons_append,
      List.dropWhile_cons_of_neg (by simp [hslash c List.mem_cons_self])]
  have htake : (place ++ '/' :: path).takeWhile (fun c => !isSlash .http c) = place := by
    rw [List.takeWhile_append_of_pos fun c hc => by simp [hslash c hc], List.takeWhile_cons_of_neg (by decide),
      List.append_nil]
  unfold webParts
  dsimp only
  rw [hdrop, htake, List.drop_left]

def webText (place path : List Char) : List Char :=
  'h' :: 't' :: 't' :: 'p' :: ':' :: '/' :: '/' :: (place ++ '/' :: path)

theorem schemeOf_webText (place path : List Char) :
    schemeOf (webText place path) = some (.http, '/' :: '/' :: (place ++ '/' :: path)) := rfl

section

variable {place path : List Char} (hplace : ∀ c ∈ place, isOfPlace c = true) (hpath : PlainPath path)
include hplace hpath

theorem marks_of_plain : ∀ c ∈ '/' :: '/' :: (place ++ '/' :: path),
    c ≠ '\n' ∧ c ≠ '\r' ∧ c ≠ '\t' ∧ c ≠ '#' ∧ c ≠ '?' := by
  have hslash : ∀ c, c = '/' → c ≠ '\n' ∧ c ≠ '\r' ∧ c ≠ '\t' ∧ c ≠ '#' ∧ c ≠ '?' := by
    rintro _ rfl
    decide
  refine List.forall_mem_cons.2 ⟨hslash _ rfl, List.forall_mem_cons.2 ⟨hslash _ rfl,
    List.forall_mem_append.2 ⟨fun c hc => ?_, List.forall_mem_cons.2 ⟨hslash _ rfl, fun c hc => ?_⟩⟩⟩⟩
  · obtain ⟨-, -, hq, hh, hn, hr, ht⟩ := isOfPlace_iff.1 (hplace c hc)
    exact ⟨hn, hr, ht, hh, hq⟩
  · obtain ⟨hlow, -, hq, hh⟩ := isPlain_spec (hpath.plain c hc)
    refine ⟨?_, ?_, ?_, hh, hq⟩ <;> rintro rfl <;> exact absurd hlow (by decide)

theorem cleaned_of_plain : cleaned (webText place path) = webText place path := by
  refine cleaned_of_clean ?_ ?_ ?_
  · exact fun c hc => Option.some.inj hc ▸ by decide
  · intro c hc
    rw [show webText place path = ('h' :: 't' :: 't' :: 'p' :: ':' :: '/' :: '/' :: place) ++ '/' :: path from rfl,
      List.getLast?_append, List.getLast?_cons, Option.some_or] at hc
    cases Option.some.inj hc
    cases hd : path.getLast? with
    | none => decide
    | some d => exact (isPlain_spec (hpath.plain d (List.mem_of_getLast? hd))).1
  · have hscheme : ∀ c ∈ ['h', 't', 't', 'p', ':'], c ≠ '\n' ∧ c ≠ '\r' ∧ c ≠ '\t' := by simp
    refine (@List.forall_mem_append _ _ ['h', 't', 't', 'p', ':'] _).2 ⟨hscheme, fun c hc => ?_⟩
    obtain ⟨hn, hr, ht, -⟩ := marks_of_plain hplace hpath c hc
    exact ⟨hn, hr, ht⟩

theorem parse_of_plain (hne : place ≠ []) :
    parse (String.ofList (webText place path)) =
      (Authority.parse .http true place).map fun a => ⟨.http, some a.1, String.ofList ('/' :: path), none, none⟩ := by
  have hmarks := marks_of_plain hplace hpath
  have hhash : '#' ∉ '/' :: '/' :: (place ++ '/' :: path) := fun hm => (hmarks _ hm).2.2.2.1 rfl
  have hquestion : '?' ∉ '/' :: '/' :: (place ++ '/' :: path) := fun hm => (hmarks _ hm).2.2.2.2 rfl
  rw [parse, String.toList_ofList, cleaned_of_plain hplace hpath, schemeOf_webText]
  dsimp only
  rw [Text.cutAt_of_not_mem hhash]
  dsimp only
  rw [Text.cutAt_of_not_mem hquestion]
  dsimp only [parts]
  rw [webParts_of_place hne hplace, hpath.pathText_eq]
  cases Authority.parse .http true place <;> rfl

end

/-- **A path that stays as it is, is the path that is asked for**, whatever place stands in front of it. -/
theorem target_of_plain {place path : String} {u : Url} (hne : place ≠ "") (hplace : ∀ c ∈ place.toList, isOfPlace c = true)
    (hpath : PlainPath path.toList) (h : parse ("http://" ++ place ++ "/" ++ path) = .ok u) :
    u.target = "/" ++ path := by
  have htext : "http://" ++ place ++ "/" ++ path = String.ofList (webText place.toList path.toList) := by
    simp [← String.toList_inj, webText]
  rw [htext, parse_of_plain hplace hpath fun he => hne (String.toList_inj.1 he)] at h
  obtain ⟨a, -, rfl⟩ := map_eq_ok.1 h
  simp [target]

end Url
end Http
end SinkReporter
