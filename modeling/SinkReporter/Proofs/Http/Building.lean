import SinkReporter.Http.Session
import SinkReporter.Proofs.Http.Address
import SinkReporter.Proofs.Outcome
import SinkReporter.Proofs.Text.Split
/-!
# Proofs.Http.Building — what is delivered of a request

A request that can be built is delivered with its body, with the values of its headers, and at the path and query that its
address has once it is read (`carries_of_build`).  The headers that say where the body ends are written anew.  Reading an
address writes some characters anew, too, and carries out steps; where there is nothing of the kind the path is delivered as
it stands (`target_of_plain`).
-/
namespace SinkReporter
namespace Http

/-! ## Values under a name -/

def lowered (name : String) : String := String.ofList (name.toList.map Char.toLower)

/-- **The values that a request gives under a name**, the case of letters aside. -/
def Request.valuesOf (r : Request) (name : String) : List String :=
  (r.headers.filter fun header => sameName header.1 name).map (·.2)

theorem lowered_eq_iff {a b : String} : lowered a = lowered b ↔ sameName a b = true := by
  rw [lowered, lowered, String.ofList_inj, sameName, beq_iff_eq]

theorem valuesIn_append (xs ys : List (String × String)) (name : String) :
    valuesIn (xs ++ ys) name = valuesIn xs name ++ valuesIn ys name := by
  rw [valuesIn, List.filter_append, List.map_append]
  rfl

theorem valuesIn_of_name {xs : List (String × String)} (name other : String) (h : ∀ x ∈ xs, x.1 = other)
    (hne : other ≠ name) : valuesIn xs name = [] := by
  have hnone : xs.filter (·.1 = name) = [] := List.filter_eq_nil_iff.2 fun x hx => by simp [h x hx, hne]
  rw [valuesIn, hnone, List.map_nil]

theorem valuesIn_map_name (values : List String) (name : String) :
    valuesIn (values.map ((name, ·))) name = values := by
  simp [valuesIn, List.filter_map, Function.comp_def]

/-- Headers whose names have been put in lower case are found under the name that is asked for. -/
theorem valuesIn_lowered (r : Request) (name : String) :
    valuesIn (r.headers.map fun header => (lowered header.1, header.2)) (lowered name) = r.valuesOf name := by
  simp only [valuesIn, Request.valuesOf, List.filter_map, List.map_map, Function.comp_def, lowered_eq_iff, Bool.decide_eq_true]

/-! ## Where a body ends -/

theorem valuesIn_kept (headers : List (String × String)) (name : String) :
    valuesIn (headers.filter (!isFraming ·.1)) name = if isFraming name then [] else valuesIn headers name := by
  have hboth : ∀ header : String × String,
      (decide (header.1 = name) && !isFraming header.1) = (!isFraming name && decide (header.1 = name)) := fun header => by
    by_cases h : header.1 = name
    · simp [h]
    · simp [h]
  simp only [valuesIn, List.filter_filter, hboth]
  cases isFraming name <;> simp

theorem valuesIn_acceptAnything (headers : List (String × String)) (name : String) :
    valuesIn (acceptAnything headers) name =
      if name = "accept" ∧ valuesIn headers "accept" = [] then ["*/*"] else [] := by
  have hany : headers.any (·.1 = "accept") = true ↔ valuesIn headers "accept" ≠ [] := by
    simp [valuesIn, List.filter_eq_nil_iff, List.any_eq_true]
  unfold acceptAnything
  by_cases hnone : valuesIn headers "accept" = []
  · rw [if_neg fun h => hany.1 h hnone]
    by_cases hname : name = "accept"
    · subst hname
      rw [if_pos ⟨rfl, hnone⟩]
      rfl
    · rw [if_neg fun h => hname h.1]
      exact valuesIn_of_name name "accept" (List.forall_mem_singleton.2 rfl) (Ne.symm hname)
  · rw [if_pos (hany.2 hnone), if_neg fun h => hnone h.2]
    rfl

theorem valuesIn_framing_length (headers : List (String × String)) (body : String) :
    valuesIn (framing headers body) "content-length" =
      if body = "" ∨ valuesIn headers "transfer-encoding" = [] then [toString (Text.bytes body).length] else [] := by
  unfold framing
  dsimp only
  split
  · rfl
  · refine valuesIn_of_name "content-length" "transfer-encoding" (fun x hx => ?_) (by decide)
    obtain ⟨value, -, rfl⟩ := List.mem_map.1 hx
    rfl

theorem valuesIn_framing_codings (headers : List (String × String)) (body : String) :
    valuesIn (framing headers body) "transfer-encoding" =
      if body = "" ∨ valuesIn headers "transfer-encoding" = [] then []
      else chunkedLast (valuesIn headers "transfer-encoding") := by
  unfold framing
  dsimp only
  split
  · exact valuesIn_of_name "transfer-encoding" "content-length" (List.forall_mem_singleton.2 rfl) (by decide)
  · exact valuesIn_map_name _ _

theorem valuesIn_framing_other (headers : List (String × String)) (body : String) {name : String}
    (h : isFraming name = false) : valuesIn (framing headers body) name = [] := by
  have hne : name ≠ "content-length" ∧ name ≠ "transfer-encoding" := by simpa [isFraming] using h
  unfold framing
  dsimp only
  split
  · exact valuesIn_of_name name "content-length" (List.forall_mem_singleton.2 rfl) hne.1.symm
  · refine valuesIn_of_name name "transfer-encoding" (fun x hx => ?_) hne.2.symm
    obtain ⟨value, -, rfl⟩ := List.mem_map.1 hx
    rfl

/-- **A list of codings that ends with chunks**: it is ASCII without control characters but the tab, and behind its last
comma, if it has one, stands the word for chunks in letters of either case, with blanks around it or not. -/
structure EndsInChunks (codings : String) : Prop where
  readable : ∀ c ∈ codings.toList, c = '\t' ∨ 0x20 ≤ c.toNat ∧ c.toNat < 0x7F
  last : ∃ before word after : List Char, (∀ c ∈ before ++ after, c = '\t' ∨ c = ' ') ∧
    word.map Char.toLower = "chunked".toList ∧ (codings.toList = before ++ word ++ after ∨
      ∃ others, codings.toList = others ++ ',' :: (before ++ word ++ after))

theorem isBlank_of_readable {c : Char} (hblank : Text.isBlank c = true) (h : c = '\t' ∨ 0x20 ≤ c.toNat ∧ c.toNat < 0x7F) :
    c = '\t' ∨ c = ' ' := by
  refine h.imp_right fun hrange => ?_
  simp only [Text.isBlank, Bool.or_eq_true, Bool.and_eq_true, decide_eq_true_eq, beq_iff_eq] at hblank
  exact Char.toNat_inj.1 (show c.toNat = 32 by omega)

theorem not_isBlank_of_chunked {word : List Char} (h : word.map Char.toLower = "chunked".toList) :
    ∀ c ∈ word, Text.isBlank c = false ∧ c ≠ ',' := by
  intro c hc
  have hletter : c.toLower ∈ "chunked".toList := h ▸ List.mem_map_of_mem hc
  have hletters : ("chunked".toList.all fun c => !Text.isBlank c) = true := rfl
  constructor
  · refine Bool.eq_false_iff.2 fun hblank => ?_
    rw [Text.toLower_of_isBlank hblank] at hletter
    have hfree := List.all_eq_true.1 hletters c hletter
    rw [hblank] at hfree
    cases hfree
  · rintro rfl
    exact absurd hletter (by decide +kernel)

theorem endsChunked_iff {codings : String} : endsChunked codings = true ↔ EndsInChunks codings := by
  have hreadable : codings.toList.all (fun c => Text.isInline c && c.toNat < 0x7F) = true ↔
      ∀ c ∈ codings.toList, c = '\t' ∨ 0x20 ≤ c.toNat ∧ c.toNat < 0x7F := by
    rw [List.all_eq_true]
    refine forall₂_congr fun c _ => ?_
    simp only [Text.isInline, Bool.and_eq_true, Bool.or_eq_true, decide_eq_true_eq]
    constructor
    · rintro ⟨h | h, hlt⟩
      · exact .inl h
      · exact .inr ⟨h.1, hlt⟩
    · rintro (rfl | h)
      · decide
      · exact ⟨.inr ⟨h.1, by omega⟩, h.2⟩
  rw [endsChunked, Bool.and_eq_true, hreadable, decide_eq_true_iff]
  constructor
  · rintro ⟨hall, hword⟩
    obtain ⟨-, hplace⟩ := Text.snd_cutAtLast_eq.1 (Eq.refl (Text.cutAtLast ',' codings.toList).2)
    obtain ⟨before, after, hlast, hblanks⟩ := Text.exists_blanks_trim (Text.cutAtLast ',' codings.toList).2
    have hmem : ∀ c ∈ before ++ after, c ∈ codings.toList := by
      intro c hc
      have hc : c ∈ (Text.cutAtLast ',' codings.toList).2 := by
        rw [hlast]
        rcases List.mem_append.1 hc with h | h
        · exact List.mem_append_left _ (List.mem_append_left _ h)
        · exact List.mem_append_right _ h
      rcases hplace with heq | ⟨others, heq⟩
      · exact heq ▸ hc
      · rw [heq]
        exact List.mem_append_right _ (List.mem_cons_of_mem _ hc)
    refine ⟨hall, before, _, after, fun c hc => ?_, hword, ?_⟩
    · exact isBlank_of_readable (hblanks c hc) (hall c (hmem c hc))
    · rw [← hlast]
      exact hplace
  · rintro ⟨hall, before, word, after, hblanks, hword, hplace⟩
    have hfree : ',' ∉ before ++ word ++ after := by
      rw [List.mem_append, List.mem_append]
      rintro ((h | h) | h)
      · exact absurd (hblanks _ (List.mem_append_left _ h)) (by decide)
      · exact (not_isBlank_of_chunked hword _ h).2 rfl
      · exact absurd (hblanks _ (List.mem_append_right _ h)) (by decide)
    have hblank : ∀ c ∈ before ++ after, Text.isBlank c = true := fun c hc => by
      rcases hblanks c hc with rfl | rfl <;> decide
    have hne : word ≠ [] := by
      rintro rfl
      cases hword
    rw [Text.snd_cutAtLast_eq.2 ⟨hfree, hplace⟩,
      Text.trim_between hblank hne fun c hc => (not_isBlank_of_chunked hword c hc).1]
    exact ⟨hall, hword⟩

instance (codings : String) : Decidable (EndsInChunks codings) := decidable_of_iff _ endsChunked_iff

theorem chunkedLast_append (front : List String) (last : String) :
    chunkedLast (front ++ [last]) = front ++ [if EndsInChunks last then last else last ++ ", chunked"] := by
  induction front with
  | nil => simp only [List.nil_append, chunkedLast, endsChunked_iff]
  | cons codings front ih =>
    rw [List.cons_append, chunkedLast, ih, List.cons_append]
    exact fun h => by simp at h

/-! ## What building goes through -/

theorem buildHeaders_eq_ok : ∀ {headers built : List (String × String)}, buildHeaders headers = .ok built →
    built = headers.map fun header => (lowered header.1, header.2)
  | [], built, h => by cases h; rfl
  | (name, value) :: rest, built, h => by
    rw [buildHeaders] at h
    split at h
    · cases h
    split at h
    · cases h
    obtain ⟨more, hmore, rfl⟩ := map_eq_ok.1 h
    rw [List.map_cons, buildHeaders_eq_ok hmore]
    rfl

/-- **What is prepared of a request.** -/
theorem prepare_eq_ok {r : Request} {p : Prepared} (h : prepare r = .ok p) :
    ∃ given, Url.parse r.url = .ok given ∧
      p = ⟨given.takeCredentials.1, credentialHeaders given.takeCredentials.2 ++
        r.headers.map fun header => (lowered header.1, header.2), r.body⟩ := by
  unfold prepare at h
  split at h
  · cases h
  rename_i given hgiven
  split at h
  · cases h
  obtain ⟨headers, hheaders, rfl⟩ := map_eq_ok.1 h
  exact ⟨given, hgiven, by rw [buildHeaders_eq_ok hheaders]⟩

theorem delivery_eq_ok {p : Prepared} {d : Delivery} (h : p.delivery = .ok d) :
    d = ⟨p.url.target, p.headers.filter (!isFraming ·.1) ++ acceptAnything p.headers ++ framing p.headers p.body, p.body⟩ := by
  unfold Prepared.delivery at h
  split at h
  · cases h
  split at h
  · cases h
  cases h
  rfl

theorem build_eq_ok {r : Request} {url : Url} {d : Delivery} :
    build r = .ok (url, d) ↔ ∃ p, prepare r = .ok p ∧ p.url = url ∧ p.delivery = .ok d := by
  rw [build, bind_eq_ok]
  refine exists_congr fun p => and_congr_right fun _ => ?_
  rw [map_eq_ok]
  constructor
  · rintro ⟨_, hd, heq⟩
    cases heq
    exact ⟨rfl, hd⟩
  · rintro ⟨rfl, hd⟩
    exact ⟨d, hd, rfl⟩

theorem target_takeCredentials (u : Url) : u.takeCredentials.1.target = u.target := by
  unfold Url.takeCredentials
  split
  · rfl
  split
  · rfl
  dsimp only
  split <;> split <;> rfl

/-! ## The whole request -/

/-- **A delivery carries a request**: its body, the values of its headers, name by name and in their order, and the path and
query of its address, as they are where there is nothing to write anew in the path.  One more header may stand for a user's
name and password in the address, and one accepts any kind of answer if the request does not say what it accepts.  Where the
body ends is not for the request to say: the length is the body's, and codings, if there is a body, stand in its place with
the chunks as the last of them. -/
structure Delivery.Carries (d : Delivery) (r : Request) : Prop where
  body : d.body = r.body
  values : ∀ name, lowered name ∉ ["authorization", "accept", "content-length", "transfer-encoding"] →
    valuesIn d.headers (lowered name) = r.valuesOf name
  accept : valuesIn d.headers "accept" = if r.valuesOf "accept" = [] then ["*/*"] else r.valuesOf "accept"
  authorization : ∃ url, Url.parse r.url = .ok url ∧ valuesIn d.headers "authorization" =
    (credentialHeaders url.takeCredentials.2).map (·.2) ++ r.valuesOf "authorization"
  length : valuesIn d.headers "content-length" =
    if r.body = "" ∨ r.valuesOf "transfer-encoding" = [] then [toString (Text.bytes r.body).length] else []
  unframed : r.body = "" ∨ r.valuesOf "transfer-encoding" = [] → valuesIn d.headers "transfer-encoding" = []
  chunked : ∀ front last, r.body ≠ "" → r.valuesOf "transfer-encoding" = front ++ [last] →
    valuesIn d.headers "transfer-encoding" = front ++ [if EndsInChunks last then last else last ++ ", chunked"]
  target : ∃ url, Url.parse r.url = .ok url ∧ d.target = url.target
  plain : ∀ place path, r.url = "http://" ++ place ++ "/" ++ path → place ≠ "" →
    (∀ c ∈ place.toList, Url.isOfPlace c = true) → Url.PlainPath path.toList → d.target = "/" ++ path

theorem valuesIn_credentialHeaders (credentials : Option (String × String)) (name : String) :
    valuesIn (credentialHeaders credentials) name =
      if name = "authorization" then (credentialHeaders credentials).map (·.2) else [] := by
  cases credentials with
  | none => split <;> rfl
  | some pair =>
    split
    · rename_i h
      subst h
      rfl
    · rename_i h
      exact valuesIn_of_name name "authorization" (List.forall_mem_singleton.2 rfl) (Ne.symm h)

theorem valuesIn_delivery {p : Prepared} {d : Delivery} (h : p.delivery = .ok d) (name : String) :
    valuesIn d.headers name =
      (if isFraming name then [] else valuesIn p.headers name) ++
        (if name = "accept" ∧ valuesIn p.headers "accept" = [] then ["*/*"] else []) ++
        valuesIn (framing p.headers p.body) name := by
  rw [delivery_eq_ok h, valuesIn_append, valuesIn_append, valuesIn_kept, valuesIn_acceptAnything]

theorem valuesIn_prepared (credentials : Option (String × String)) (r : Request) (name : String) :
    valuesIn (credentialHeaders credentials ++ r.headers.map fun header => (lowered header.1, header.2)) (lowered name) =
      (if lowered name = "authorization" then (credentialHeaders credentials).map (·.2) else []) ++ r.valuesOf name := by
  rw [valuesIn_append, valuesIn_credentialHeaders, valuesIn_lowered]

/-- **What is built carries the request.** -/
theorem carries_of_build {r : Request} {url : Url} {d : Delivery} (h : build r = .ok (url, d)) : d.Carries r := by
  obtain ⟨p, hp, -, hd⟩ := build_eq_ok.1 h
  obtain ⟨given, hgiven, rfl⟩ := prepare_eq_ok hp
  have hvalues := valuesIn_delivery hd
  have hprepared := valuesIn_prepared given.takeCredentials.2 r
  dsimp only at hvalues
  have haccept := hprepared "accept"
  have hcodings := hprepared "transfer-encoding"
  have hauthorization := hprepared "authorization"
  rw [show lowered "accept" = "accept" by decide, if_neg (by decide), List.nil_append] at haccept
  rw [show lowered "transfer-encoding" = "transfer-encoding" by decide, if_neg (by decide), List.nil_append] at hcodings
  rw [show lowered "authorization" = "authorization" by decide, if_pos rfl] at hauthorization
  have hother {name : String} (hn : isFraming name = false) (ha : name ≠ "accept") := (hvalues name).trans (by
    rw [hn, if_neg (by decide), if_neg (fun h => ha h.1), valuesIn_framing_other _ _ hn, List.append_nil, List.append_nil])
  refine ⟨by rw [delivery_eq_ok hd], fun name hname => ?_, ?_, ⟨given, hgiven, ?_⟩, ?_, fun hno => ?_,
    fun front last hbody hgave => ?_, ⟨given, hgiven, ?_⟩, fun place path hurl hne hplace hpath => ?_⟩
  · simp only [List.mem_cons, List.not_mem_nil, or_false, not_or] at hname
    rw [hother (by simp [isFraming, hname]) hname.2.1, hprepared, if_neg hname.1, List.nil_append]
  · rw [hvalues, valuesIn_framing_other _ _ (by decide), haccept, if_neg (by decide), List.append_nil]
    by_cases hnone : r.valuesOf "accept" = []
    · rw [if_pos ⟨rfl, hnone⟩, if_pos hnone, hnone, List.nil_append]
    · rw [if_neg fun h => hnone h.2, if_neg hnone, List.append_nil]
  · rw [hother (by decide) (by decide), hauthorization]
  · rw [hvalues, valuesIn_framing_length, hcodings]
    simp [isFraming]
  · rw [hvalues, valuesIn_framing_codings, hcodings, if_pos hno]
    simp [isFraming]
  · have hsome : ¬ (r.body = "" ∨ r.valuesOf "transfer-encoding" = []) := by simp [hbody, hgave]
    rw [hvalues, valuesIn_framing_codings, hcodings, if_neg hsome, hgave, chunkedLast_append]
    simp [isFraming]
  · rw [delivery_eq_ok hd]
    exact target_takeCredentials given
  · rw [hurl] at hgiven
    rw [delivery_eq_ok hd]
    exact (target_takeCredentials given).trans (Url.target_of_plain hne hplace hpath hgiven)

end Http
end SinkReporter
