import SinkReporter.Base64
import SinkReporter.Proofs.Outcome
import SinkReporter.Proofs.Text.Ascii
/-!
# Proofs.Base64 — reading undoes writing, and only what was written is read

The symbols of a text that is read fall into whole groups of four and a last group, which is padded up to four
(`Grouping`).  Reading accepts exactly the texts with a grouping (`decodeBytes_of_grouping`, `grouping_of_decodeBytes`),
writing yields one (`exists_grouping`), and a text is written from the bytes of its grouping (`symbols_joined`).
-/
namespace SinkReporter
namespace Base64

/-! ## Symbols -/

theorem sextet?_symbol : ∀ n < 64, sextet? (symbol n) = some n := by decide

theorem symbol_ne_padByte : ∀ n < 64, symbol n ≠ padByte := by decide

theorem symbol_toNat_lt : ∀ n < 64, (symbol n).toNat < 128 := by decide

theorem symbol_of_sextet? {b : UInt8} {n : Nat} (h : sextet? b = some n) : n < 64 ∧ symbol n = b := by
  have hsym : n < 64 ∧ symbol n = UInt8.ofNat b.toNat := by
    unfold sextet? at h
    dsimp only at h
    unfold symbol
    split at h
    · cases h; exact ⟨by omega, by rw [if_pos (by omega)]; congr 1; omega⟩
    split at h
    · cases h; exact ⟨by omega, by rw [if_neg (by omega), if_pos (by omega)]; congr 1; omega⟩
    split at h
    · cases h; exact ⟨by omega, by rw [if_neg (by omega), if_neg (by omega), if_pos (by omega)]; congr 1; omega⟩
    split at h
    · rename_i hb; cases h; rw [hb]; decide
    split at h
    · rename_i hb; cases h; rw [hb]; decide
    · cases h
  rwa [UInt8.ofNat_toNat] at hsym

/-! ## What is accepted -/

/-- **The numbers of a text's symbols**: whole groups of four, and a last group of two to four which `pads` bytes of
padding fill up and whose spare bits are zero; or nothing at all. -/
structure Grouping (text : Bytes) (whole last : List Nat) (pads : Nat) : Prop where
  spelled : text = whole.map symbol ++ (last.map symbol ++ List.replicate pads padByte)
  lt_whole : ∀ n ∈ whole, n < 64
  lt_last : ∀ n ∈ last, n < 64
  whole_length : whole.length % 4 = 0
  last_length : (whole = [] ∧ last = [] ∧ pads = 0) ∨ (2 ≤ last.length ∧ last.length + pads = 4)
  spare : unusedBits last = 0

theorem sextets_map {ns : List Nat} (h : ∀ n ∈ ns, n < 64) (offset : Nat) : sextets offset (ns.map symbol) = .ok ns := by
  induction ns generalizing offset with
  | nil => rfl
  | cons n ns ih =>
    obtain ⟨hn, hns⟩ := List.forall_mem_cons.1 h
    rw [List.map_cons, sextets, sextet?_symbol n hn]
    exact map_eq_ok.2 ⟨ns, ih hns (offset + 1), rfl⟩

theorem eq_map_of_sextets {offset : Nat} {text : Bytes} {ns : List Nat} (h : sextets offset text = .ok ns) :
    text = ns.map symbol ∧ ∀ n ∈ ns, n < 64 := by
  induction text generalizing offset ns with
  | nil =>
    cases h
    exact ⟨rfl, fun n hn => by cases hn⟩
  | cons b rest ih =>
    rw [sextets] at h
    split at h
    · cases h
    rename_i n hn
    obtain ⟨ns', h', rfl⟩ := map_eq_ok.1 h
    obtain ⟨hlt, hsym⟩ := symbol_of_sextet? hn
    obtain ⟨rfl, hall⟩ := ih h'
    exact ⟨by rw [List.map_cons, hsym], List.forall_mem_cons.2 ⟨hlt, hall⟩⟩

theorem lastGroup_symbols (start : Nat) (text : Bytes) {more : List Nat} (h : ∀ n ∈ more, n < 64) (read : List Nat) :
    lastGroup start read 0 (more.map symbol ++ text) = lastGroup start (read ++ more) 0 text := by
  induction more generalizing read with
  | nil => rw [List.map_nil, List.nil_append, List.append_nil]
  | cons n more ih =>
    obtain ⟨hn, hmore⟩ := List.forall_mem_cons.1 h
    rw [List.map_cons, List.cons_append, lastGroup, if_neg (symbol_ne_padByte n hn), if_neg (Nat.lt_irrefl 0),
      sextet?_symbol n hn]
    dsimp only
    rw [ih hmore, List.append_assoc]
    rfl

theorem lastGroup_replicate (start : Nat) (read : List Nat) (extra pads : Nat) (h : 2 ≤ read.length + pads) :
    lastGroup start read pads (List.replicate extra padByte) = .ok (read, pads + extra) := by
  induction extra generalizing pads with
  | zero => rfl
  | succ extra ih =>
    rw [List.replicate_succ, lastGroup, if_pos rfl, if_neg (by omega), ih (pads + 1) (by omega), Nat.add_assoc,
      Nat.add_comm 1]

/-- The last group as it is read: symbols, then padding, which may start once there are two of them. -/
theorem eq_of_lastGroup {start : Nat} {text : Bytes} {read ns : List Nat} {pads p : Nat}
    (h : lastGroup start read pads text = .ok (ns, p)) :
    ∃ more extra, ns = read ++ more ∧ p = pads + extra ∧ text = more.map symbol ++ List.replicate extra padByte ∧
      (∀ n ∈ more, n < 64) ∧ (0 < pads → more = []) := by
  induction text generalizing read pads with
  | nil =>
    cases h
    exact ⟨[], 0, (List.append_nil _).symm, rfl, rfl, (fun n hn => by cases hn), fun _ => rfl⟩
  | cons b rest ih =>
    rw [lastGroup] at h
    split at h
    · rename_i hb
      split at h
      · cases h
      obtain ⟨more, extra, rfl, rfl, rfl, hlt, hmore⟩ := ih h
      have hnil := hmore (Nat.succ_pos pads)
      subst hnil
      exact ⟨[], extra + 1, rfl, by omega, by rw [hb]; rfl, hlt, fun _ => rfl⟩
    split at h
    · cases h
    rename_i hpads
    split at h
    · cases h
    rename_i n hn
    obtain ⟨hlt, hsym⟩ := symbol_of_sextet? hn
    obtain ⟨more, extra, rfl, rfl, rfl, hall, -⟩ := ih h
    exact ⟨n :: more, extra, by rw [List.append_assoc]; rfl, rfl, by rw [← hsym]; rfl,
      List.forall_mem_cons.2 ⟨hlt, hall⟩, fun hp => absurd hp hpads⟩

theorem lastStart_of_mod {n : Nat} (h : n % 4 = 0) : lastStart n = n - 4 := if_pos h

theorem lastStart_mod (n : Nat) : lastStart n % 4 = 0 := by
  unfold lastStart
  split <;> omega

theorem length_lt_lastStart {n : Nat} (h : n ≠ 0) : lastStart n < n ∧ n ≤ lastStart n + 4 := by
  unfold lastStart
  split <;> omega

theorem Grouping.length_eq {text : Bytes} {whole last : List Nat} {pads : Nat} (g : Grouping text whole last pads) :
    text.length = whole.length + (last.length + pads) := by
  rw [g.spelled, List.length_append, List.length_append, List.length_map, List.length_map, List.length_replicate]

theorem strayByte?_of_mod {text : Bytes} (h : text.length % 4 = 0) : strayByte? text = none := by
  unfold strayByte?
  split
  · omega
  · rfl

/-- **A text with a grouping is read.** -/
theorem decodeBytes_of_grouping {text : Bytes} {whole last : List Nat} {pads : Nat} (g : Grouping text whole last pads) :
    decodeBytes text = .ok (joined (whole ++ last)) := by
  have hlen := g.length_eq
  have hwhole := g.whole_length
  rcases g.last_length with ⟨rfl, rfl, rfl⟩ | ⟨htwo, hfour⟩
  · rw [g.spelled]
    rfl
  have hmod : text.length % 4 = 0 := by omega
  have hstart : lastStart text.length = (whole.map symbol).length := by
    rw [lastStart_of_mod hmod, List.length_map]
    omega
  unfold decodeBytes
  rw [strayByte?_of_mod hmod]
  dsimp only
  rw [hstart, g.spelled, List.take_left, List.drop_left, sextets_map g.lt_whole]
  dsimp only
  rw [lastGroup_symbols _ _ g.lt_last, List.nil_append, lastGroup_replicate _ _ _ _ (by omega), Nat.zero_add]
  dsimp only
  rw [if_neg (by omega), if_neg (by omega), if_neg (by rw [g.spare]; exact fun h => h rfl)]

/-- **A text that is read has a grouping.** -/
theorem grouping_of_decodeBytes {text data : Bytes} (h : decodeBytes text = .ok data) :
    ∃ whole last pads, Grouping text whole last pads ∧ data = joined (whole ++ last) := by
  unfold decodeBytes at h
  split at h
  · cases h
  dsimp only at h
  split at h
  · cases h
  rename_i whole hwhole
  split at h
  · cases h
  rename_i last pads hlast
  split at h
  · cases h
  rename_i hshort
  split at h
  · cases h
  rename_i hfour
  split at h
  · cases h
  rename_i hspare
  cases h
  obtain ⟨hw, hltw⟩ := eq_map_of_sextets hwhole
  obtain ⟨more, extra, hm, he, hl, hltl, -⟩ := eq_of_lastGroup hlast
  rw [List.nil_append] at hm
  rw [Nat.zero_add] at he
  subst hm he
  have hstart := lastStart_mod text.length
  have htake : (text.take (lastStart text.length)).length = whole.length := by rw [hw, List.length_map]
  have hdrop : (text.drop (lastStart text.length)).length = last.length + pads := by
    rw [hl, List.length_append, List.length_map, List.length_replicate]
  rw [List.length_take] at htake
  rw [List.length_drop] at hdrop
  refine ⟨whole, last, pads, ⟨?_, hltw, hltl, ?_, ?_, Decidable.not_not.1 hspare⟩, rfl⟩
  · rw [← hl, ← hw, List.take_append_drop]
  · by_cases hn : text.length = 0
    · omega
    · have := length_lt_lastStart hn
      omega
  · by_cases hn : text = []
    · subst hn
      rw [List.length_nil] at htake hdrop
      exact .inl ⟨List.length_eq_zero_iff.1 (by omega), List.length_eq_zero_iff.1 (by omega), by omega⟩
    · have hpos := List.length_pos_iff.2 hn
      have := length_lt_lastStart (Nat.ne_of_gt hpos)
      have : ¬ last.length < 2 := fun hlt => hshort ⟨hn, hlt⟩
      exact .inr ⟨by omega, by omega⟩

/-! ## Writing -/

theorem ofNat_eq {n : Nat} {b : UInt8} (h : n = b.toNat) : UInt8.ofNat n = b := by rw [h, UInt8.ofNat_toNat]

def quad (a b c : UInt8) : List Nat :=
  [a.toNat / 4, a.toNat % 4 * 16 + b.toNat / 16, b.toNat % 16 * 4 + c.toNat / 64, c.toNat % 64]

theorem quad_lt (a b c : UInt8) : ∀ n ∈ quad a b c, n < 64 := by
  have := a.toNat_lt
  have := b.toNat_lt
  have := c.toNat_lt
  simp only [quad, List.forall_mem_cons, List.not_mem_nil, false_implies, implies_true, and_true]
  omega

theorem symbols_cons_three (a b c : UInt8) (rest : Bytes) :
    symbols (a :: b :: c :: rest) = (quad a b c).map symbol ++ symbols rest := rfl

theorem joined_quad (a b c : UInt8) (ns : List Nat) : joined (quad a b c ++ ns) = a :: b :: c :: joined ns := by
  have := a.toNat_lt
  have := b.toNat_lt
  have := c.toNat_lt
  rw [quad, List.cons_append, List.cons_append, List.cons_append, List.cons_append, List.nil_append, joined,
    ofNat_eq (b := a) (by omega), ofNat_eq (b := b) (by omega), ofNat_eq (b := c) (by omega)]

/-- **What is written has a grouping, and its bytes are those that were written.** -/
theorem exists_grouping : ∀ data : Bytes, ∃ whole last pads,
    Grouping (symbols data) whole last pads ∧ joined (whole ++ last) = data
  | [] => ⟨[], [], 0, ⟨rfl, (fun n hn => by cases hn), (fun n hn => by cases hn), rfl, .inl ⟨rfl, rfl, rfl⟩, rfl⟩, rfl⟩
  | [a] => by
    have := a.toNat_lt
    refine ⟨[], [a.toNat / 4, a.toNat % 4 * 16], 2,
      ⟨rfl, (fun n hn => by cases hn), ?_, rfl, .inr ⟨Nat.le_refl 2, rfl⟩, Nat.mul_mod_left _ 16⟩, ?_⟩
    · simp only [List.forall_mem_cons, List.not_mem_nil, false_implies, implies_true, and_true]
      omega
    · rw [List.nil_append, joined, ofNat_eq (b := a) (by omega)]
  | [a, b] => by
    have := a.toNat_lt
    have := b.toNat_lt
    refine ⟨[], [a.toNat / 4, a.toNat % 4 * 16 + b.toNat / 16, b.toNat % 16 * 4], 1,
      ⟨rfl, (fun n hn => by cases hn), ?_, rfl, .inr ⟨Nat.le_succ 2, rfl⟩, Nat.mul_mod_left _ 4⟩, ?_⟩
    · simp only [List.forall_mem_cons, List.not_mem_nil, false_implies, implies_true, and_true]
      omega
    · rw [List.nil_append, joined, ofNat_eq (b := a) (by omega), ofNat_eq (b := b) (by omega)]
  | a :: b :: c :: rest => by
    obtain ⟨whole, last, pads, g, hj⟩ := exists_grouping rest
    rw [symbols_cons_three]
    rcases g.last_length with ⟨rfl, rfl, rfl⟩ | hlast
    · -- the three bytes are the last ones, so their symbols are the last group
      refine ⟨[], quad a b c, 0,
        ⟨?_, (fun n hn => by cases hn), quad_lt a b c, rfl, .inr ⟨show 2 ≤ 4 by decide, rfl⟩, rfl⟩, ?_⟩
      · rw [g.spelled]; rfl
      · rw [List.nil_append, ← List.append_nil (quad a b c), joined_quad, ← hj]; rfl
    · refine ⟨quad a b c ++ whole, last, pads, ⟨?_, ?_, g.lt_last, ?_, .inr hlast, g.spare⟩, ?_⟩
      · rw [g.spelled, List.map_append, List.append_assoc]
      · exact List.forall_mem_append.2 ⟨quad_lt a b c, g.lt_whole⟩
      · have := g.whole_length
        rw [List.length_append]
        show (4 + whole.length) % 4 = 0
        omega
      · rw [List.append_assoc, joined_quad, hj]

/-! ## Writing what was read -/

theorem toNat_ofNat_of_lt {n : Nat} (h : n < 256) : (UInt8.ofNat n).toNat = n := by
  rw [UInt8.toNat_ofNat', Nat.mod_eq_of_lt h]

theorem symbols_joined_four {a b c d : Nat} (ha : a < 64) (hb : b < 64) (hc : c < 64) (hd : d < 64) (ns : List Nat) :
    symbols (joined (a :: b :: c :: d :: ns)) = [a, b, c, d].map symbol ++ symbols (joined ns) := by
  have e1 : (a * 4 + b / 16) / 4 = a := by omega
  have e2 : (a * 4 + b / 16) % 4 * 16 + (b % 16 * 16 + c / 4) / 16 = b := by omega
  have e3 : (b % 16 * 16 + c / 4) % 16 * 4 + (c % 4 * 64 + d) / 64 = c := by omega
  have e4 : (c % 4 * 64 + d) % 64 = d := by omega
  rw [joined, symbols, toNat_ofNat_of_lt (by omega), toNat_ofNat_of_lt (by omega), toNat_ofNat_of_lt (by omega),
    e1, e2, e3, e4]
  rfl

theorem symbols_joined_last {last : List Nat} {pads : Nat} (hlt : ∀ n ∈ last, n < 64) (htwo : 2 ≤ last.length)
    (hfour : last.length + pads = 4) (hspare : unusedBits last = 0) :
    symbols (joined last) = last.map symbol ++ List.replicate pads padByte := by
  match last, htwo with
  | [a, b], _ =>
    obtain rfl : pads = 2 := by rw [List.length_cons, List.length_singleton] at hfour; omega
    have ha := hlt a (by simp)
    have hb := hlt b (by simp)
    have hs : b % 16 = 0 := hspare
    have e1 : (a * 4 + b / 16) / 4 = a := by omega
    have e2 : (a * 4 + b / 16) % 4 * 16 = b := by omega
    rw [joined, symbols, toNat_ofNat_of_lt (by omega), e1, e2]
    rfl
  | [a, b, c], _ =>
    obtain rfl : pads = 1 := by simp only [List.length_cons, List.length_nil] at hfour; omega
    have ha := hlt a (by simp)
    have hb := hlt b (by simp)
    have hc := hlt c (by simp)
    have hs : c % 4 = 0 := hspare
    have e1 : (a * 4 + b / 16) / 4 = a := by omega
    have e2 : (a * 4 + b / 16) % 4 * 16 + (b % 16 * 16 + c / 4) / 16 = b := by omega
    have e3 : (b % 16 * 16 + c / 4) % 16 * 4 = c := by omega
    rw [joined, symbols, toNat_ofNat_of_lt (by omega), toNat_ofNat_of_lt (by omega), e1, e2, e3]
    rfl
  | a :: b :: c :: d :: more, _ =>
    simp only [List.length_cons] at hfour
    obtain rfl : more = [] := List.length_eq_zero_iff.1 (by omega)
    obtain rfl : pads = 0 := by omega
    rw [symbols_joined_four (hlt a (by simp)) (hlt b (by simp)) (hlt c (by simp)) (hlt d (by simp))]
    rfl

theorem symbols_joined_append : ∀ {whole : List Nat} (last : List Nat), whole.length % 4 = 0 → (∀ n ∈ whole, n < 64) →
    symbols (joined (whole ++ last)) = whole.map symbol ++ symbols (joined last)
  | [], _, _, _ => rfl
  | [_], _, h, _ => by cases h
  | [_, _], _, h, _ => by cases h
  | [_, _, _], _, h, _ => by cases h
  | a :: b :: c :: d :: whole, last, h, hlt => by
    simp only [List.length_cons] at h
    have hlt' : ∀ n ∈ whole, n < 64 := fun n hn => hlt n (by simp [hn])
    rw [List.cons_append, List.cons_append, List.cons_append, List.cons_append,
      symbols_joined_four (hlt a (by simp)) (hlt b (by simp)) (hlt c (by simp)) (hlt d (by simp)),
      symbols_joined_append last (by omega) hlt']
    rfl

/-- **A text is written from the bytes of its grouping.** -/
theorem symbols_joined {text : Bytes} {whole last : List Nat} {pads : Nat} (g : Grouping text whole last pads) :
    symbols (joined (whole ++ last)) = text := by
  rw [symbols_joined_append last g.whole_length g.lt_whole]
  conv => rhs; rw [g.spelled]
  rcases g.last_length with ⟨-, rfl, rfl⟩ | ⟨htwo, hfour⟩
  · rfl
  · rw [symbols_joined_last g.lt_last htwo hfour g.spare]

/-! ## Texts -/

theorem Grouping.toNat_lt {text : Bytes} {whole last : List Nat} {pads : Nat} (g : Grouping text whole last pads) :
    ∀ b ∈ text, b.toNat < 128 := by
  intro b hb
  rw [g.spelled, List.mem_append, List.mem_append, List.mem_map, List.mem_map, List.mem_replicate] at hb
  rcases hb with ⟨n, hn, rfl⟩ | ⟨n, hn, rfl⟩ | ⟨-, rfl⟩
  · exact symbol_toNat_lt n (g.lt_whole n hn)
  · exact symbol_toNat_lt n (g.lt_last n hn)
  · decide

/-- **Reading undoes writing.** -/
theorem decode_encode (data : Bytes) : decode (encode data) = .ok data := by
  obtain ⟨whole, last, pads, g, hj⟩ := exists_grouping data
  rw [decode, encode, Text.bytes_ofList_map _ g.toNat_lt, decodeBytes_of_grouping g, hj]

/-- **Only what was written is read**: a text that is read is the one that its bytes are written as. -/
theorem encode_of_decode {text : String} {data : Bytes} (h : decode text = .ok data) : encode data = text := by
  obtain ⟨whole, last, pads, g, rfl⟩ := grouping_of_decodeBytes h
  rw [encode, symbols_joined g, Text.ofList_map_bytes text g.toNat_lt]

theorem decode_eq_ok_iff {text : String} {data : Bytes} : decode text = .ok data ↔ text = encode data :=
  ⟨fun h => (encode_of_decode h).symm, fun h => h ▸ decode_encode data⟩

end Base64
end SinkReporter
