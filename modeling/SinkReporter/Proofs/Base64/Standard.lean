import SinkReporter.Proofs.Record.WellFormed
import Mathlib.Data.List.Basic
import Mathlib.Algebra.Group.Nat.Defs
/-!
# Proofs.Base64.Standard — the texts that stand for bytes

A text stands for bytes when it is written in the characters of the standard alphabet, in groups of four, the last of
which is filled up with at most two signs of padding and has no bits that are left over (`Standard`), and when its symbols
are the bits of the bytes, six at a time (`SameBits`).  These are the texts that are read, and no others
(`decode_eq_ok_iff_standard`).
-/
namespace SinkReporter
namespace Base64

/-- The characters of the standard alphabet, each at the place of its number. -/
def alphabet : List Char := "ABCDEFGHIJKLMNOPQRSTUVWXYZabcdefghijklmnopqrstuvwxyz0123456789+/".toList

def character (n : Nat) : Char := alphabet.getD n '='

/-- **A text in its standard form**: the characters of numbers, and padding up to a multiple of four.  Of the last number
only the bits are set that a byte uses. -/
structure Standard (text : List Char) (numbers : List Nat) (pads : Nat) : Prop where
  spelled : text = numbers.map character ++ List.replicate pads '='
  lt : ∀ n ∈ numbers, n < 64
  whole : (numbers.length + pads) % 4 = 0
  pads_le : pads ≤ 2
  spare : ∀ n ∈ numbers.getLast?, n % 4 ^ pads = 0

def numberIn (base : Nat) (digits : List Nat) : Nat := digits.foldl (fun n d => n * base + d) 0

/-- **Numbers of six bits and bytes spell the same bits**, both of them filled up to whole groups with zeros. -/
structure SameBits (numbers : List Nat) (pads : Nat) (data : Bytes) : Prop where
  length : data.length + pads = (numbers.length + pads) / 4 * 3
  bits : numberIn 64 numbers * 64 ^ pads = numberIn 256 (data.map UInt8.toNat) * 256 ^ pads

/-! ## The standard form and the groups of its bytes -/

theorem character_eq : ∀ n < 64, Char.ofNat (symbol n).toNat = character n := by decide

theorem map_symbol_toChar {numbers : List Nat} (h : ∀ n ∈ numbers, n < 64) (pads : Nat) :
    (numbers.map symbol ++ List.replicate pads padByte).map (fun b => Char.ofNat b.toNat) =
      numbers.map character ++ List.replicate pads '=' := by
  rw [List.map_append, List.map_map, List.map_replicate]
  have hmap : numbers.map ((fun b : UInt8 => Char.ofNat b.toNat) ∘ symbol) = numbers.map character :=
    List.map_congr_left fun n hn => character_eq n (h n hn)
  rw [hmap]
  rfl

theorem unusedBits_eq_zero_iff {last : List Nat} {pads : Nat} (htwo : 2 ≤ last.length) (hfour : last.length + pads = 4) :
    unusedBits last = 0 ↔ ∀ n ∈ last.getLast?, n % 4 ^ pads = 0 := by
  match last, htwo with
  | [a, b], _ =>
    obtain rfl : pads = 2 := by rw [List.length_cons, List.length_singleton] at hfour; omega
    simp [unusedBits]
  | [a, b, c], _ =>
    obtain rfl : pads = 1 := by simp only [List.length_cons, List.length_nil] at hfour; omega
    simp [unusedBits]
  | a :: b :: c :: d :: rest, _ =>
    obtain rfl : pads = 0 := by simp only [List.length_cons] at hfour; omega
    simp [unusedBits, Nat.mod_one]

theorem Grouping.standard {text : Bytes} {whole last : List Nat} {pads : Nat} (g : Grouping text whole last pads) :
    Standard (text.map fun b => Char.ofNat b.toNat) (whole ++ last) pads where
  spelled := by
    rw [g.spelled, ← List.append_assoc, ← List.map_append]
    exact map_symbol_toChar (List.forall_mem_append.2 ⟨g.lt_whole, g.lt_last⟩) pads
  lt := List.forall_mem_append.2 ⟨g.lt_whole, g.lt_last⟩
  whole := by
    have := g.whole_length
    rcases g.last_length with ⟨-, rfl, rfl⟩ | ⟨-, hfour⟩
    · rw [List.append_nil]
      exact g.whole_length
    · rw [List.length_append]
      omega
  pads_le := by
    rcases g.last_length with ⟨-, -, rfl⟩ | ⟨htwo, hfour⟩
    · exact Nat.zero_le 2
    · omega
  spare := by
    rcases g.last_length with ⟨rfl, rfl, -⟩ | ⟨htwo, hfour⟩
    · exact fun n hn => by cases hn
    · have hne : last ≠ [] := List.ne_nil_of_length_pos (by omega)
      rw [List.getLast?_append_of_ne_nil _ hne]
      exact (unusedBits_eq_zero_iff htwo hfour).1 g.spare

theorem Standard.grouping {text : List Char} {numbers : List Nat} {pads : Nat} (h : Standard text numbers pads) :
    ∃ whole last, whole ++ last = numbers ∧
      Grouping (numbers.map symbol ++ List.replicate pads padByte) whole last pads := by
  have hwhole := h.whole
  have hpads := h.pads_le
  by_cases hn : numbers = []
  · subst hn
    obtain rfl : pads = 0 := by rw [List.length_nil] at hwhole; omega
    exact ⟨[], [], rfl, rfl, h.lt, h.lt, rfl, .inl ⟨rfl, rfl, rfl⟩, rfl⟩
  -- all but the last of the groups of four are whole ones
  have hpos := List.length_pos_iff.2 hn
  have hsplit := List.take_append_drop (numbers.length + pads - 4) numbers
  have htwo : 2 ≤ (numbers.drop (numbers.length + pads - 4)).length := by rw [List.length_drop]; omega
  have hfour : (numbers.drop (numbers.length + pads - 4)).length + pads = 4 := by rw [List.length_drop]; omega
  refine ⟨_, _, hsplit, ?_, fun n hm => h.lt n (List.mem_of_mem_take hm), fun n hm => h.lt n (List.mem_of_mem_drop hm),
    ?_, .inr ⟨htwo, hfour⟩, (unusedBits_eq_zero_iff htwo hfour).2 ?_⟩
  · rw [← List.append_assoc, ← List.map_append, hsplit]
  · rw [List.length_take]
    omega
  · have hspare := h.spare
    rw [← hsplit, List.getLast?_append_of_ne_nil _ (List.ne_nil_of_length_pos (by omega))] at hspare
    exact hspare

/-! ## The bits -/

theorem foldl_joined {pads : Nat} : ∀ {numbers : List Nat} (before : Nat), (∀ n ∈ numbers, n < 64) →
    (numbers.length + pads) % 4 = 0 → pads ≤ 2 → (∀ n ∈ numbers.getLast?, n % 4 ^ pads = 0) →
    numbers.foldl (fun n d => n * 64 + d) before * 64 ^ pads =
      ((joined numbers).map UInt8.toNat).foldl (fun n d => n * 256 + d) before * 256 ^ pads
  | [], before, _, hwhole, hpads, _ => by
    obtain rfl : pads = 0 := by rw [List.length_nil] at hwhole; omega
    rfl
  | [_], _, _, hwhole, hpads, _ => by
    rw [List.length_singleton] at hwhole
    omega
  | [a, b], before, hlt, hwhole, hpads, hspare => by
    obtain rfl : pads = 2 := by simp only [List.length_cons, List.length_nil] at hwhole; omega
    have ha := hlt a (by simp)
    have hb := hlt b (by simp)
    have hs : b % 16 = 0 := hspare b rfl
    simp only [joined, List.map_cons, List.map_nil, List.foldl_cons, List.foldl_nil, toNat_ofNat_of_lt
      (show a * 4 + b / 16 < 256 by omega)]
    omega
  | [a, b, c], before, hlt, hwhole, hpads, hspare => by
    obtain rfl : pads = 1 := by simp only [List.length_cons, List.length_nil] at hwhole; omega
    have ha := hlt a (by simp)
    have hb := hlt b (by simp)
    have hc := hlt c (by simp)
    have hs : c % 4 = 0 := hspare c rfl
    simp only [joined, List.map_cons, List.map_nil, List.foldl_cons, List.foldl_nil, toNat_ofNat_of_lt
      (show a * 4 + b / 16 < 256 by omega), toNat_ofNat_of_lt (show b % 16 * 16 + c / 4 < 256 by omega)]
    omega
  | a :: b :: c :: d :: rest, before, hlt, hwhole, hpads, hspare => by
    have ha := hlt a (by simp)
    have hb := hlt b (by simp)
    have hc := hlt c (by simp)
    have hd := hlt d (by simp)
    have hgroup : (((before * 64 + a) * 64 + b) * 64 + c) * 64 + d =
        ((before * 256 + (a * 4 + b / 16)) * 256 + (b % 16 * 16 + c / 4)) * 256 + (c % 4 * 64 + d) := by omega
    have hlast : ∀ n ∈ rest.getLast?, n ∈ ([a, b, c, d] ++ rest).getLast? := fun n hn =>
      List.mem_getLast?_append_of_mem_getLast? hn
    simp only [List.length_cons] at hwhole
    simp only [joined, List.map_cons, List.foldl_cons, toNat_ofNat_of_lt (show a * 4 + b / 16 < 256 by omega),
      toNat_ofNat_of_lt (show b % 16 * 16 + c / 4 < 256 by omega), toNat_ofNat_of_lt (show c % 4 * 64 + d < 256 by omega)]
    rw [hgroup]
    exact foldl_joined _ (fun n hn => hlt n (by simp [hn])) (by omega) hpads fun n hn => hspare n (hlast n hn)

theorem length_joined {pads : Nat} : ∀ {numbers : List Nat}, (numbers.length + pads) % 4 = 0 → pads ≤ 2 →
    (joined numbers).length + pads = (numbers.length + pads) / 4 * 3
  | [], hwhole, hpads => by
    obtain rfl : pads = 0 := by rw [List.length_nil] at hwhole; omega
    rfl
  | [_], hwhole, hpads => by
    rw [List.length_singleton] at hwhole
    omega
  | [a, b], hwhole, hpads => by
    simp only [joined, List.length_cons, List.length_nil] at hwhole ⊢
    omega
  | [a, b, c], hwhole, hpads => by
    simp only [joined, List.length_cons, List.length_nil] at hwhole ⊢
    omega
  | a :: b :: c :: d :: rest, hwhole, hpads => by
    simp only [List.length_cons] at hwhole
    have hrest : (joined rest).length + pads = (rest.length + pads) / 4 * 3 := length_joined (by omega) hpads
    simp only [joined, List.length_cons]
    omega

/-- **The bytes of numbers have their bits.** -/
theorem Standard.sameBits {text : List Char} {numbers : List Nat} {pads : Nat} (h : Standard text numbers pads) :
    SameBits numbers pads (joined numbers) :=
  ⟨length_joined h.whole h.pads_le, foldl_joined 0 h.lt h.whole h.pads_le h.spare⟩

theorem foldl_bytes_inj : ∀ {data data' : Bytes} {n n' : Nat}, data.length = data'.length →
    (data.map UInt8.toNat).foldl (fun n d => n * 256 + d) n = (data'.map UInt8.toNat).foldl (fun n d => n * 256 + d) n' →
    n = n' ∧ data = data'
  | [], [], _, _, _, h => ⟨h, rfl⟩
  | [], _ :: _, _, _, hl, _ => by cases hl
  | _ :: _, [], _, _, hl, _ => by cases hl
  | b :: data, b' :: data', n, n', hl, h => by
    rw [List.length_cons, List.length_cons, Nat.add_right_cancel_iff] at hl
    obtain ⟨hn, rfl⟩ := foldl_bytes_inj hl h
    dsimp only at hn
    have := b.toNat_lt
    have := b'.toNat_lt
    have hb : b = b' := UInt8.toNat_inj.1 (by omega)
    exact ⟨by omega, by rw [hb]⟩

theorem SameBits.unique {numbers : List Nat} {pads : Nat} {data data' : Bytes} (h : SameBits numbers pads data)
    (h' : SameBits numbers pads data') : data = data' := by
  have hl : data.length = data'.length := Nat.add_right_cancel (h.length.trans h'.length.symm)
  have hbits := Nat.eq_of_mul_eq_mul_right (Nat.pow_pos (by decide)) (h.bits.symm.trans h'.bits)
  exact (foldl_bytes_inj hl hbits).2

/-! ## Reading and writing -/

/-- **The texts that are read**, and the bytes that each of them stands for. -/
theorem decode_eq_ok_iff_standard {text : String} {data : Bytes} :
    decode text = .ok data ↔ ∃ numbers pads, Standard text.toList numbers pads ∧ SameBits numbers pads data := by
  constructor
  · intro h
    obtain ⟨whole, last, pads, g, rfl⟩ := grouping_of_decodeBytes h
    have hs := g.standard
    rw [← String.toList_ofList (l := (Text.bytes text).map _), Text.ofList_map_bytes text g.toNat_lt] at hs
    exact ⟨_, pads, hs, hs.sameBits⟩
  · rintro ⟨numbers, pads, hs, hbits⟩
    obtain ⟨whole, last, rfl, g⟩ := hs.grouping
    have htext : text = String.ofList
        (((whole ++ last).map symbol ++ List.replicate pads padByte).map fun b => Char.ofNat b.toNat) := by
      rw [map_symbol_toChar hs.lt, ← hs.spelled, String.ofList_toList]
    have hbytes := Text.bytes_ofList_map _ g.toNat_lt
    rw [decode, htext, hbytes, decodeBytes_of_grouping g, hs.sameBits.unique hbits]

theorem Standard.length {text : String} {numbers : List Nat} {pads : Nat} {data : Bytes}
    (h : Standard text.toList numbers pads) (hbits : SameBits numbers pads data) :
    text.length = 4 * ((data.length + 2) / 3) := by
  have hlength := hbits.length
  have hwhole := h.whole
  have hpads := h.pads_le
  have htext : text.length = numbers.length + pads := by
    rw [← String.length_toList, h.spelled, List.length_append, List.length_map, List.length_replicate]
  omega

end Base64

namespace Artifact

open Base64 (Standard SameBits)

/-- **An artifact can be read just when its text has the standard form.** -/
theorem bytes_iff_standard {artifact : Artifact} :
    (∃ data, bytes artifact = .ok data) ↔ ∃ numbers pads, Standard artifact.contents.toList numbers pads := by
  constructor
  · rintro ⟨data, h⟩
    obtain ⟨numbers, pads, hs, -⟩ := Base64.decode_eq_ok_iff_standard.1 h
    exact ⟨numbers, pads, hs⟩
  · rintro ⟨numbers, pads, hs⟩
    exact ⟨_, Base64.decode_eq_ok_iff_standard.2 ⟨numbers, pads, hs, hs.sameBits⟩⟩

/-- **An artifact carries its bytes in one way only.**  Bytes that are put into an artifact are had back from it; its text
is as long as they need, in the standard form, and spells their bits.  An artifact from which bytes are had is the one
that carries them, so the artifacts that can be read are those that were made of bytes, which are those in the standard
form, and different ones never carry the same bytes. -/
theorem encoding_canonical :
    (∀ data, (ofBytes data).bytes = .ok data) ∧
    (∀ data, (ofBytes data).contents.length = 4 * ((data.length + 2) / 3) ∧
      ∃ numbers pads, Standard (ofBytes data).contents.toList numbers pads ∧ SameBits numbers pads data) ∧
    (∀ artifact data, bytes artifact = .ok data → (ofBytes data).contents = artifact.contents) ∧
    (∀ artifact, (∃ data, bytes artifact = .ok data) ↔ ∃ data, ofBytes data = artifact) ∧
    (∀ artifact, (∃ data, bytes artifact = .ok data) ↔ ∃ numbers pads, Standard artifact.contents.toList numbers pads) ∧
    (∀ artifact artifact' data, bytes artifact = .ok data → bytes artifact' = .ok data → artifact = artifact') := by
  have hback : ∀ artifact data, bytes artifact = .ok data → ofBytes data = artifact := fun artifact data h =>
    (bytes_eq_ok.1 h).symm
  refine ⟨bytes_ofBytes, fun data => ?_, fun artifact data h => by rw [hback artifact data h], fun artifact => ?_,
    fun artifact => ?_, fun artifact artifact' data h h' => (hback artifact data h).symm.trans (hback artifact' data h')⟩
  · obtain ⟨numbers, pads, hs, hbits⟩ := Base64.decode_eq_ok_iff_standard.1 (bytes_ofBytes data)
    exact ⟨hs.length hbits, numbers, pads, hs, hbits⟩
  · exact exists_congr fun data => bytes_eq_ok.trans eq_comm
  · exact bytes_iff_standard

/-- A bit that no byte uses makes a text unreadable. -/
example : bytes ⟨"QQ=="⟩ = .ok [65] ∧ bytes ⟨"QR=="⟩ = .error (.wrongLastSymbol 1 82) := ⟨by rfl, by rfl⟩

end Artifact
end SinkReporter
