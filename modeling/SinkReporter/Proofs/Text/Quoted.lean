import SinkReporter.Text.Numeral
import SinkReporter.Text.Quoted
import SinkReporter.Text.Split
import Mathlib.Logic.Function.Basic
/-!
# Proofs.Text.Quoted — a quoted text is read back in one way, and only visible characters stand in it

The ways of writing a character (`quotedChar_cases`) form a prefix code (`PrefixCode`): whatever comes behind one, it
ends where it has to, so that none can be taken for another.  None starts with the quote, which therefore ends the text
(`prefixCode_quoted`).
-/
namespace SinkReporter
namespace Text

/-! ## Codes that are read in one way -/

theorem cutAt_append {mark : Char} {s : List Char} (h : mark ∉ s) (rest : List Char) :
    cutAt mark (s ++ mark :: rest) = (s, some rest) := by
  have hs : ∀ c ∈ s, decide (c ≠ mark) = true := fun c hc => decide_eq_true fun e => h (e ▸ hc)
  rw [cutAt, List.dropWhile_append_of_pos hs, List.takeWhile_append_of_pos hs]
  simp

/-- **A code whose words are told apart whatever comes behind them.** -/
def PrefixCode {α : Type} (code : α → List Char) : Prop :=
  ∀ a b s t, code a ++ s = code b ++ t → a = b ∧ s = t

namespace PrefixCode

variable {α β : Type} {code : α → List Char} {other : β → List Char}

theorem injective (h : PrefixCode code) : Function.Injective code := fun a b hab =>
  (h a b [] [] (congrArg (· ++ []) hab)).1

theorem of_reader (read : List Char → Option (α × List Char)) (h : ∀ a s, read (code a ++ s) = some (a, s)) :
    PrefixCode code := by
  intro a b s t hab
  have hread := h a s
  rw [hab, h b t] at hread
  obtain ⟨rfl, rfl⟩ := Prod.mk.inj (Option.some.inj hread)
  exact ⟨rfl, rfl⟩

theorem comp (h : PrefixCode code) {f : β → α} (hf : Function.Injective f) : PrefixCode fun b => code (f b) := by
  intro a b s t hab
  obtain ⟨hfab, hst⟩ := h _ _ s t hab
  exact ⟨hf hfab, hst⟩

theorem around (h : PrefixCode code) (before after : List Char) : PrefixCode fun a => before ++ code a ++ after := by
  intro a b s t hab
  simp only [List.append_assoc] at hab
  obtain ⟨rfl, hst⟩ := h _ _ _ _ (List.append_cancel_left hab)
  exact ⟨rfl, List.append_cancel_left hst⟩

theorem append (h : PrefixCode code) (ho : PrefixCode other) : PrefixCode fun p : α × β => code p.1 ++ other p.2 := by
  rintro ⟨a, x⟩ ⟨b, y⟩ s t hab
  simp only [List.append_assoc] at hab
  obtain ⟨rfl, hrest⟩ := h _ _ _ _ hab
  obtain ⟨rfl, hst⟩ := ho _ _ _ _ hrest
  exact ⟨rfl, hst⟩

theorem ended {mark : Char} (hcode : Function.Injective code) (h : ∀ a, mark ∉ code a) :
    PrefixCode fun a => code a ++ [mark] := by
  intro a b s t hab
  simp only [List.append_assoc, List.singleton_append] at hab
  have hcut := cutAt_append (h a) s
  rw [hab, cutAt_append (h b) t] at hcut
  obtain ⟨hwords, hst⟩ := Prod.mk.inj hcut
  exact ⟨(hcode hwords).symm, (Option.some.inj hst).symm⟩

/-- **Words in a row are told apart too**, up to something that no word starts. -/
theorem flatMap_inj (h : PrefixCode code) {s t : List Char} (hs : ∀ a rest, code a ++ rest ≠ s)
    (ht : ∀ a rest, code a ++ rest ≠ t) :
    ∀ as bs : List α, as.flatMap code ++ s = bs.flatMap code ++ t → as = bs ∧ s = t
  | [], [], hab => ⟨rfl, hab⟩
  | [], b :: bs, hab => by
    rw [List.flatMap_cons, List.append_assoc] at hab
    exact absurd hab.symm (hs b _)
  | a :: as, [], hab => by
    rw [List.flatMap_cons, List.append_assoc] at hab
    exact absurd hab (ht a _)
  | a :: as, b :: bs, hab => by
    simp only [List.flatMap_cons, List.append_assoc] at hab
    obtain ⟨rfl, hrest⟩ := h _ _ _ _ hab
    obtain ⟨rfl, hst⟩ := flatMap_inj h hs ht as bs hrest
    exact ⟨rfl, hst⟩

end PrefixCode

/-! ## Hexadecimal digits -/

theorem mem_toDigits {n : Nat} {c : Char} (h : c ∈ Nat.toDigits 16 n) : ∃ d < 16, c = Nat.digitChar d := by
  induction n using Nat.strongRecOn with
  | ind n ih =>
    rw [Nat.toDigits_eq_if (by decide)] at h
    split at h
    · exact ⟨n, ‹_›, List.mem_singleton.1 h⟩
    · rcases List.mem_append.1 h with h | h
      · exact ih (n / 16) (by omega) h
      · exact ⟨n % 16, Nat.mod_lt _ (by decide), List.mem_singleton.1 h⟩

theorem numeral?_toDigits (n : Nat) : numeral? 16 (Nat.toDigits 16 n) = some n := by
  rw [numeral?, if_neg Nat.toDigits_ne_nil]
  induction n using Nat.strongRecOn with
  | ind n ih =>
    have hlast : digitIn? 16 (Nat.digitChar (n % 16)) = some (n % 16) := by
      have hmod := Nat.mod_lt n (by decide : 0 < 16)
      rw [digitIn?, hex?_digitChar _ hmod, Option.filter_some, if_pos (decide_eq_true hmod)]
    rw [Nat.toDigits_eq_if (by decide)]
    split
    · rename_i hn
      rw [Nat.mod_eq_of_lt hn] at hlast
      simp [hlast]
    · rw [List.foldlM_append, ih (n / 16) (by omega)]
      simp [hlast]
      omega

/-! ## Reading a quoted character -/

/-- The letters that stand behind a backslash, and what they stand for. -/
def escapes : List (Char × Char) := [('0', '\x00'), ('t', '\t'), ('r', '\r'), ('n', '\n'), ('\\', '\\'), ('"', '"')]

/-- **How a character is written**: by a letter behind a backslash, by its number, or as itself. -/
theorem quotedChar_cases (c : Char) :
    (∃ e ∈ escapes, c = e.2 ∧ quotedChar c = ['\\', e.1]) ∨
    quotedChar c = ['\\', 'u', '\x7b'] ++ Nat.toDigits 16 c.toNat ++ ['\x7d'] ∨
    (c ≠ '\\' ∧ c ≠ '"' ∧ isInvisible c = false ∧ quotedChar c = [c]) := by
  by_cases hc : ∃ e ∈ escapes, c = e.2
  · obtain ⟨e, he, rfl⟩ := hc
    have hform : ∀ e ∈ escapes, quotedChar e.2 = ['\\', e.1] := by decide
    exact .inl ⟨e, he, rfl, hform e he⟩
  · have hne : c ≠ '\x00' ∧ c ≠ '\t' ∧ c ≠ '\r' ∧ c ≠ '\n' ∧ c ≠ '\\' ∧ c ≠ '"' := by simpa [escapes] using hc
    obtain ⟨hzero, htab, hreturn, hfeed, hslash, hquote⟩ := hne
    rw [quotedChar, if_neg hzero, if_neg htab, if_neg hreturn, if_neg hfeed, if_neg hslash, if_neg hquote]
    by_cases hdoubtful : (isExtending c || isInvisible c) = true
    · exact .inr (.inl (if_pos hdoubtful))
    · have hvisible : isInvisible c = false := by simpa using (not_or.1 (mt Bool.or_eq_true_iff.2 hdoubtful)).2
      exact .inr (.inr ⟨hslash, hquote, hvisible, if_neg hdoubtful⟩)

def readEscape : List Char → Option (Char × List Char)
  | [] => none
  | 'u' :: '\x7b' :: s =>
    match cutAt '\x7d' s with
    | (digits, some rest) => (numeral? 16 digits).map fun n => (Char.ofNat n, rest)
    | (_, none) => none
  | c :: s => (escapes.lookup c).map fun d => (d, s)

/-- **Reads one character of a quoted text.**  The quote is none: it ends the text. -/
def readQuotedChar : List Char → Option (Char × List Char)
  | [] => none
  | c :: s => if c = '"' then none else if c = '\\' then readEscape s else some (c, s)

theorem readEscape_code (c : Char) (s : List Char) :
    readEscape ('u' :: '\x7b' :: (Nat.toDigits 16 c.toNat ++ '\x7d' :: s)) = some (c, s) := by
  have hbrace : '\x7d' ∉ Nat.toDigits 16 c.toNat := by
    intro h
    obtain ⟨d, hd, hc⟩ := mem_toDigits h
    have hne : ∀ d < 16, '\x7d' ≠ Nat.digitChar d := by decide
    exact hne d hd hc
  rw [readEscape, cutAt_append hbrace]
  dsimp only
  rw [numeral?_toDigits, Option.map_some, Char.ofNat_toNat]

/-- **A character is read back from the way it is written.** -/
theorem readQuotedChar_append (c : Char) (s : List Char) : readQuotedChar (quotedChar c ++ s) = some (c, s) := by
  rcases quotedChar_cases c with ⟨e, he, rfl, hform⟩ | hform | ⟨hslash, hquote, -, hform⟩
  · rw [hform]
    simp only [escapes, List.mem_cons, List.not_mem_nil, or_false] at he
    rcases he with rfl | rfl | rfl | rfl | rfl | rfl <;> rfl
  · rw [hform, List.append_assoc]
    exact readEscape_code c s
  · rw [hform, List.singleton_append, readQuotedChar, if_neg hquote, if_neg hslash]

theorem prefixCode_quotedChar : PrefixCode quotedChar := .of_reader readQuotedChar readQuotedChar_append

theorem quotedChar_append_ne_quote (c : Char) (s rest : List Char) : quotedChar c ++ s ≠ '"' :: rest := by
  intro h
  have hread := readQuotedChar_append c s
  rw [h, readQuotedChar, if_pos rfl] at hread
  cases hread

/-- **A quoted text is read back in one way**, whatever comes behind its closing quote. -/
theorem prefixCode_quoted : PrefixCode fun s => (quoted s).toList := by
  intro a b s t h
  simp only [quoted, String.toList_ofList, List.cons_append, List.append_assoc] at h
  obtain ⟨hab, hst⟩ := prefixCode_quotedChar.flatMap_inj (fun c rest => quotedChar_append_ne_quote c rest s)
    (fun c rest => quotedChar_append_ne_quote c rest t) _ _ (List.cons.inj h).2
  exact ⟨String.toList_inj.1 hab, (List.cons.inj hst).2⟩

/-! ## Characters that do no harm to a line -/

def IsControl (c : Char) : Prop := c.toNat < 0x20 ∨ 0x7F ≤ c.toNat ∧ c.toNat < 0xA0

/-- A character that may end a line: line feed and carriage return, the vertical tab and the form feed, next line, and
the separators of lines and paragraphs. -/
def BreaksLine (c : Char) : Prop := c.toNat ∈ [0x0A, 0x0D, 0x0B, 0x0C, 0x85, 0x2028, 0x2029]

def Visible (s : String) : Prop := ∀ c ∈ s.toList, isInvisible c = false

theorem isInvisible_of_mem (low high : Nat) (h : (low, high) ∈ invisibleRanges) {c : Char} (hlow : low ≤ c.toNat)
    (hhigh : c.toNat ≤ high) : isInvisible c = true :=
  List.any_eq_true.2 ⟨(low, high), h, by simp [hlow, hhigh]⟩

theorem isInvisible_of_isControl {c : Char} (h : IsControl c) : isInvisible c = true := by
  rcases h with h | ⟨hlow, hhigh⟩
  · exact isInvisible_of_mem 0 0x1F (by decide) (Nat.zero_le _) (by omega)
  · exact isInvisible_of_mem 0x7F 0xA0 (by decide) hlow (by omega)

theorem isInvisible_of_breaksLine {c : Char} (h : BreaksLine c) : isInvisible c = true := by
  have hcodes : ∀ n ∈ [0x0A, 0x0D, 0x0B, 0x0C, 0x85, 0x2028, 0x2029], inRanges invisibleRanges n = true := by
    decide +kernel
  exact hcodes _ h

/-- **A visible text has neither control characters nor ends of lines in it.** -/
theorem Visible.harmless {s : String} (h : Visible s) : ∀ c ∈ s.toList, ¬ IsControl c ∧ ¬ BreaksLine c := by
  intro c hc
  have hvisible := h c hc
  constructor
  · intro hcontrol
    rw [isInvisible_of_isControl hcontrol] at hvisible
    cases hvisible
  · intro hbreaks
    rw [isInvisible_of_breaksLine hbreaks] at hvisible
    cases hvisible

def isPrintableAscii (c : Char) : Bool := 0x20 ≤ c.toNat && c.toNat ≤ 0x7E

theorem isInvisible_of_ascii {s : List Char} (h : s.all isPrintableAscii = true) : ∀ c ∈ s, isInvisible c = false := by
  intro c hc
  have hascii := List.all_eq_true.1 h c hc
  simp only [isPrintableAscii, Bool.and_eq_true, decide_eq_true_eq] at hascii
  have hranges : ∀ r ∈ invisibleRanges, r.2 < 0x20 ∨ 0x7E < r.1 := by decide +kernel
  refine List.any_eq_false.2 fun r hr hin => ?_
  simp only [Bool.and_eq_true, decide_eq_true_eq] at hin
  have := hranges r hr
  omega

theorem visible_of_ascii {s : String} (h : s.toList.all isPrintableAscii = true) : Visible s := isInvisible_of_ascii h

@[simp]
theorem visible_append {a b : String} : Visible (a ++ b) ↔ Visible a ∧ Visible b := by
  simp only [Visible, String.toList_append, List.forall_mem_append]

theorem isInvisible_of_mem_quotedChar (c : Char) : ∀ d ∈ quotedChar c, isInvisible d = false := by
  rcases quotedChar_cases c with ⟨e, he, -, hform⟩ | hform | ⟨-, -, hvisible, hform⟩
  · have hletters : ∀ e ∈ escapes, ['\\', e.1].all isPrintableAscii = true := by decide
    rw [hform]
    exact isInvisible_of_ascii (hletters e he)
  · have hdigit : ∀ n < 16, isPrintableAscii (Nat.digitChar n) = true := by decide
    have hdigits : (Nat.toDigits 16 c.toNat).all isPrintableAscii = true := List.all_eq_true.2 fun d hd => by
      obtain ⟨n, hn, rfl⟩ := mem_toDigits hd
      exact hdigit n hn
    rw [hform]
    refine isInvisible_of_ascii ?_
    rw [List.all_append, List.all_append, hdigits]
    decide
  · intro d hd
    rw [hform, List.mem_singleton] at hd
    rw [hd, hvisible]

/-- **Only visible characters stand in a quoted text.** -/
theorem visible_quoted (s : String) : Visible (quoted s) := by
  have hquote : ∀ c ∈ ['"'], isInvisible c = false := isInvisible_of_ascii (by decide)
  have hbody : ∀ c ∈ s.toList.flatMap quotedChar, isInvisible c = false := fun c hc => by
    obtain ⟨d, -, hc⟩ := List.mem_flatMap.1 hc
    exact isInvisible_of_mem_quotedChar d c hc
  rw [Visible, quoted, String.toList_ofList]
  exact List.forall_mem_append.2 ⟨List.forall_mem_cons.2 ⟨hquote _ List.mem_cons_self, hbody⟩, hquote⟩

example : quoted "a\n\"b\x85" = "\"a\\n\\\"b\\u\x7b85\x7d\"" := by decide +kernel

end Text
end SinkReporter
