import SinkReporter.Json.Printer
import SinkReporter.Proofs.Json.Spelling
/-!
# Proofs.Json.Written — what is written spells the value it was written from

A string is read back character by character, each through its escape.  For a value without numbers it follows that both
layouts spell it, whatever comes after (`spells_compactChars`, `spells_prettyChars`).
-/
namespace SinkReporter
namespace Json

/-! ## Strings -/

theorem fourBytes_cons (a b c d : Char) (rest : List Char) : fourBytes (a :: b :: c :: d :: rest) = true := by
  have := a.utf8Size_pos
  have := b.utf8Size_pos
  have := c.utf8Size_pos
  have := d.utf8Size_pos
  refine decide_eq_true ?_
  simp only [List.take_succ_cons, List.take_zero, List.foldr_cons, List.foldr_nil]
  omega

theorem unit16_of_lt {n : Nat} (h : n < 0x20) : unit16 n none = .char (Char.ofNat n) := by
  rw [unit16, if_neg (by omega), if_neg (by omega)]

/-- A control character is written with the four digits of its number, the first two of them zero. -/
theorem readChars_control {c : Char} (h : c.toNat < 0x20) (acc rest : List Char) :
    readChars .plain acc
        ('\\' :: 'u' :: '0' :: '0' :: Nat.digitChar (c.toNat / 16) :: Nat.digitChar (c.toNat % 16) :: rest) =
      readChars .plain (c :: acc) rest := by
  have hlow := Text.hex?_digitChar (c.toNat % 16) (Nat.mod_lt _ (by decide))
  have hhigh := Text.hex?_digitChar (c.toNat / 16) (by omega)
  have hzero : Text.hex? '0' = some 0 := by decide
  have hcode : (((0 * 16 + 0) * 16 + 0) * 16 + c.toNat / 16) * 16 + c.toNat % 16 = c.toNat := by omega
  rw [readChars, if_neg (by decide), if_pos rfl, readChars, show escape? 'u' = none by decide]
  dsimp only
  rw [if_pos rfl, if_pos (fourBytes_cons ..)]
  rw [readChars, hzero]
  dsimp only
  rw [readChars, hzero]
  dsimp only
  rw [readChars, hhigh]
  dsimp only
  rw [readChars, hlow]
  dsimp only
  rw [hcode, unit16_of_lt h, Char.ofNat_toNat]

/-- **The escape of a character is read as the character.** -/
theorem readChars_escaped (c : Char) (acc rest : List Char) :
    readChars .plain acc (escaped c ++ rest) = readChars .plain (c :: acc) rest := by
  by_cases hq : c = '"'
  · subst hq; rfl
  by_cases hb : c = '\\'
  · subst hb; rfl
  unfold escaped
  rw [if_neg hq, if_neg hb]
  split
  · rename_i h; subst h; rfl
  split
  · rename_i h; subst h; rfl
  split
  · rename_i h; subst h; rfl
  split
  · rename_i h; subst h; rfl
  split
  · rename_i h; subst h; rfl
  split
  · rename_i h
    exact readChars_control h acc rest
  · rename_i h
    rw [List.singleton_append, readChars, if_neg hq, if_neg hb, if_neg h]

theorem readChars_flatMap_escaped : ∀ (cs acc rest : List Char),
    readChars .plain acc (cs.flatMap escaped ++ '"' :: rest) = .ok (String.ofList (acc.reverse ++ cs), rest)
  | [], acc, rest => by
    rw [List.flatMap_nil, List.nil_append, readChars, if_pos rfl, List.append_nil]
  | c :: cs, acc, rest => by
    rw [List.flatMap_cons, List.append_assoc, readChars_escaped, readChars_flatMap_escaped cs, List.reverse_cons,
      List.append_assoc]
    rfl

/-- **A string that was written is read back.** -/
theorem readString_written (s : String) (rest : List Char) :
    readString (s.toList.flatMap escaped ++ '"' :: rest) = .ok (s, rest) := by
  rw [readString, readChars_flatMap_escaped, List.reverse_nil, List.nil_append, String.ofList_toList]

theorem stringText_append (s : String) (rest : List Char) :
    stringText s ++ rest = '"' :: (s.toList.flatMap escaped ++ '"' :: rest) := by
  rw [stringText, List.cons_append, List.append_assoc]
  rfl

/-! ## Parts of containers -/

def stops : List Char := [' ', '\n', '\t', '\r', ',', ']', '\x7d']

/-- **Nothing follows, or a character before which a number ends.** -/
def Ends (rest : List Char) : Prop := ∀ c ∈ rest.head?, c ∈ stops

theorem Ends.nil : Ends [] := fun _ h => by cases h

theorem Ends.cons {c : Char} (h : c ∈ stops) (rest : List Char) : Ends (c :: rest) := fun _ hd => Option.some.inj hd ▸ h

def separator (first : Bool) : List Char := if first then [] else [',']

theorem newLine_blank (depth : Nat) : (newLine depth).all isSpace := by
  rw [newLine, List.all_cons, List.all_replicate]
  split <;> decide

section

variable {depth : Nat} {first : Bool} {s u rest : List Char} {v : Value}

theorem SpellsItems.cons {items : List Value} (hv : Spells depth s v u) (hi : SpellsItems depth false u items rest) :
    SpellsItems depth first (separator first ++ s) (v :: items) rest := by
  obtain ⟨c, t, hs, hc⟩ := hv.head
  refine .part (t := skipSpace s) ?_ (hv.of_skipSpace (skipSpace_skipSpace s)) hi
  cases first with
  | true => exact nextItem_first_iff.2 ⟨c, t, hs, rfl, hc⟩
  | false => exact nextItem_later_iff.2 ⟨c, t, s, hs, skipSpace_of_not (by decide) s, rfl, hc⟩

theorem SpellsItems.close (blank : List Char) (hb : blank.all isSpace) :
    SpellsItems depth first (blank ++ ']' :: rest) [] rest :=
  .done (nextItem_done_iff.2 ((skipSpace_append blank hb _).trans (skipSpace_of_not (by decide) rest)))

theorem SpellsMembers.cons {key : String} {members : List (String × Value)} (blank : List Char) (hb : blank.all isSpace)
    (hv : Spells depth s v u) (hm : SpellsMembers depth false u members rest) :
    SpellsMembers depth first (separator first ++ (blank ++ (stringText key ++ ':' :: s))) ((key, v) :: members)
      rest := by
  have hq : skipSpace (blank ++ (stringText key ++ ':' :: s)) =
      '"' :: (key.toList.flatMap escaped ++ '"' :: ':' :: s) := by
    rw [skipSpace_append blank hb, stringText_append, skipSpace_of_not (by decide)]
  refine .part ?_ (readString_written key _) (expectColon_eq_ok.2 (skipSpace_of_not (by decide) s)) hv hm
  cases first with
  | true => exact nextMember_first_iff.2 hq
  | false => exact nextMember_later_iff.2 ⟨_, skipSpace_of_not (by decide) _, hq⟩

theorem SpellsMembers.close (blank : List Char) (hb : blank.all isSpace) :
    SpellsMembers depth first (blank ++ '\x7d' :: rest) [] rest :=
  .done (nextMember_done_iff.2 ((skipSpace_append blank hb _).trans (skipSpace_of_not (by decide) rest)))

end

/-! ## Values -/

/-- **A value without numbers**, and with at most `depth` containers inside one another. -/
inductive Plain : Nat → Value → Prop where
  | null {depth} : Plain depth .null
  | bool {depth} (b : Bool) : Plain depth (.bool b)
  | string {depth} (s : String) : Plain depth (.string s)
  | array {depth items} : (∀ v ∈ items, Plain depth v) → Plain (depth + 1) (.array items)
  | object {depth members} : (∀ m ∈ members, Plain depth m.2) → Plain (depth + 1) (.object members)

theorem Plain.mono {depth depth' : Nat} {v : Value} (h : Plain depth v) (hd : depth ≤ depth') : Plain depth' v := by
  induction h generalizing depth' with
  | null => exact .null
  | bool b => exact .bool b
  | string s => exact .string s
  | array _ ih =>
    obtain ⟨d, rfl⟩ : ∃ d, depth' = d + 1 := ⟨depth' - 1, by omega⟩
    exact .array fun v hv => ih v hv (by omega)
  | object _ ih =>
    obtain ⟨d, rfl⟩ : ∃ d, depth' = d + 1 := ⟨depth' - 1, by omega⟩
    exact .object fun m hm => ih m hm (by omega)

theorem spells_null (depth : Nat) (rest : List Char) : Spells depth (['n', 'u', 'l', 'l'] ++ rest) .null rest :=
  .null (skipSpace_of_not (by decide) _) (expect_append ['u', 'l', 'l'] rest)

theorem spells_boolText (depth : Nat) (b : Bool) (rest : List Char) :
    Spells depth (boolText b ++ rest) (.bool b) rest := by
  cases b with
  | true => exact .yes (skipSpace_of_not (by decide) _) (expect_append ['r', 'u', 'e'] rest)
  | false => exact .no (skipSpace_of_not (by decide) _) (expect_append ['a', 'l', 's', 'e'] rest)

theorem spells_stringText (depth : Nat) (s : String) (rest : List Char) :
    Spells depth (stringText s ++ rest) (.string s) rest := by
  rw [stringText_append]
  exact .string (skipSpace_of_not (by decide) _) (readString_written s rest)

theorem ends_compactItems (items : List Value) (rest : List Char) : Ends (compactItems false items ++ rest) := by
  cases items with
  | nil => exact .cons (by decide) _
  | cons v items => exact .cons (by decide) _

theorem ends_compactMembers (members : List (String × Value)) (rest : List Char) :
    Ends (compactMembers false members ++ rest) := by
  cases members with
  | nil => exact .cons (by decide) _
  | cons m members => exact .cons (by decide) _

theorem spells_compactItems {depth : Nat} {items : List Value}
    (h : ∀ v ∈ items, ∀ rest, Ends rest → Spells depth (compactChars v ++ rest) v rest) (first : Bool) (rest : List Char) :
    SpellsItems depth first (compactItems first items ++ rest) items rest := by
  induction items generalizing first with
  | nil => exact SpellsItems.close [] rfl
  | cons v items ih =>
    obtain ⟨hv, hitems⟩ := List.forall_mem_cons.1 h
    rw [compactItems, List.append_assoc, List.append_assoc]
    exact SpellsItems.cons (hv _ (ends_compactItems items rest)) (ih hitems false)

theorem spells_compactMembers {depth : Nat} {members : List (String × Value)}
    (h : ∀ m ∈ members, ∀ rest, Ends rest → Spells depth (compactChars m.2 ++ rest) m.2 rest) (first : Bool)
    (rest : List Char) : SpellsMembers depth first (compactMembers first members ++ rest) members rest := by
  induction members generalizing first with
  | nil => exact SpellsMembers.close [] rfl
  | cons m members ih =>
    obtain ⟨hm, hmembers⟩ := List.forall_mem_cons.1 h
    rw [compactMembers, List.append_assoc, List.append_assoc, List.cons_append, List.append_assoc]
    exact SpellsMembers.cons [] rfl (hm _ (ends_compactMembers members rest)) (ih hmembers false)

/-- **The compact layout of a value spells it.** -/
theorem spells_compactChars {depth : Nat} {v : Value} (h : Plain depth v) (rest : List Char) :
    Spells depth (compactChars v ++ rest) v rest := by
  induction h generalizing rest with
  | null => exact spells_null _ rest
  | bool b => exact spells_boolText _ b rest
  | string s => exact spells_stringText _ s rest
  | array _ ih => exact .array (skipSpace_of_not (by decide) _) (spells_compactItems (fun v hv r _ => ih v hv r) true rest)
  | object _ ih => exact .object (skipSpace_of_not (by decide) _) (spells_compactMembers (fun m hm r _ => ih m hm r) true rest)

theorem closing_blank (first : Bool) (indent : Nat) : (if first then [] else newLine indent).all isSpace := by
  cases first with
  | true => rfl
  | false => exact newLine_blank indent

theorem spells_prettyItems {depth indent : Nat} {items : List Value}
    (h : ∀ v ∈ items, ∀ rest, Spells depth (prettyChars (indent + 1) v ++ rest) v rest) (first : Bool)
    (rest : List Char) : SpellsItems depth first (prettyItems indent first items ++ rest) items rest := by
  induction items generalizing first with
  | nil =>
    rw [prettyItems, List.append_assoc]
    exact SpellsItems.close _ (closing_blank first indent)
  | cons v items ih =>
    obtain ⟨hv, hitems⟩ := List.forall_mem_cons.1 h
    rw [prettyItems, List.append_assoc, List.append_assoc, List.append_assoc]
    exact SpellsItems.cons ((hv _).of_skipSpace (skipSpace_append _ (newLine_blank _) _)) (ih hitems false)

theorem spells_prettyMembers {depth indent : Nat} {members : List (String × Value)}
    (h : ∀ m ∈ members, ∀ rest, Spells depth (prettyChars (indent + 1) m.2 ++ rest) m.2 rest) (first : Bool)
    (rest : List Char) : SpellsMembers depth first (prettyMembers indent first members ++ rest) members rest := by
  induction members generalizing first with
  | nil =>
    rw [prettyMembers, List.append_assoc]
    exact SpellsMembers.close _ (closing_blank first indent)
  | cons m members ih =>
    obtain ⟨hm, hmembers⟩ := List.forall_mem_cons.1 h
    rw [prettyMembers, List.append_assoc, List.append_assoc, List.append_assoc, List.cons_append, List.cons_append,
      List.append_assoc]
    exact SpellsMembers.cons _ (newLine_blank _) ((hm _).of_skipSpace (skipSpace_append [' '] rfl _))
      (ih hmembers false)

/-- **The pretty layout of a value spells it**, however far it is indented. -/
theorem spells_prettyChars {depth : Nat} {v : Value} (h : Plain depth v) (indent : Nat) (rest : List Char) :
    Spells depth (prettyChars indent v ++ rest) v rest := by
  induction h generalizing indent rest with
  | null => exact spells_null _ rest
  | bool b => exact spells_boolText _ b rest
  | string s => exact spells_stringText _ s rest
  | array _ ih =>
    exact .array (skipSpace_of_not (by decide) _) (spells_prettyItems (fun v hv => ih v hv (indent + 1)) true rest)
  | object _ ih =>
    exact .object (skipSpace_of_not (by decide) _) (spells_prettyMembers (fun m hm => ih m hm (indent + 1)) true rest)

theorem spelled_compact {v : Value} (h : Plain maxDepth v) : Spelled v.compact v := by
  refine ⟨[], ?_, rfl⟩
  rw [Value.compact, String.toList_ofList, ← List.append_nil (compactChars v)]
  exact spells_compactChars h []

theorem spelled_pretty {v : Value} (h : Plain maxDepth v) : Spelled (v.pretty ++ "\n") v := by
  refine ⟨['\n'], ?_, rfl⟩
  rw [Value.pretty, String.toList_append, String.toList_ofList]
  exact spells_prettyChars h 0 ['\n']

end Json
end SinkReporter
