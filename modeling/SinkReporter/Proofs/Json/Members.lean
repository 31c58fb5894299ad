import SinkReporter.Json.Value
import SinkReporter.Proofs.Outcome
/-!
# Proofs.Json.Members — members in order

Putting members in order loses only those whose name comes again.  When no name comes twice it only rearranges them, so
whatever is carried through the members in one order can be carried through them in the other, as long as neighbouring
steps can change places (`foldlM_sortMembers`, `foldlM_of_sortMembers`).
-/
namespace SinkReporter
namespace Json

/-! ## The canonical form, part by part -/

theorem canonicalItems_eq_map (items : List Value) : canonicalItems items = items.map Value.canonical := by
  induction items with
  | nil => rfl
  | cons v items ih => rw [canonicalItems, ih, List.map_cons]

theorem canonicalMembers_eq_map (members : List (String × Value)) :
    canonicalMembers members = members.map fun m => (m.1, m.2.canonical) := by
  induction members with
  | nil => rfl
  | cons m members ih => rw [canonicalMembers, ih, List.map_cons]

/-- **No object of a value names two members alike.** -/
inductive Distinct : Value → Prop where
  | null : Distinct .null
  | bool (b : Bool) : Distinct (.bool b)
  | number (n : Number) : Distinct (.number n)
  | string (s : String) : Distinct (.string s)
  | array {items} : (∀ v ∈ items, Distinct v) → Distinct (.array items)
  | object {members} : (members.map (·.1)).Nodup → (∀ m ∈ members, Distinct m.2) → Distinct (.object members)

/-! ## Putting a member in its place -/

section

variable {β γ : Type}

theorem putMember_perm {key : String} {value : β} : ∀ {members : List (String × β)}, key ∉ members.map (·.1) →
    (putMember key value members).Perm ((key, value) :: members)
  | [], _ => .refl _
  | (k, v) :: rest, h => by
    rw [List.map_cons, List.mem_cons, not_or] at h
    rw [putMember]
    split
    · exact .refl _
    rw [if_neg h.1]
    exact ((putMember_perm h.2).cons (k, v)).trans (.swap _ _ _)

theorem foldl_putMember_perm : ∀ {members sorted : List (String × β)}, ((sorted ++ members).map (·.1)).Nodup →
    (members.foldl (fun sorted m => putMember m.1 m.2 sorted) sorted).Perm (sorted ++ members)
  | [], sorted, _ => by rw [List.append_nil]; exact .refl _
  | (key, value) :: members, sorted, h => by
    have hkey : key ∉ sorted.map (·.1) := by
      rw [List.map_append, List.nodup_append] at h
      exact fun hmem => h.2.2 key hmem key List.mem_cons_self rfl
    have hperm : (putMember key value sorted ++ members).Perm (sorted ++ (key, value) :: members) :=
      ((putMember_perm hkey).append_right members).trans List.perm_middle.symm
    exact (foldl_putMember_perm ((hperm.map _).nodup_iff.2 h)).trans hperm

/-- **Members whose names all differ are only rearranged.** -/
theorem sortMembers_perm {members : List (String × β)} (h : (members.map (·.1)).Nodup) :
    (sortMembers members).Perm members :=
  foldl_putMember_perm h

theorem putMember_map (f : β → γ) (key : String) (value : β) : ∀ members : List (String × β),
    putMember key (f value) (members.map fun m => (m.1, f m.2)) =
      (putMember key value members).map fun m => (m.1, f m.2)
  | [] => rfl
  | (k, v) :: rest => by
    rw [List.map_cons, putMember, putMember]
    split
    · rfl
    split
    · rfl
    · rw [putMember_map f key value rest, List.map_cons]

theorem sortMembers_map (f : β → γ) (members : List (String × β)) :
    sortMembers (members.map fun m => (m.1, f m.2)) = (sortMembers members).map fun m => (m.1, f m.2) := by
  have hfold : ∀ (members sorted : List (String × β)),
      (members.map fun m => (m.1, f m.2)).foldl (fun sorted m => putMember m.1 m.2 sorted)
          (sorted.map fun m => (m.1, f m.2)) =
        (members.foldl (fun sorted m => putMember m.1 m.2 sorted) sorted).map fun m => (m.1, f m.2) := by
    intro members
    induction members with
    | nil => exact fun _ => rfl
    | cons m members ih =>
      intro sorted
      rw [List.map_cons, List.foldl_cons, List.foldl_cons]
      dsimp only
      rw [putMember_map, ih]
  exact hfold members []

/-! ## Members that are in order stay as they are -/

def Ascending (members : List (String × β)) : Prop := members.Pairwise fun m m' => m.1 < m'.1

theorem lt_of_not_lt_of_ne {a b : String} (h : ¬ a < b) (hne : a ≠ b) : b < a :=
  String.not_le.1 fun hle => hne (String.le_antisymm hle (String.not_lt.1 h))

theorem mem_putMember {key : String} {value : β} {m : String × β} : ∀ {members : List (String × β)},
    m ∈ putMember key value members → m = (key, value) ∨ m ∈ members
  | [], h => .inl (List.mem_singleton.1 h)
  | (k, v) :: rest, h => by
    rw [putMember] at h
    split at h
    · exact List.mem_cons.1 h
    split at h
    · exact (List.mem_cons.1 h).imp_right (List.mem_cons_of_mem _)
    · rcases List.mem_cons.1 h with rfl | h
      · exact .inr List.mem_cons_self
      · exact (mem_putMember h).imp_right (List.mem_cons_of_mem _)

theorem ascending_putMember (key : String) (value : β) : ∀ {members : List (String × β)}, Ascending members →
    Ascending (putMember key value members)
  | [], _ => List.pairwise_singleton _ _
  | (k, v) :: rest, h => by
    obtain ⟨hk, hrest⟩ := List.pairwise_cons.1 h
    rw [putMember]
    split
    · rename_i hlt
      refine List.pairwise_cons.2 ⟨fun m hm => ?_, h⟩
      rcases List.mem_cons.1 hm with rfl | hm
      · exact hlt
      · exact String.lt_trans hlt (hk m hm)
    rename_i hge
    split
    · rename_i heq
      subst heq
      exact List.pairwise_cons.2 ⟨hk, hrest⟩
    · rename_i hne
      refine List.pairwise_cons.2 ⟨fun m hm => ?_, ascending_putMember key value hrest⟩
      rcases mem_putMember hm with rfl | hm
      · exact lt_of_not_lt_of_ne hge hne
      · exact hk m hm

theorem ascending_sortMembers (members : List (String × β)) : Ascending (sortMembers members) := by
  have hfold : ∀ (members sorted : List (String × β)), Ascending sorted →
      Ascending (members.foldl (fun sorted m => putMember m.1 m.2 sorted) sorted) := by
    intro members
    induction members with
    | nil => exact fun _ h => h
    | cons m members ih => exact fun sorted h => ih _ (ascending_putMember m.1 m.2 h)
  exact hfold members [] List.Pairwise.nil

theorem putMember_last {key : String} {value : β} : ∀ {members : List (String × β)}, (∀ m ∈ members, m.1 < key) →
    putMember key value members = members ++ [(key, value)]
  | [], _ => rfl
  | (k, v) :: rest, h => by
    obtain ⟨hk, hrest⟩ := List.forall_mem_cons.1 h
    have hlt : k < key := hk
    have hne : key ≠ k := by
      rintro rfl
      exact String.lt_irrefl key hlt
    rw [putMember, if_neg (String.lt_asymm hlt), if_neg hne, putMember_last hrest]
    rfl

theorem sortMembers_of_ascending {members : List (String × β)} (h : Ascending members) :
    sortMembers members = members := by
  have hfold : ∀ (members sorted : List (String × β)), Ascending (sorted ++ members) →
      members.foldl (fun sorted m => putMember m.1 m.2 sorted) sorted = sorted ++ members := by
    intro members
    induction members with
    | nil => exact fun _ _ => (List.append_nil _).symm
    | cons m members ih =>
      intro sorted hs
      have hlast : ∀ m' ∈ sorted, m'.1 < m.1 := fun m' hm' =>
        (List.pairwise_append.1 hs).2.2 m' hm' m List.mem_cons_self
      have happend : sorted ++ m :: members = (sorted ++ [m]) ++ members := by rw [List.append_assoc]; rfl
      rw [List.foldl_cons, putMember_last hlast, happend, ih _ (happend ▸ hs)]
  exact hfold members [] h

theorem sortMembers_sortMembers (members : List (String × β)) :
    sortMembers (sortMembers members) = sortMembers members :=
  sortMembers_of_ascending (ascending_sortMembers members)

theorem mem_putMember_iff {key : String} {value : β} {m : String × β} : ∀ {members : List (String × β)}, Ascending members →
    (m ∈ putMember key value members ↔ m = (key, value) ∨ (m ∈ members ∧ m.1 ≠ key))
  | [], _ => by simp [putMember]
  | (k, v) :: rest, h => by
    obtain ⟨hk, hrest⟩ := List.pairwise_cons.1 h
    have hne : ∀ n ∈ rest, n.1 ≠ k := fun n hn heq => String.lt_irrefl k (heq ▸ hk n hn)
    rw [putMember]
    split
    · rename_i hlt
      have hother : ∀ n ∈ (k, v) :: rest, n.1 ≠ key := by
        refine List.forall_mem_cons.2 ⟨fun heq => String.lt_irrefl key (heq ▸ hlt), fun n hn heq => ?_⟩
        exact String.lt_irrefl key (String.lt_trans hlt (heq ▸ hk n hn))
      rw [List.mem_cons]
      exact or_congr_right (and_iff_left_of_imp (hother m)).symm
    split
    · rename_i heq
      subst heq
      rw [List.mem_cons, List.mem_cons]
      refine or_congr_right ⟨fun hm => ⟨.inr hm, hne m hm⟩, fun ⟨hm, hother⟩ => hm.resolve_left ?_⟩
      rintro rfl
      exact hother rfl
    · rename_i hother
      rw [List.mem_cons, List.mem_cons, mem_putMember_iff hrest]
      constructor
      · rintro (rfl | rfl | ⟨hm, hkey⟩)
        · exact .inr ⟨.inl rfl, Ne.symm hother⟩
        · exact .inl rfl
        · exact .inr ⟨.inr hm, hkey⟩
      · rintro (rfl | ⟨rfl | hm, hkey⟩)
        · exact .inr (.inl rfl)
        · exact .inl rfl
        · exact .inr (.inr ⟨hm, hkey⟩)

/-- A member is the last of its name. -/
def IsLast (m : String × β) (members : List (String × β)) : Prop :=
  ∃ before after, members = before ++ m :: after ∧ m.1 ∉ after.map (·.1)

theorem isLast_cons {m n : String × β} {members : List (String × β)} :
    IsLast m (n :: members) ↔ (m = n ∧ m.1 ∉ members.map (·.1)) ∨ IsLast m members := by
  constructor
  · rintro ⟨before, after, heq, hm⟩
    cases before with
    | nil =>
      cases heq
      exact .inl ⟨rfl, hm⟩
    | cons _ before =>
      cases heq
      exact .inr ⟨before, after, rfl, hm⟩
  · rintro (⟨rfl, hm⟩ | ⟨before, after, rfl, hm⟩)
    · exact ⟨[], members, rfl, hm⟩
    · exact ⟨n :: before, after, rfl, hm⟩

theorem exists_isLast {key : String} {members : List (String × β)} (h : key ∈ members.map (·.1)) :
    ∃ value, IsLast (key, value) members := by
  induction members with
  | nil => cases h
  | cons n members ih =>
    by_cases hlater : key ∈ members.map (·.1)
    · obtain ⟨value, hvalue⟩ := ih hlater
      exact ⟨value, isLast_cons.2 (.inr hvalue)⟩
    · obtain rfl : key = n.1 := (List.mem_cons.1 h).resolve_right hlater
      exact ⟨n.2, isLast_cons.2 (.inl ⟨rfl, hlater⟩)⟩

/-- **Of each name the last member stands.**  By induction on the members that are still to be put in: what has been put in
stays as long as its name does not come again. -/
theorem mem_sortMembers_iff {m : String × β} {members : List (String × β)} :
    m ∈ sortMembers members ↔ IsLast m members := by
  have hfold : ∀ (members sorted : List (String × β)), Ascending sorted →
      (m ∈ members.foldl (fun sorted m => putMember m.1 m.2 sorted) sorted ↔
        IsLast m members ∨ (m ∈ sorted ∧ m.1 ∉ members.map (·.1))) := by
    intro members
    induction members with
    | nil =>
      intro sorted _
      simp [IsLast]
    | cons n members ih =>
      intro sorted hsorted
      rw [List.foldl_cons, ih _ (ascending_putMember n.1 n.2 hsorted), mem_putMember_iff hsorted, isLast_cons,
        List.map_cons, List.mem_cons, not_or]
      constructor
      · rintro (hlast | ⟨rfl | ⟨hm, hne⟩, hlater⟩)
        · exact .inl (.inr hlast)
        · exact .inl (.inl ⟨rfl, hlater⟩)
        · exact .inr ⟨hm, hne, hlater⟩
      · rintro ((⟨rfl, hlater⟩ | hlast) | ⟨hm, hne, hlater⟩)
        · exact .inr ⟨.inl rfl, hlater⟩
        · exact .inl hlast
        · exact .inr ⟨.inr ⟨hm, hne⟩, hlater⟩
  refine (hfold members [] List.Pairwise.nil).trans (or_iff_left fun h => ?_)
  cases h.1

theorem mem_sortMembers {m : String × β} {members : List (String × β)} (h : m ∈ sortMembers members) : m ∈ members := by
  obtain ⟨before, after, rfl, -⟩ := mem_sortMembers_iff.1 h
  exact List.mem_append_right before List.mem_cons_self

theorem nodup_of_ascending {members : List (String × β)} (h : Ascending members) : (members.map (·.1)).Nodup := by
  refine List.pairwise_map.2 (h.imp fun {m m'} hlt heq => ?_)
  rw [heq] at hlt
  exact String.lt_irrefl _ hlt

end

/-! ## The canonical form names no two members alike -/

mutual
theorem distinct_canonical : ∀ v : Value, Distinct v.canonical
  | .null => .null
  | .bool b => .bool b
  | .number n => .number n
  | .string s => .string s
  | .array items => by
    rw [Value.canonical]
    exact .array (distinct_canonicalItems items)
  | .object members => by
    rw [Value.canonical]
    exact .object (nodup_of_ascending (ascending_sortMembers _)) fun m hm =>
      distinct_canonicalMembers members m (mem_sortMembers hm)

theorem distinct_canonicalItems : ∀ items : List Value, ∀ v ∈ canonicalItems items, Distinct v
  | [], _, h => by cases h
  | item :: rest, v, h => by
    rw [canonicalItems] at h
    rcases List.mem_cons.1 h with rfl | h
    · exact distinct_canonical item
    · exact distinct_canonicalItems rest v h

theorem distinct_canonicalMembers : ∀ members : List (String × Value), ∀ m ∈ canonicalMembers members, Distinct m.2
  | [], _, h => by cases h
  | (key, value) :: rest, m, h => by
    rw [canonicalMembers] at h
    rcases List.mem_cons.1 h with rfl | h
    · exact distinct_canonical value
    · exact distinct_canonicalMembers rest m h
end

/-! ## Carrying a state through members -/

section

variable {σ ε β : Type} {f : σ → String × β → Except ε σ}

/-- **Two steps that go well can change places**, and of two steps for one name the first can be left out. -/
structure Exchange (f : σ → String × β → Except ε σ) : Prop where
  swap : ∀ {a b c : σ} {m n : String × β}, f a m = .ok b → f b n = .ok c → ∃ b', f a n = .ok b' ∧ f b' m = .ok c
  again : ∀ {a b c : σ} {key : String} {v w : β}, f a (key, v) = .ok b → f b (key, w) = .ok c → f a (key, w) = .ok c

theorem Exchange.perm (h : Exchange f) {members members' : List (String × β)} (hp : members.Perm members') {a b : σ}
    (hm : members.foldlM f a = .ok b) : members'.foldlM f a = .ok b :=
  foldlM_perm f (fun _ _ _ _ _ => h.swap) hp hm

theorem Exchange.to_front (h : Exchange f) {m : String × β} {members : List (String × β)} {a b c : σ}
    (hm : members.foldlM f a = .ok b) (hb : f b m = .ok c) : (m :: members).foldlM f a = .ok c := by
  have happend : (members ++ [m]).foldlM f a = .ok c := by
    rw [List.foldlM_append, hm]
    exact foldlM_cons_eq_ok.2 ⟨c, hb, rfl⟩
  exact h.perm (List.perm_append_singleton m members) happend

theorem Exchange.put (h : Exchange f) {key : String} {value : β} {a b c : σ} : ∀ {members : List (String × β)},
    members.foldlM f a = .ok b → f b (key, value) = .ok c → (putMember key value members).foldlM f a = .ok c
  | [], hm, hb => h.to_front hm hb
  | (k, v) :: rest, hm, hb => by
    rw [putMember]
    split
    · exact h.to_front hm hb
    obtain ⟨d, hd, hrest⟩ := foldlM_cons_eq_ok.1 hm
    split
    · -- the new member comes forward to the old one of its name, which is then left out
      rename_i heq
      subst heq
      obtain ⟨e, he, hrest⟩ := foldlM_cons_eq_ok.1 (h.to_front hrest hb)
      exact foldlM_cons_eq_ok.2 ⟨e, h.again hd he, hrest⟩
    · exact foldlM_cons_eq_ok.2 ⟨d, hd, h.put hrest hb⟩

/-- **What can be carried through members can be carried through them in order.** -/
theorem foldlM_sortMembers (h : Exchange f) {members : List (String × β)} {a b : σ} (hm : members.foldlM f a = .ok b) :
    (sortMembers members).foldlM f a = .ok b := by
  have hfold : ∀ (members sorted : List (String × β)) {c : σ}, sorted.foldlM f a = .ok c → members.foldlM f c = .ok b →
      (members.foldl (fun sorted m => putMember m.1 m.2 sorted) sorted).foldlM f a = .ok b := by
    intro members
    induction members with
    | nil =>
      intro sorted c hs hc
      cases hc
      exact hs
    | cons m members ih =>
      intro sorted c hs hc
      obtain ⟨d, hd, hrest⟩ := foldlM_cons_eq_ok.1 hc
      exact ih _ (h.put hs hd) hrest
  exact hfold members [] rfl hm

/-- **And the other way about, when their names all differ.** -/
theorem foldlM_of_sortMembers (h : Exchange f) {members : List (String × β)} (hn : (members.map (·.1)).Nodup) {a b : σ}
    (hm : (sortMembers members).foldlM f a = .ok b) : members.foldlM f a = .ok b :=
  h.perm (sortMembers_perm hn) hm

end

end Json
end SinkReporter
