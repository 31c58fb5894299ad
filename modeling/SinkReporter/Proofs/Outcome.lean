/-!
# Proofs.Outcome — when a chain of steps that may fail goes well
-/
namespace SinkReporter

variable {ε ε' α β : Type}

theorem map_eq_ok {x : Except ε α} {f : α → β} {b : β} : x.map f = .ok b ↔ ∃ a, x = .ok a ∧ f a = b := by
  cases x <;> simp [Except.map]

theorem bind_eq_ok {x : Except ε α} {f : α → Except ε β} {b : β} : x.bind f = .ok b ↔ ∃ a, x = .ok a ∧ f a = .ok b := by
  cases x <;> simp [Except.bind]

theorem mapError_eq_ok {x : Except ε α} {f : ε → ε'} {a : α} : x.mapError f = .ok a ↔ x = .ok a := by
  cases x with
  | error e => exact ⟨(fun h => by cases h), (fun h => by cases h)⟩
  | ok b => exact ⟨(fun h => by cases h; rfl), (fun h => by cases h; rfl)⟩

theorem map_eq_error {x : Except ε α} {f : α → β} {e : ε} : x.map f = .error e ↔ x = .error e := by
  cases x <;> simp [Except.map]

theorem mapError_eq_error {x : Except ε α} {f : ε → ε'} {e' : ε'} :
    x.mapError f = .error e' ↔ ∃ e, x = .error e ∧ f e = e' := by
  cases x with
  | error e =>
    refine ⟨(fun h => by cases h; exact ⟨e, rfl, rfl⟩), ?_⟩
    rintro ⟨_, ⟨⟩, rfl⟩
    rfl
  | ok b => exact ⟨(fun h => by cases h), fun ⟨_, h, _⟩ => by cases h⟩

theorem toOption_eq_some {x : Except ε α} {a : α} : x.toOption = some a ↔ x = .ok a := by
  cases x <;> simp [Except.toOption]

/-! ## What goes wrong -/

/-- The fault of a step that did not go well. -/
def errorOf : Except ε α → Option ε
  | .error e => some e
  | .ok _ => none

@[simp] theorem errorOf_ok (a : α) : errorOf (.ok a : Except ε α) = none := rfl

@[simp] theorem errorOf_error (e : ε) : errorOf (.error e : Except ε α) = some e := rfl

theorem errorOf_eq_none {x : Except ε α} : errorOf x = none ↔ ∃ a, x = .ok a := by
  cases x <;> simp [errorOf]

theorem errorOf_eq_some {x : Except ε α} {e : ε} : errorOf x = some e ↔ x = .error e := by
  cases x <;> simp [errorOf]

theorem exists_error {x : Except ε α} (h : ∀ a, x ≠ .ok a) : ∃ e, x = .error e := by
  cases x with
  | error e => exact ⟨e, rfl⟩
  | ok a => exact absurd rfl (h a)

theorem errorOf_map (x : Except ε α) (f : α → β) : errorOf (x.map f) = errorOf x := by
  cases x <;> rfl

theorem errorOf_mapError (x : Except ε α) (f : ε → ε') : errorOf (x.mapError f) = (errorOf x).map f := by
  cases x <;> rfl

theorem errorOf_bind {x : Except ε α} {f : α → Except ε β} {e? : Option ε} (h : ∀ a, x = .ok a → errorOf (f a) = e?) :
    errorOf (x.bind f) = (errorOf x).or e? := by
  cases x with
  | error e => rfl
  | ok a => exact h a rfl

theorem toOption_eq_iff {x y : Except ε α} :
    x.toOption = y.toOption ↔ (∃ a, x = .ok a ∧ y = .ok a) ∨ ∃ e e', x = .error e ∧ y = .error e' := by
  cases x <;> cases y <;> simp [Except.toOption, eq_comm]

theorem toOption_bind_congr {x y : Except ε α} {f g : α → Except ε β} (hx : x.toOption = y.toOption)
    (hf : ∀ a, (f a).toOption = (g a).toOption) : (x.bind f).toOption = (y.bind g).toOption := by
  rcases toOption_eq_iff.1 hx with ⟨a, rfl, rfl⟩ | ⟨e, e', rfl, rfl⟩
  · exact hf a
  · rfl

/-! ## Lists of such steps -/

/-- The first fault of a list is that of its first member, or else the first of the others. -/
theorem findSome?_cons_or (f : α → Option β) (x : α) (xs : List α) :
    (x :: xs).findSome? f = (f x).or (xs.findSome? f) := by
  rw [List.findSome?_cons]
  cases f x <;> rfl

theorem mapM_cons_eq_ok {f : α → Except ε β} {x : α} {xs : List α} {ys : List β} :
    (x :: xs).mapM f = .ok ys ↔ ∃ y ys', f x = .ok y ∧ xs.mapM f = .ok ys' ∧ y :: ys' = ys := by
  rw [List.mapM_cons]
  cases f x with
  | error e => simp [bind, Except.bind]
  | ok y => cases xs.mapM f <;> simp [bind, Except.bind, pure, Except.pure]

theorem exists_mapM_iff {f : α → Except ε β} {xs : List α} :
    (∃ ys, xs.mapM f = .ok ys) ↔ ∀ x ∈ xs, ∃ y, f x = .ok y := by
  induction xs with
  | nil => exact ⟨(fun _ x hx => by cases hx), fun _ => ⟨[], rfl⟩⟩
  | cons x xs ih =>
    rw [List.forall_mem_cons, ← ih]
    constructor
    · rintro ⟨ys, h⟩
      obtain ⟨y, ys', hy, hys, -⟩ := mapM_cons_eq_ok.1 h
      exact ⟨⟨y, hy⟩, ys', hys⟩
    · rintro ⟨⟨y, hy⟩, ys, hys⟩
      exact ⟨y :: ys, mapM_cons_eq_ok.2 ⟨y, ys, hy, hys, rfl⟩⟩

theorem mapM_map_eq_ok {f : α → Except ε β} {g : β → α} (h : ∀ y, f (g y) = .ok y) (ys : List β) :
    (ys.map g).mapM f = .ok ys := by
  induction ys with
  | nil => rfl
  | cons y ys ih => exact mapM_cons_eq_ok.2 ⟨y, ys, h y, ih, rfl⟩

theorem mapM_map_of {f : α → Except ε β} {g : α → α} {xs : List α} {ys : List β}
    (h : ∀ x ∈ xs, ∀ y, f x = .ok y → f (g x) = .ok y) (hxs : xs.mapM f = .ok ys) : (xs.map g).mapM f = .ok ys := by
  induction xs generalizing ys with
  | nil => exact hxs
  | cons x xs ih =>
    obtain ⟨hx, hrest⟩ := List.forall_mem_cons.1 h
    obtain ⟨y, ys', hy, hys, rfl⟩ := mapM_cons_eq_ok.1 hxs
    exact mapM_cons_eq_ok.2 ⟨y, ys', hx y hy, ih hrest hys, rfl⟩

theorem foldlM_cons_eq_mapM {f : α → Except ε β} {xs : List α} (acc : List β) :
    xs.foldlM (fun acc x => (f x).map (· :: acc)) acc = (xs.mapM f).map fun ys => ys.reverse ++ acc := by
  induction xs generalizing acc with
  | nil => rfl
  | cons x xs ih =>
    rw [List.foldlM_cons, List.mapM_cons]
    cases f x with
    | error e => rfl
    | ok y =>
      refine (ih (y :: acc)).trans ?_
      cases xs.mapM f with
      | error e => rfl
      | ok ys => simp [Except.map, bind, Except.bind, pure, Except.pure]

theorem foldlM_cons_eq_ok {f : β → α → Except ε β} {x : α} {xs : List α} {a c : β} :
    (x :: xs).foldlM f a = .ok c ↔ ∃ b, f a x = .ok b ∧ xs.foldlM f b = .ok c := by
  rw [List.foldlM_cons]
  exact bind_eq_ok

theorem foldlM_append_eq_ok {f : β → α → Except ε β} {xs ys : List α} {a c : β} :
    (xs ++ ys).foldlM f a = .ok c ↔ ∃ b, xs.foldlM f a = .ok b ∧ ys.foldlM f b = .ok c := by
  rw [List.foldlM_append]
  exact bind_eq_ok

theorem foldlM_skip {f : β → α → Except ε β} {x : α} (h : ∀ a, f a x = .ok a) {xs ys : List α} {a b : β} :
    (xs ++ x :: ys).foldlM f a = .ok b ↔ (xs ++ ys).foldlM f a = .ok b := by
  rw [foldlM_append_eq_ok, foldlM_append_eq_ok]
  refine exists_congr fun c => and_congr_right fun _ => ?_
  rw [foldlM_cons_eq_ok]
  constructor
  · rintro ⟨d, hd, hrest⟩
    cases (h c).symm.trans hd
    exact hrest
  · exact fun hrest => ⟨c, h c, hrest⟩

theorem foldlM_replace {f : β → α → Except ε β} {x y : α} (h : ∀ a b, f a x = .ok b ↔ f a y = .ok b) {xs ys : List α}
    {a b : β} : (xs ++ x :: ys).foldlM f a = .ok b ↔ (xs ++ y :: ys).foldlM f a = .ok b := by
  rw [foldlM_append_eq_ok, foldlM_append_eq_ok]
  refine exists_congr fun c => and_congr_right fun _ => ?_
  rw [foldlM_cons_eq_ok, foldlM_cons_eq_ok]
  exact exists_congr fun d => and_congr_left fun _ => h c d

/-- **Steps that can change places may be taken in any order.** -/
theorem foldlM_perm (f : β → α → Except ε β)
    (h : ∀ a b c x y, f a x = .ok b → f b y = .ok c → ∃ b', f a y = .ok b' ∧ f b' x = .ok c) {xs ys : List α}
    (hp : xs.Perm ys) {a b : β} (hxs : xs.foldlM f a = .ok b) : ys.foldlM f a = .ok b := by
  induction hp generalizing a with
  | nil => exact hxs
  | cons x _ ih =>
    obtain ⟨c, hc, hrest⟩ := foldlM_cons_eq_ok.1 hxs
    exact foldlM_cons_eq_ok.2 ⟨c, hc, ih hrest⟩
  | swap x y xs =>
    obtain ⟨c, hc, hrest⟩ := foldlM_cons_eq_ok.1 hxs
    obtain ⟨d, hd, hrest⟩ := foldlM_cons_eq_ok.1 hrest
    obtain ⟨c', hc', hd'⟩ := h _ _ _ _ _ hc hd
    exact foldlM_cons_eq_ok.2 ⟨c', hc', foldlM_cons_eq_ok.2 ⟨d, hd', hrest⟩⟩
  | trans _ _ ih ih' => exact ih' (ih hxs)

theorem foldlM_map_of {f : β → α → Except ε β} {p q : α → α} {xs : List α} {a b : β}
    (h : ∀ x ∈ xs, ∀ {a b}, f a (p x) = .ok b → f a (q x) = .ok b) (hxs : (xs.map p).foldlM f a = .ok b) :
    (xs.map q).foldlM f a = .ok b := by
  induction xs generalizing a with
  | nil => exact hxs
  | cons x xs ih =>
    obtain ⟨hx, hrest⟩ := List.forall_mem_cons.1 h
    obtain ⟨c, hc, hxs⟩ := foldlM_cons_eq_ok.1 hxs
    exact foldlM_cons_eq_ok.2 ⟨c, hx hc, ih hrest hxs⟩

end SinkReporter
