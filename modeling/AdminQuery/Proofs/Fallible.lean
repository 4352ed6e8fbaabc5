import AdminQuery.Proofs.Lists

/-!
# Results that may be errors

A computation in `Except` that succeeds has succeeded at every step.

* `bind_eq_ok_iff`, `map_eq_ok_iff`: two computations in a row, and a function behind one
* `mapM_eq_ok_iff`, `exists_of_mapM_eq_ok`, `exists_of_mem_mapM`, `exists_mapM_iff`: one computation for each
  entry of a list
* `mapM_congr`: lists with the same computation entry by entry
* `mapM_map`, `map_both`: a function behind each computation of a list, and behind each of two
* `bind_eq_error_iff`, `mapM_eq_error_iff`: the first computation that fails gives the error
* `foldlM_eq_error_iff`, `foldlM_map`: one computation after another, each from the result of the last
* `Agree`: two computations that fail alike, or give related results
* `agree_mapM`, `agree_mapM_same`: **lists of computations that agree entry by entry agree**, for two lists
  and for one
-/

namespace AdminQuery.Fallible

variable {ε α β γ δ : Type}

theorem bind_eq_ok_iff {x : Except ε α} {f : α → Except ε β} {b : β} :
    x >>= f = .ok b ↔ ∃ a, x = .ok a ∧ f a = .ok b := by
  cases x with
  | error e => simp [bind, Except.bind]
  | ok a => simp [bind, Except.bind]

theorem map_eq_ok_iff {x : Except ε α} {f : α → β} {b : β} :
    x.map f = .ok b ↔ ∃ a, x = .ok a ∧ f a = b := by
  cases x with
  | error e => simp [Except.map]
  | ok a => simp [Except.map]

/-- **A list of computations succeeds entry by entry.** -/
theorem mapM_eq_ok_iff {f : α → Except ε β} {xs : List α} {ys : List β} :
    xs.mapM f = .ok ys ↔ List.Forall₂ (fun x y => f x = .ok y) xs ys := by
  induction xs generalizing ys with
  | nil =>
    rw [List.mapM_nil, List.forall₂_nil_left_iff]
    show Except.ok [] = Except.ok ys ↔ ys = []
    simp [eq_comm]
  | cons x xs ih =>
    rw [List.mapM_cons, bind_eq_ok_iff, List.forall₂_cons_left_iff]
    constructor
    · rintro ⟨y, hy, h⟩
      obtain ⟨rest, hrest, h⟩ := bind_eq_ok_iff.1 h
      cases h
      exact ⟨y, rest, hy, ih.1 hrest, rfl⟩
    · rintro ⟨y, rest, hy, hrest, rfl⟩
      exact ⟨y, hy, bind_eq_ok_iff.2 ⟨rest, ih.2 hrest, rfl⟩⟩

/-- Every result of a list of computations comes from an entry of the list. -/
theorem exists_of_mapM_eq_ok {f : α → Except ε β} {xs : List α} {ys : List β} {y : β}
    (h : xs.mapM f = .ok ys) (hy : y ∈ ys) : ∃ x ∈ xs, f x = .ok y := by
  replace h := mapM_eq_ok_iff.1 h
  induction h with
  | nil => cases hy
  | cons hx _ ih =>
    rcases List.mem_cons.1 hy with rfl | hy
    · exact ⟨_, by simp, hx⟩
    · obtain ⟨x, hmem, hx⟩ := ih hy
      exact ⟨x, by simp [hmem], hx⟩

/-- Every entry of a list whose computations all succeed has a result. -/
theorem exists_of_mem_mapM {f : α → Except ε β} {xs : List α} {ys : List β} {x : α}
    (h : xs.mapM f = .ok ys) (hx : x ∈ xs) : ∃ y ∈ ys, f x = .ok y := by
  replace h := mapM_eq_ok_iff.1 h
  induction h with
  | nil => cases hx
  | cons hy _ ih =>
    rcases List.mem_cons.1 hx with rfl | hx
    · exact ⟨_, by simp, hy⟩
    · obtain ⟨y, hmem, hy⟩ := ih hx
      exact ⟨y, by simp [hmem], hy⟩

/-- A list of computations succeeds when each of them does. -/
theorem exists_mapM_iff {f : α → Except ε β} {xs : List α} :
    (∃ ys, xs.mapM f = .ok ys) ↔ ∀ x ∈ xs, ∃ y, f x = .ok y := by
  constructor
  · rintro ⟨ys, h⟩ x hx
    obtain ⟨y, -, hy⟩ := exists_of_mem_mapM h hx
    exact ⟨y, hy⟩
  · intro h
    induction xs with
    | nil => exact ⟨[], rfl⟩
    | cons x xs ih =>
      obtain ⟨y, hy⟩ := h x (by simp)
      obtain ⟨ys, hys⟩ := ih fun z hz => h z (by simp [hz])
      exact ⟨y :: ys, mapM_eq_ok_iff.2 (.cons hy (mapM_eq_ok_iff.1 hys))⟩

theorem mapM_congr {R : α → α → Prop} {f : α → Except ε β} (hf : ∀ x y, R x y → f x = f y)
    {xs ys : List α} (h : List.Forall₂ R xs ys) : xs.mapM f = ys.mapM f := by
  induction h with
  | nil => rfl
  | cons hxy _ ih => rw [List.mapM_cons, List.mapM_cons, hf _ _ hxy, ih]

/-- A function behind every computation of a list is one function behind all of them. -/
theorem mapM_map (f : α → Except ε β) (g : β → γ) (xs : List α) :
    (xs.mapM fun x => (f x).map g) = (xs.mapM f).map (List.map g) := by
  induction xs with
  | nil => rfl
  | cons x xs ih =>
    rw [List.mapM_cons, List.mapM_cons, ih]
    cases f x with
    | error e => rfl
    | ok y => cases xs.mapM f <;> rfl

/-- A function that carries one way to put two values together into another does so with results. -/
theorem map_both {f : α → β} {join : α → α → α} {merge : β → β → β}
    (h : ∀ a b, f (join a b) = merge (f a) (f b)) (x y : Except ε α) :
    Except.map f (do
      let a ← x
      let b ← y
      return join a b) = do
      let c ← x.map f
      let d ← y.map f
      return merge c d := by
  cases x with
  | error e => rfl
  | ok a =>
    cases y with
    | error e => rfl
    | ok b => exact congrArg Except.ok (h a b)

/-! ### Errors -/

theorem bind_eq_error_iff {x : Except ε α} {f : α → Except ε β} {e : ε} :
    x >>= f = .error e ↔ x = .error e ∨ ∃ a, x = .ok a ∧ f a = .error e := by
  cases x with
  | error d => simp [bind, Except.bind]
  | ok a => simp [bind, Except.bind]

theorem map_eq_error_iff {x : Except ε α} {f : α → β} {e : ε} :
    x.map f = .error e ↔ x = .error e := by
  cases x with
  | error d => simp [Except.map]
  | ok a => simp [Except.map]

/-- **A list of computations fails at the first entry whose computation fails.** -/
theorem mapM_eq_error_iff {f : α → Except ε β} {xs : List α} {e : ε} :
    xs.mapM f = .error e ↔ ∃ before x after, xs = before ++ x :: after ∧
      (∀ y ∈ before, ∃ b, f y = .ok b) ∧ f x = .error e := by
  induction xs with
  | nil =>
    constructor
    · intro h
      cases h
    · rintro ⟨before, x, after, h, -⟩
      simp at h
  | cons y ys ih =>
    rw [List.mapM_cons, bind_eq_error_iff]
    constructor
    · rintro (hy | ⟨b, hy, h⟩)
      · exact ⟨[], y, ys, rfl, by simp, hy⟩
      · rcases bind_eq_error_iff.1 h with hys | ⟨bs, -, hpure⟩
        · obtain ⟨before, x, after, rfl, hbefore, hx⟩ := ih.1 hys
          refine ⟨y :: before, x, after, rfl, ?_, hx⟩
          intro z hz
          rcases List.mem_cons.1 hz with rfl | hz
          · exact ⟨b, hy⟩
          · exact hbefore z hz
        · cases hpure
    · rintro ⟨before, x, after, hsplit, hbefore, hx⟩
      cases before with
      | nil =>
        obtain ⟨rfl, rfl⟩ := List.cons.inj hsplit
        exact .inl hx
      | cons z before =>
        obtain ⟨rfl, rfl⟩ := List.cons.inj hsplit
        obtain ⟨b, hb⟩ := hbefore y (by simp)
        have htail := ih.2 ⟨before, x, after, rfl, fun w hw => hbefore w (by simp [hw]), hx⟩
        exact .inr ⟨b, hb, bind_eq_error_iff.2 (.inl htail)⟩

/-! ### A computation carried along a list -/

/-- **A fold fails at the first entry at which it cannot go on.** -/
theorem foldlM_eq_error_iff {f : β → α → Except ε β} {b : β} {xs : List α} {e : ε} :
    xs.foldlM f b = .error e ↔ ∃ before x after c, xs = before ++ x :: after ∧
      before.foldlM f b = .ok c ∧ f c x = .error e := by
  induction xs generalizing b with
  | nil =>
    constructor
    · intro h
      cases h
    · rintro ⟨before, x, after, c, h, -⟩
      simp at h
  | cons y ys ih =>
    rw [List.foldlM_cons, bind_eq_error_iff]
    constructor
    · rintro (hy | ⟨d, hy, h⟩)
      · exact ⟨[], y, ys, b, rfl, rfl, hy⟩
      · obtain ⟨before, x, after, c, rfl, hbefore, hx⟩ := ih.1 h
        refine ⟨y :: before, x, after, c, rfl, ?_, hx⟩
        rw [List.foldlM_cons]
        exact bind_eq_ok_iff.2 ⟨d, hy, hbefore⟩
    · rintro ⟨before, x, after, c, hsplit, hbefore, hx⟩
      cases before with
      | nil =>
        obtain ⟨rfl, rfl⟩ := List.cons.inj hsplit
        cases hbefore
        exact .inl hx
      | cons z before =>
        obtain ⟨rfl, rfl⟩ := List.cons.inj hsplit
        rw [List.foldlM_cons] at hbefore
        obtain ⟨d, hd, hbefore⟩ := bind_eq_ok_iff.1 hbefore
        exact .inr ⟨d, hd, ih.2 ⟨before, x, after, c, rfl, hbefore, hx⟩⟩

/-- Where every entry is read for itself, a fold reads the whole list before it adds what was read. -/
theorem foldlM_map (f : α → Except ε β) (add : γ → β → γ) (c : γ) (xs : List α) :
    xs.foldlM (fun c x => (f x).map (add c)) c = (xs.mapM f).map (List.foldl add c) := by
  induction xs generalizing c with
  | nil => rfl
  | cons x xs ih =>
    rw [List.foldlM_cons, List.mapM_cons]
    cases f x with
    | error e => rfl
    | ok y =>
      show xs.foldlM _ (add c y) = _
      rw [ih]
      cases xs.mapM f <;> rfl

/-! ### Two computations side by side -/

/-- Two computations that fail with the same error, or succeed with related results. -/
inductive Agree (R : α → β → Prop) : Except ε α → Except ε β → Prop where
  | error (e : ε) : Agree R (.error e) (.error e)
  | ok {a : α} {b : β} : R a b → Agree R (.ok a) (.ok b)

theorem Agree.map {R : α → β → Prop} {S : γ → δ → Prop} {x : Except ε α} {y : Except ε β}
    (h : Agree R x y) {f : α → γ} {g : β → δ} (hfg : ∀ {a b}, R a b → S (f a) (g b)) :
    Agree S (x.map f) (y.map g) := by
  cases h with
  | error e => exact .error e
  | ok hab => exact .ok (hfg hab)

/-- **Lists of computations that agree entry by entry agree.** -/
theorem agree_mapM {R : α → β → Prop} {S : γ → δ → Prop} {f : α → Except ε γ} {g : β → Except ε δ}
    (hfg : ∀ {x y}, R x y → Agree S (f x) (g y)) {xs : List α} {ys : List β}
    (h : List.Forall₂ R xs ys) : Agree (List.Forall₂ S) (xs.mapM f) (ys.mapM g) := by
  induction h with
  | nil => exact .ok .nil
  | @cons x y xs ys hxy _ ih =>
    rw [List.mapM_cons, List.mapM_cons]
    have hhead := hfg hxy
    generalize f x = a, g y = b at hhead
    generalize xs.mapM f = as, ys.mapM g = bs at ih
    cases hhead with
    | error e => exact .error e
    | ok hab =>
      cases ih with
      | error e => exact .error e
      | ok hrest => exact .ok (.cons hab hrest)

/-- **Two computations for each entry of a list agree when they agree on every entry.** -/
theorem agree_mapM_same {R : α → β → γ → Prop} {f : α → Except ε β} {g : α → Except ε γ} {xs : List α}
    (h : ∀ x ∈ xs, Agree (R x) (f x) (g x)) : Agree (Forall₃ R xs) (xs.mapM f) (xs.mapM g) := by
  induction xs with
  | nil => exact .ok .nil
  | cons x xs ih =>
    rw [List.mapM_cons, List.mapM_cons]
    have hhead := h x (by simp)
    have hrest := ih fun y hy => h y (by simp [hy])
    generalize f x = a, g x = b at hhead
    generalize xs.mapM f = as, xs.mapM g = bs at hrest
    cases hhead with
    | error e => exact .error e
    | ok hab =>
      cases hrest with
      | error e => exact .error e
      | ok hrest => exact .ok (.cons hab hrest)

end AdminQuery.Fallible
