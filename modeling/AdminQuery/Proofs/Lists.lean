import Mathlib.Data.List.Forall2
import Mathlib.Data.List.Induction

/-!
# Lists entry by entry

* `forall₂_flatMap`, `forall₂_of_forall₂`, `forall₂_filterMap`: lists that are related entry by entry
* `exists_of_flatMap_ne`: **where two rows of values differ, one pair of entries gives different values**
* `eq_take_append_drop`: a list around one of its entries
* `any_congr_of_mem`, `all_congr_of_mem`: only the values at entries matter
* `find?_not_cons`, `find?_not_toList`: the first entry that fails a test
* `eraseDups_concat`, `nodup_eraseDups`, `pairwise_idxOf_eraseDups`: the first appearances of the entries of a list
* `Forall₃`: three lists of one length that are related entry by entry
-/

namespace AdminQuery

theorem forall₂_flatMap {α β γ δ : Type} {R : α → β → Prop} {S : γ → δ → Prop} {f : α → List γ}
    {g : β → List δ} {xs : List α} {ys : List β} (h : List.Forall₂ R xs ys)
    (hfg : ∀ x y, R x y → List.Forall₂ S (f x) (g y)) :
    List.Forall₂ S (xs.flatMap f) (ys.flatMap g) := by
  induction h with
  | nil => exact .nil
  | cons hxy _ ih =>
    rw [List.flatMap_cons, List.flatMap_cons]
    exact List.rel_append (hfg _ _ hxy) ih

/-- What is related to the entries of a list, one after the other, is related to what they stand for. -/
theorem forall₂_of_forall₂ {α β γ : Type} {R : α → β → Prop} {S : α → γ → Prop} {T : β → γ → Prop}
    (hT : ∀ x y z, R x y → S x z → T y z) {xs : List α} {ys : List β} {zs : List γ}
    (h : List.Forall₂ R xs ys) (h' : List.Forall₂ S xs zs) : List.Forall₂ T ys zs := by
  induction h generalizing zs with
  | nil =>
    cases h'
    exact .nil
  | cons hxy _ ih =>
    cases h' with
    | cons hxz hrest => exact .cons (hT _ _ _ hxy hxz) (ih hrest)

/-- Values that come one after another from two rows of entries differ inside one pair of entries, when
corresponding entries give as many values. -/
theorem exists_of_flatMap_ne {α β γ : Type} {R : α → β → Prop} {f : α → List γ} {g : β → List γ}
    (hlength : ∀ x y, R x y → (f x).length = (g y).length) {xs : List α} {ys : List β}
    (h : List.Forall₂ R xs ys) : ∀ {i : Nat}, (xs.flatMap f)[i]? ≠ (ys.flatMap g)[i]? →
      ∃ n x y k, xs[n]? = some x ∧ ys[n]? = some y ∧ R x y ∧ (f x)[k]? ≠ (g y)[k]? ∧
        i = ((xs.take n).flatMap f).length + k ∧ i = ((ys.take n).flatMap g).length + k := by
  induction h with
  | nil => exact fun hne => absurd rfl hne
  | @cons x y xs ys hxy _ ih =>
    intro i hne
    have hl := hlength x y hxy
    rw [List.flatMap_cons, List.flatMap_cons] at hne
    rcases Nat.lt_or_ge i (f x).length with hlt | hge
    · rw [List.getElem?_append_left hlt, List.getElem?_append_left (hl ▸ hlt)] at hne
      exact ⟨0, x, y, i, rfl, rfl, hxy, hne, by simp, by simp⟩
    · rw [List.getElem?_append_right hge, List.getElem?_append_right (hl ▸ hge), ← hl] at hne
      obtain ⟨n, a, b, k, ha, hb, hab, hk, hi, hi'⟩ := ih hne
      refine ⟨n + 1, a, b, k, ha, hb, hab, hk, ?_, ?_⟩
      · rw [List.take_succ_cons, List.flatMap_cons, List.length_append]
        omega
      · rw [List.take_succ_cons, List.flatMap_cons, List.length_append]
        omega

theorem forall₂_getElem? {α β : Type} {R : α → β → Prop} {xs : List α} {ys : List β}
    (h : List.Forall₂ R xs ys) {n : Nat} {y : β} (hy : ys[n]? = some y) :
    ∃ x, xs[n]? = some x ∧ R x y := by
  induction h generalizing n with
  | nil => cases hy
  | @cons x y' xs ys hxy _ ih =>
    cases n with
    | zero =>
      cases hy
      exact ⟨x, rfl, hxy⟩
    | succ n => exact ih hy

theorem eq_take_append_drop {α : Type} {xs : List α} {n : Nat} {x : α} (h : xs[n]? = some x) :
    xs = xs.take n ++ x :: xs.drop (n + 1) := by
  obtain ⟨hlt, rfl⟩ := List.getElem?_eq_some_iff.1 h
  rw [← List.drop_eq_getElem_cons hlt, List.take_append_drop]

theorem any_congr_of_mem {α : Type} {p q : α → Bool} {xs : List α} (h : ∀ x ∈ xs, p x = q x) :
    xs.any p = xs.any q := by
  induction xs with
  | nil => rfl
  | cons x xs ih =>
    have hrest := ih fun y hy => h y (by simp [hy])
    rw [List.any_cons, List.any_cons, h x (by simp), hrest]

theorem all_congr_of_mem {α : Type} {p q : α → Bool} {xs : List α} (h : ∀ x ∈ xs, p x = q x) :
    xs.all p = xs.all q := by
  induction xs with
  | nil => rfl
  | cons x xs ih =>
    have hrest := ih fun y hy => h y (by simp [hy])
    rw [List.all_cons, List.all_cons, h x (by simp), hrest]

theorem forall₂_filterMap {α β : Type} {f : α → Option β} (h : ∀ x, ∃ y, f x = some y)
    (xs : List α) : List.Forall₂ (fun x y => f x = some y) xs (xs.filterMap f) := by
  induction xs with
  | nil => exact .nil
  | cons x xs ih =>
    obtain ⟨y, hy⟩ := h x
    rw [List.filterMap_cons_some hy]
    exact .cons hy ih

/-- The first entry that fails a test is the head, or the first that fails it in the tail. -/
theorem find?_not_cons {α : Type} {p : α → Bool} {x y : α} {xs : List α} :
    ((x :: xs).find? fun z => !p z) = some y ↔
      (p x = false ∧ y = x) ∨ (p x = true ∧ (xs.find? fun z => !p z) = some y) := by
  cases hx : p x with
  | false => simp [hx, eq_comm]
  | true => simp [hx]

theorem find?_not_toList {α : Type} {p : α → Bool} {o : Option α} {y : α} :
    (o.toList.find? fun z => !p z) = some y ↔ o = some y ∧ p y = false := by
  cases o with
  | none => simp
  | some x =>
    rw [Option.toList_some, find?_not_cons, List.find?_nil, Option.some.injEq]
    constructor
    · rintro (⟨hx, rfl⟩ | ⟨-, hnone⟩)
      · exact ⟨rfl, hx⟩
      · cases hnone
    · rintro ⟨rfl, hx⟩
      exact .inl ⟨hx, rfl⟩

/-- The first appearances under one more entry. -/
theorem eraseDups_concat {α : Type} [DecidableEq α] (xs : List α) (x : α) :
    (xs ++ [x]).eraseDups = if x ∈ xs then xs.eraseDups else xs.eraseDups ++ [x] := by
  rw [List.eraseDups_append]
  by_cases hx : x ∈ xs
  · simp [List.removeAll, hx]
  · rw [if_neg hx]
    simp [List.removeAll, hx, List.eraseDups_cons]

theorem nodup_eraseDups {α : Type} [DecidableEq α] (xs : List α) : xs.eraseDups.Nodup := by
  induction xs using List.reverseRecOn with
  | nil => exact List.nodup_nil
  | append_singleton xs x ih =>
    rw [eraseDups_concat]
    split
    · exact ih
    · rename_i hx
      rw [List.nodup_append]
      refine ⟨ih, by simp, ?_⟩
      rintro y hy z hz rfl
      rw [List.mem_singleton.1 hz] at hy
      exact hx (List.mem_eraseDups.1 hy)

/-- The first appearances come in the order of the list. -/
theorem pairwise_idxOf_eraseDups {α : Type} [DecidableEq α] (xs : List α) :
    xs.eraseDups.Pairwise fun x y => xs.idxOf x < xs.idxOf y := by
  induction xs using List.reverseRecOn with
  | nil => exact .nil
  | append_singleton xs x ih =>
    have hkept : xs.eraseDups.Pairwise fun y z => (xs ++ [x]).idxOf y < (xs ++ [x]).idxOf z := by
      refine ih.imp_of_mem fun hy hz hlt => ?_
      rwa [List.idxOf_append_of_mem (List.mem_eraseDups.1 hy),
        List.idxOf_append_of_mem (List.mem_eraseDups.1 hz)]
    rw [eraseDups_concat]
    split
    · exact hkept
    · rename_i hx
      refine List.pairwise_append.2 ⟨hkept, List.pairwise_singleton _ _, ?_⟩
      intro y hy z hz
      obtain rfl := List.mem_singleton.1 hz
      have hy := List.mem_eraseDups.1 hy
      rw [List.idxOf_append_of_mem hy, List.idxOf_append_of_notMem hx]
      exact Nat.lt_add_right _ (List.idxOf_lt_length_iff.2 hy)

/-- Three lists of one length whose entries are related. -/
inductive Forall₃ {α β γ : Type} (R : α → β → γ → Prop) : List α → List β → List γ → Prop where
  | nil : Forall₃ R [] [] []
  | cons {x : α} {y : β} {z : γ} {xs : List α} {ys : List β} {zs : List γ} :
    R x y z → Forall₃ R xs ys zs → Forall₃ R (x :: xs) (y :: ys) (z :: zs)

end AdminQuery
