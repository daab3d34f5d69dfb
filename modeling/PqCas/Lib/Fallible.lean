import Mathlib.Data.List.Forall2

/-!
This module contains what is needed of computations that return a value or fail: when a composition
of them returns.
-/

namespace Fallible

variable {α β γ ε ε' : Type}

def okOr (x : Option α) (err : ε) : Except ε α :=
  match x with
  | some a => .ok a
  | none => .error err

@[simp]
theorem okOr_eq_ok_iff {x : Option α} {err : ε} {a : α} : okOr x err = .ok a ↔ x = some a := by
  cases x <;> simp [okOr]

@[simp]
theorem mapError_eq_ok_iff {x : Except ε α} {f : ε → ε'} {a : α} : x.mapError f = .ok a ↔ x = .ok a := by
  cases x <;> simp [Except.mapError]

@[simp]
theorem bind_eq_ok_iff {x : Except ε α} {f : α → Except ε β} {b : β}
    : (x >>= f) = .ok b ↔ ∃ a, x = .ok a ∧ f a = .ok b := by
  cases x <;> simp [bind, Except.bind]

theorem mapM_eq_ok_iff {f : α → Except ε β} {xs : List α} {ys : List β}
    : xs.mapM f = .ok ys ↔ List.Forall₂ (fun x y => f x = .ok y) xs ys := by
  induction xs generalizing ys with
  | nil =>
    rw [List.mapM_nil, List.forall₂_nil_left_iff]
    exact ⟨fun h => (Except.ok.inj h).symm, fun h => congrArg _ h.symm⟩
  | cons x xs ih =>
    rw [List.mapM_cons, List.forall₂_cons_left_iff]
    simp only [bind_eq_ok_iff, ih]
    constructor
    . rintro ⟨y, hy, ys', hys', hcons⟩
      exact ⟨y, ys', hy, hys', (Except.ok.inj hcons).symm⟩
    . rintro ⟨y, ys', hy, hys', rfl⟩
      exact ⟨y, hy, ys', hys', rfl⟩

theorem mapM_zip_map_eq_ok {g : α → β} {f : α × β → Except ε γ} {xs : List α} {ys : List γ}
    (h : List.Forall₂ (fun x y => f (x, g x) = .ok y) xs ys) : (xs.zip (xs.map g)).mapM f = .ok ys := by
  rw [mapM_eq_ok_iff]
  induction h with
  | nil => exact .nil
  | cons hx _ ih => exact .cons hx ih

theorem length_of_mapM {f : α → Except ε β} {xs : List α} {ys : List β} (h : xs.mapM f = .ok ys)
    : ys.length = xs.length :=
  (mapM_eq_ok_iff.mp h).length_eq.symm

theorem getElem_of_mapM {f : α → Except ε β} {xs : List α} {ys : List β} (h : xs.mapM f = .ok ys)
    {i : Nat} (hx : i < xs.length) (hy : i < ys.length) : f xs[i] = .ok ys[i] := by
  have hrel := (List.forall₂_iff_get.mp (mapM_eq_ok_iff.mp h)).2 i hx hy
  simpa using hrel

theorem filterMap_mapIdx {f : Nat → α → β} {g : β → Option γ} {h : Nat → α → γ} {xs : List α}
    (hg : ∀ i (hi : i < xs.length), g (f i xs[i]) = some (h i xs[i]))
    : (xs.mapIdx f).filterMap g = xs.mapIdx h := by
  rw [List.mapIdx_eq_zipIdx_map, List.mapIdx_eq_zipIdx_map, List.filterMap_map, ← List.filterMap_eq_map]
  apply List.filterMap_congr
  rintro ⟨x, i⟩ hmem
  obtain ⟨hi, hx⟩ := List.mem_zipIdx' hmem
  dsimp only [Function.comp]
  rw [hx]
  exact hg i hi

theorem exists_mapM_eq_ok {f : α → Except ε β} {xs : List α} (h : ∀ x ∈ xs, ∃ y, f x = .ok y)
    : ∃ ys, xs.mapM f = .ok ys := by
  induction xs with
  | nil => exact ⟨[], rfl⟩
  | cons x xs ih =>
    obtain ⟨y, hy⟩ := h x (by simp)
    obtain ⟨ys, hys⟩ := ih (fun x hx => h x (by simp [hx]))
    refine ⟨y :: ys, ?_⟩
    rw [mapM_eq_ok_iff] at hys ⊢
    exact .cons hy hys

end Fallible
