import Mathlib.Data.List.Induction
import Mathlib.Data.List.Nodup
import Mathlib.Data.List.ProdSigma

/-!
This module contains what is needed of grids laid out row by row: the first occurrences of a list,
which give back the axes of a grid from its cells, and the index of a cell.
-/

namespace Grid

variable {α β : Type}

theorem zipIdx_product (xs : List α) (ys : List β) (k : Nat)
    : (xs ×ˢ ys).zipIdx (k * ys.length)
        =
      (xs.zipIdx k).flatMap (fun p => ys.zipIdx.map (fun q => ((p.1, q.1), p.2 * ys.length + q.2)))
    := by
  induction xs generalizing k with
  | nil => rfl
  | cons x xs ih =>
    have hnext : k * ys.length + ys.length = (k + 1) * ys.length := (Nat.succ_mul k ys.length).symm
    rw [List.product_cons, List.zipIdx_append, List.length_map, hnext, ih (k + 1)]
    rw [List.zipIdx_cons, List.flatMap_cons]
    congr 1
    rw [List.zipIdx_map, List.zipIdx_eq_map_add, List.map_map]
    rfl

theorem getElem?_product {xs : List α} {ys : List β} {i j : Nat} (hi : i < xs.length)
    (hj : j < ys.length) : (xs ×ˢ ys)[i * ys.length + j]? = some (xs[i], ys[j]) := by
  induction xs generalizing i with
  | nil => cases hi
  | cons x xs ih =>
    rw [List.product_cons]
    cases i with
    | zero =>
      rw [Nat.zero_mul, Nat.zero_add, List.getElem?_append_left (by simpa using hj)]
      simp [hj]
    | succ i =>
      have hidx : (i + 1) * ys.length + j = ys.length + (i * ys.length + j) := by
        rw [Nat.succ_mul]
        omega
      rw [hidx, List.getElem?_append_right (by simp), List.length_map, Nat.add_sub_cancel_left]
      exact ih (Nat.lt_of_succ_lt_succ hi)

variable [DecidableEq α]

def pushNew (acc : List α) (x : α) : List α :=
  if x ∈ acc then acc else acc ++ [x]

def firsts (xs : List α) : List α :=
  xs.foldl pushNew []

theorem firsts_append_singleton (xs : List α) (x : α)
    : firsts (xs ++ [x]) = pushNew (firsts xs) x := by
  unfold firsts
  rw [List.foldl_append]
  rfl

theorem mem_firsts {xs : List α} {x : α} : x ∈ firsts xs ↔ x ∈ xs := by
  induction xs using List.reverseRecOn with
  | nil => simp [firsts]
  | append_singleton xs y ih =>
    rw [firsts_append_singleton, List.mem_append, ← ih]
    unfold pushNew
    split
    . next hy =>
      simp only [List.mem_singleton, iff_self_or]
      rintro rfl
      exact hy
    . rw [List.mem_append]

theorem nodup_firsts (xs : List α) : (firsts xs).Nodup := by
  induction xs using List.reverseRecOn with
  | nil => exact List.nodup_nil
  | append_singleton xs y ih =>
    rw [firsts_append_singleton]
    unfold pushNew
    split
    . exact ih
    . next hy =>
      rw [List.nodup_append]
      refine ⟨ih, List.nodup_singleton y, ?_⟩
      rintro x hx _ hmem rfl
      rw [List.mem_singleton] at hmem
      exact hy (hmem ▸ hx)

theorem firsts_eq_self {xs : List α} (h : xs.Nodup) : firsts xs = xs := by
  induction xs using List.reverseRecOn with
  | nil => rfl
  | append_singleton xs y ih =>
    rw [List.nodup_append] at h
    obtain ⟨hxs, -, hne⟩ := h
    rw [firsts_append_singleton, ih hxs]
    unfold pushNew
    rw [if_neg]
    exact fun hy => hne y hy y (by simp) rfl

theorem firsts_append_of_subset {xs ys : List α} (h : ∀ y ∈ ys, y ∈ xs)
    : firsts (xs ++ ys) = firsts xs := by
  induction ys using List.reverseRecOn with
  | nil => rw [List.append_nil]
  | append_singleton ys y ih =>
    have hys : firsts (xs ++ ys) = firsts xs := ih (fun z hz => h z (by simp [hz]))
    rw [← List.append_assoc, firsts_append_singleton, hys]
    unfold pushNew
    rw [if_pos]
    exact mem_firsts.mpr (h y (by simp))

theorem firsts_append_of_disjoint {xs ys : List α} (h : ∀ y ∈ ys, y ∉ xs)
    : firsts (xs ++ ys) = firsts xs ++ firsts ys := by
  induction ys using List.reverseRecOn with
  | nil => simp [firsts]
  | append_singleton ys y ih =>
    have hys : firsts (xs ++ ys) = firsts xs ++ firsts ys := ih (fun z hz => h z (by simp [hz]))
    rw [← List.append_assoc, firsts_append_singleton, firsts_append_singleton, hys]
    unfold pushNew
    have hy : y ∉ firsts xs := fun hmem => h y (by simp) (mem_firsts.mp hmem)
    by_cases hmem : y ∈ firsts ys
    . simp [hmem]
    . simp [hmem, hy]

theorem firsts_map_fst_product {xs : List α} {ys : List β} (hxs : xs.Nodup) (hys : ys ≠ [])
    : firsts ((xs ×ˢ ys).map Prod.fst) = xs := by
  induction xs with
  | nil => rfl
  | cons x xs ih =>
    obtain ⟨hx, hxs⟩ := List.nodup_cons.mp hxs
    have hrow : firsts ((ys.map (fun y => (x, y))).map Prod.fst) = [x] := by
      obtain ⟨y, ys, rfl⟩ := List.exists_cons_of_ne_nil hys
      have hsub : ∀ z ∈ (ys.map (fun y => (x, y))).map Prod.fst, z ∈ [x] := by simp
      exact firsts_append_of_subset hsub
    have hnew : ∀ z ∈ (xs ×ˢ ys).map Prod.fst, z ∉ (ys.map (fun y => (x, y))).map Prod.fst := by
      intro z hz hmem
      have hzx : z = x := by
        rw [List.map_map, List.mem_map] at hmem
        obtain ⟨y, -, hy⟩ := hmem
        exact hy.symm
      obtain ⟨⟨a, b⟩, hab, rfl⟩ := List.mem_map.mp hz
      exact hx (hzx ▸ (List.mem_product.mp hab).1)
    rw [List.product_cons, List.map_append, firsts_append_of_disjoint hnew, hrow, ih hxs]
    rfl

theorem firsts_map_snd_product {xs : List β} {ys : List α} (hxs : xs ≠ []) (hys : ys.Nodup)
    : firsts ((xs ×ˢ ys).map Prod.snd) = ys := by
  obtain ⟨x, xs, rfl⟩ := List.exists_cons_of_ne_nil hxs
  have hrow : (ys.map (fun y => (x, y))).map Prod.snd = ys := by simp [Function.comp_def]
  have hsub : ∀ z ∈ (xs ×ˢ ys).map Prod.snd, z ∈ ys := by
    intro z hz
    obtain ⟨⟨a, b⟩, hab, rfl⟩ := List.mem_map.mp hz
    exact (List.mem_product.mp hab).2
  rw [List.product_cons, List.map_append, hrow, firsts_append_of_subset hsub]
  exact firsts_eq_self hys

end Grid
