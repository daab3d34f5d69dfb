import Mathlib.Data.List.Sort

/-!
This module contains looking for the next and the previous row of a table by range queries on a key, and
walking along what such queries return.
-/

namespace Neighbours

section Queries

variable {α β : Type} [LinearOrder β] (key : α → β)

def next (rows : List α) (k : β) : Option α :=
  ((rows.filter (fun row => k < key row)).mergeSort (fun a b => key a ≤ key b)).head?

def previous (rows : List α) (k : β) : Option α :=
  ((rows.filter (fun row => key row < k)).mergeSort (fun a b => key b ≤ key a)).head?

variable {key} {rows pre post : List α} {a : α}

theorem mergeSort_eq {sorted : List α} (hsorted : sorted.Pairwise (fun a b => key a < key b))
    (hperm : rows.Perm sorted) : rows.mergeSort (fun a b => key a ≤ key b) = sorted := by
  have hle : sorted.Pairwise (fun a b => decide (key a ≤ key b) = true) := by
    apply hsorted.imp
    intro a b hab
    simpa using hab.le
  have hmerge : (rows.mergeSort (fun a b => key a ≤ key b)).Pairwise
      (fun a b => decide (key a ≤ key b) = true) := by
    apply List.pairwise_mergeSort
    . intro a b c hab hbc
      simp only [decide_eq_true_eq] at hab hbc ⊢
      exact hab.trans hbc
    . intro a b
      simpa using le_total (key a) (key b)
  have hinj : ∀ a ∈ sorted, ∀ b ∈ sorted, key a = key b → a = b := by
    have hnodup : (sorted.map key).Nodup := by
      rw [List.nodup_iff_pairwise_ne, List.pairwise_map]
      exact hsorted.imp (fun hab => hab.ne)
    exact fun a ha b hb heq => List.inj_on_of_nodup_map hnodup ha hb heq
  apply List.Perm.eq_of_pairwise _ hmerge hle ((List.mergeSort_perm _ _).trans hperm)
  intro a b ha hb hab hba
  simp only [decide_eq_true_eq] at hab hba
  apply hinj a _ b hb (le_antisymm hab hba)
  exact (hperm.mem_iff).mp ((List.mergeSort_perm _ _).mem_iff.mp ha)

theorem next_eq (hperm : rows.Perm (pre ++ a :: post))
    (hsorted : (pre ++ a :: post).Pairwise (fun a b => key a < key b))
    : next key rows (key a) = post.head? := by
  obtain ⟨hpre, hpost, hcross⟩ := List.pairwise_append.mp hsorted
  obtain ⟨hhead, hpost⟩ := List.pairwise_cons.mp hpost
  have hfilter : (pre ++ a :: post).filter (fun row => key a < key row) = post := by
    have hnone : pre.filter (fun row => key a < key row) = [] := by
      rw [List.filter_eq_nil_iff]
      intro b hb
      simpa using (hcross b hb a List.mem_cons_self).le
    have hall : post.filter (fun row => key a < key row) = post := by
      rw [List.filter_eq_self]
      intro b hb
      simpa using hhead b hb
    rw [List.filter_append, hnone, List.nil_append, List.filter_cons_of_neg (by simp), hall]
  unfold next
  rw [mergeSort_eq hpost (hfilter ▸ hperm.filter _)]

theorem previous_eq (hperm : rows.Perm (pre ++ a :: post))
    (hsorted : (pre ++ a :: post).Pairwise (fun a b => key a < key b))
    : previous key rows (key a) = pre.getLast? := by
  obtain ⟨hpre, hpost, hcross⟩ := List.pairwise_append.mp hsorted
  obtain ⟨hhead, hpost⟩ := List.pairwise_cons.mp hpost
  have hfilter : (pre ++ a :: post).filter (fun row => key row < key a) = pre := by
    have hall : pre.filter (fun row => key row < key a) = pre := by
      rw [List.filter_eq_self]
      intro b hb
      simpa using hcross b hb a List.mem_cons_self
    have hnone : post.filter (fun row => key row < key a) = [] := by
      rw [List.filter_eq_nil_iff]
      intro b hb
      simpa using (hhead b hb).le
    rw [List.filter_append, hall, List.filter_cons_of_neg (by simp), hnone, List.append_nil]
  -- The other way round the keys are sorted in the dual order.
  have hreverse : pre.reverse.Pairwise (fun a b => OrderDual.toDual (key a) < OrderDual.toDual (key b)) := by
    rw [List.pairwise_reverse]
    exact hpre
  have hsame : (rows.filter (fun row => key row < key a)).Perm pre.reverse :=
    (hfilter ▸ hperm.filter _).trans (List.reverse_perm pre).symm
  have hmerge := mergeSort_eq hreverse hsame
  unfold previous
  rw [← List.head?_reverse, ← hmerge]
  rfl

end Queries

section Walk

variable {ι : Type} {step : ι → Option ι → Prop}

/--
Starting from a place and following `step` visits the places of the list and then stops.
-/
inductive Walk (step : ι → Option ι → Prop) : ι → List ι → Prop where
  | stop {i : ι} (h : step i none) : Walk step i [i]
  | next {i j : ι} {rest : List ι} (h : step i (some j)) (hrest : Walk step j rest) : Walk step i (i :: rest)

theorem walk_of_splits {i : ι} {rest : List ι}
    (h : ∀ pre j post, i :: rest = pre ++ j :: post → step j post.head?) : Walk step i (i :: rest) := by
  induction rest generalizing i with
  | nil => exact .stop (h [] i [] rfl)
  | cons j rest ih =>
    apply Walk.next (h [] i (j :: rest) rfl)
    apply ih
    intro pre k post heq
    apply h (i :: pre) k post
    rw [List.cons_append, heq]

end Walk

end Neighbours
