import Mathlib

/-!
This module contains maps with one entry for each key in the order of the keys, as `BTreeMap` keeps
them: an insert replaces what was there, and what is collected from a list has the last entry of each
key.
-/

namespace SortedMap

variable {κ α : Type} [LinearOrder κ]

def insert (m : List (κ × α)) (e : κ × α) : List (κ × α) :=
  match m with
  | [] => [e]
  | e' :: m =>
    if e.1 < e'.1 then
      e :: e' :: m
    else if e.1 = e'.1 then
      e :: m
    else
      e' :: insert m e

def ofList (entries : List (κ × α)) : List (κ × α) :=
  entries.foldl insert []

def Sorted (m : List (κ × α)) : Prop :=
  m.Pairwise (fun a b => a.1 < b.1)

theorem mem_insert {m : List (κ × α)} {e x : κ × α} (h : x ∈ insert m e) : x = e ∨ x ∈ m := by
  induction m with
  | nil => exact .inl (List.mem_singleton.mp h)
  | cons e' m ih =>
    unfold insert at h
    split at h
    . exact List.mem_cons.mp h
    split at h
    . rcases List.mem_cons.mp h with rfl | h
      . exact .inl rfl
      . exact .inr (List.mem_cons_of_mem _ h)
    . rcases List.mem_cons.mp h with rfl | h
      . exact .inr List.mem_cons_self
      . rcases ih h with rfl | h
        . exact .inl rfl
        . exact .inr (List.mem_cons_of_mem _ h)

theorem sorted_insert {m : List (κ × α)} (h : Sorted m) (e : κ × α) : Sorted (insert m e) := by
  induction m with
  | nil => exact List.pairwise_singleton _ _
  | cons e' m ih =>
    obtain ⟨hhead, htail⟩ := List.pairwise_cons.mp h
    unfold insert
    split
    . next hlt =>
      apply List.pairwise_cons.mpr
      refine ⟨?_, h⟩
      intro x hx
      rcases List.mem_cons.mp hx with rfl | hx
      . exact hlt
      . exact lt_trans hlt (hhead x hx)
    split
    . next heq =>
      apply List.pairwise_cons.mpr
      refine ⟨?_, htail⟩
      intro x hx
      rw [heq]
      exact hhead x hx
    . next hlt hne =>
      apply List.pairwise_cons.mpr
      refine ⟨?_, ih htail⟩
      intro x hx
      rcases mem_insert hx with rfl | hx
      . exact lt_of_le_of_ne (not_lt.mp hlt) (Ne.symm hne)
      . exact hhead x hx

theorem lookup_cons_eq (e : κ × α) (m : List (κ × α)) (k : κ)
    : (e :: m).lookup k = if k = e.1 then some e.2 else m.lookup k := by
  rw [List.lookup_cons]
  by_cases hk : k = e.1
  . rw [if_pos hk, beq_iff_eq.mpr hk]
  . rw [if_neg hk, beq_eq_false_iff_ne.mpr hk]

theorem lookup_insert (m : List (κ × α)) (e : κ × α) (k : κ)
    : (insert m e).lookup k = if k = e.1 then some e.2 else m.lookup k := by
  induction m with
  | nil => exact lookup_cons_eq e [] k
  | cons e' m ih =>
    unfold insert
    split
    . exact lookup_cons_eq e (e' :: m) k
    split
    . next heq =>
      rw [lookup_cons_eq, lookup_cons_eq, heq]
      by_cases hk : k = e'.1 <;> simp [hk]
    . next hne =>
      rw [lookup_cons_eq, lookup_cons_eq, ih]
      by_cases hk : k = e'.1
      . rw [if_pos hk, if_pos hk, if_neg]
        rintro rfl
        exact hne hk
      . rw [if_neg hk, if_neg hk]

theorem sorted_foldl {m : List (κ × α)} (h : Sorted m) (entries : List (κ × α))
    : Sorted (entries.foldl insert m) := by
  induction entries generalizing m with
  | nil => exact h
  | cons e entries ih => exact ih (sorted_insert h e)

theorem sorted_ofList (entries : List (κ × α)) : Sorted (ofList entries) :=
  sorted_foldl List.Pairwise.nil entries

theorem lookup_foldl (m entries : List (κ × α)) (k : κ)
    : (entries.foldl insert m).lookup k = (entries.reverse.lookup k).or (m.lookup k) := by
  induction entries generalizing m with
  | nil => rfl
  | cons e entries ih =>
    rw [List.foldl_cons, ih, lookup_insert, List.reverse_cons, List.lookup_append, Option.or_assoc]
    congr 1
    rw [lookup_cons_eq]
    by_cases hk : k = e.1 <;> simp [hk]

theorem lookup_ofList (entries : List (κ × α)) (k : κ)
    : (ofList entries).lookup k = entries.reverse.lookup k := by
  unfold ofList
  rw [lookup_foldl]
  exact Option.or_none

theorem mem_foldl {m entries : List (κ × α)} {x : κ × α} (h : x ∈ entries.foldl insert m)
    : x ∈ entries ∨ x ∈ m := by
  induction entries generalizing m with
  | nil => exact .inr h
  | cons e entries ih =>
    rcases ih h with h | h
    . exact .inl (List.mem_cons_of_mem _ h)
    . rcases mem_insert h with rfl | h
      . exact .inl List.mem_cons_self
      . exact .inr h

theorem mem_ofList {entries : List (κ × α)} {x : κ × α} (h : x ∈ ofList entries) : x ∈ entries := by
  rcases mem_foldl h with h | h
  . exact h
  . cases h

end SortedMap
