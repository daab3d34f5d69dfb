import PqCas.Lib.Grid

/-!
This module contains the `Set` of JavaScript as a list of check boxes uses it: the elements in the order in
which they were added, none of them twice.
-/

structure Picks (α : Type) where
  elems : List α
  nodup : elems.Nodup

namespace Picks

variable {α : Type}

def empty : Picks α :=
  ⟨[], List.nodup_nil⟩

def size (s : Picks α) : Nat :=
  s.elems.length

variable [DecidableEq α]

/--
`new Set(values)`.
-/
def ofList (values : List α) : Picks α :=
  ⟨Grid.firsts values, Grid.nodup_firsts values⟩

omit [DecidableEq α] in
theorem nodup_concat {xs : List α} (h : xs.Nodup) {x : α} (hx : x ∉ xs) : (xs ++ [x]).Nodup := by
  rw [List.nodup_append]
  constructor
  . exact h
  constructor
  . apply List.nodup_singleton
  . intro y hy z hz hyz
    rw [List.mem_singleton] at hz
    apply hx
    rw [← hz, ← hyz]
    exact hy

/--
`if (!next.delete(x)) { next.add(x); }`.
-/
def toggle (s : Picks α) (x : α) : Picks α :=
  if h : x ∈ s.elems then
    ⟨s.elems.erase x, s.nodup.erase x⟩
  else
    ⟨s.elems ++ [x], nodup_concat s.nodup h⟩

theorem mem_ofList {values : List α} {x : α} : x ∈ (ofList values).elems ↔ x ∈ values :=
  Grid.mem_firsts

theorem mem_of_mem_toggle {s : Picks α} {x y : α} (h : y ∈ (s.toggle x).elems) : y = x ∨ y ∈ s.elems := by
  unfold toggle at h
  split at h
  . right
    exact List.mem_of_mem_erase h
  . rw [List.mem_append, List.mem_singleton] at h
    exact h.symm

end Picks
