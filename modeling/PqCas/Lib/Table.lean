import Mathlib.Data.List.Basic
import Mathlib.Data.List.Count

/-!
This module contains tables as lists of rows, with the `UPDATE ... SET f WHERE p` and
`INSERT ... ON CONFLICT DO UPDATE` of SQL.
-/

namespace Table

variable {α κ : Type}

/--
`UPDATE rows SET f WHERE p`.
-/
def updateWhere (rows : List α) (p : α → Bool) (f : α → α) : List α :=
  rows.map (fun row => if p row then f row else row)

/--
`INSERT INTO rows VALUES (row) ON CONFLICT (key) DO UPDATE SET` every other column.
-/
def upsert [DecidableEq κ] (key : α → κ) (rows : List α) (row : α) : List α :=
  if rows.any (fun old => key old = key row) then
    updateWhere rows (fun old => key old = key row) (fun _ => row)
  else
    rows ++ [row]

@[simp]
theorem length_updateWhere (rows : List α) (p : α → Bool) (f : α → α)
    : (updateWhere rows p f).length = rows.length := by
  simp [updateWhere]

theorem map_updateWhere {rows : List α} {p : α → Bool} {f : α → α} (g : α → κ)
    (h : ∀ row, g (f row) = g row) : (updateWhere rows p f).map g = rows.map g := by
  unfold updateWhere
  rw [List.map_map]
  apply List.map_congr_left
  intro row _
  dsimp
  split
  . apply h
  . rfl

theorem mem_updateWhere {rows : List α} {p : α → Bool} {f : α → α} {row : α}
    : row ∈ updateWhere rows p f
        ↔
      (∃ old ∈ rows, p old = true ∧ row = f old) ∨ (row ∈ rows ∧ p row = false) := by
  unfold updateWhere
  rw [List.mem_map]
  constructor
  . rintro ⟨old, hold, rfl⟩
    by_cases hp : p old = true
    . rw [if_pos hp]
      exact .inl ⟨old, hold, hp, rfl⟩
    . rw [if_neg hp]
      exact .inr ⟨hold, by simpa using hp⟩
  . rintro (⟨old, hold, hp, rfl⟩ | ⟨hrow, hp⟩)
    . exact ⟨old, hold, by rw [if_pos hp]⟩
    . exact ⟨row, hrow, by rw [if_neg (by simp [hp])]⟩

theorem filter_updateWhere {rows : List α} {p q : α → Bool} {f : α → α}
    (h : ∀ row, q (f row) = q row)
    : (updateWhere rows p f).filter q = updateWhere (rows.filter q) p f := by
  induction rows with
  | nil => rfl
  | cons row rows ih =>
    simp only [updateWhere, List.map_cons, List.filter_cons] at ih ⊢
    by_cases hp : p row = true
    . simp only [hp, ↓reduceIte, h]
      split
      . simp [hp, ih]
      . exact ih
    . simp only [hp, Bool.false_eq_true, ↓reduceIte]
      split
      . simp [hp, ih]
      . exact ih

theorem updateWhere_eq_self {rows : List α} {p : α → Bool} {f : α → α}
    (h : ∀ row ∈ rows, p row = false) : updateWhere rows p f = rows := by
  unfold updateWhere
  conv => rhs; rw [← List.map_id rows]
  apply List.map_congr_left
  intro row hrow
  simp [h row hrow]

theorem find?_updateWhere_key [DecidableEq κ] {rows : List α} {p : α → Bool} {f : α → α}
    {key : α → κ} (h : ∀ row, key (f row) = key row) (k : κ)
    : (updateWhere rows p f).find? (fun row => key row = k)
        =
      (rows.find? (fun row => key row = k)).map (fun row => if p row then f row else row) := by
  have hkey : ∀ row, key (if p row then f row else row) = key row := by
    intro row
    split
    . apply h
    . rfl
  unfold updateWhere
  rw [List.find?_map]
  congr 2
  funext row
  simp [hkey]

theorem find?_updateWhere [DecidableEq κ] {rows : List α} {f : α → α} {key : α → κ} {k : κ}
    (h : ∀ row, key (f row) = key row)
    : (updateWhere rows (fun row => key row = k) f).find? (fun row => key row = k)
        =
      (rows.find? (fun row => key row = k)).map f := by
  rw [find?_updateWhere_key h]
  cases hfind : rows.find? (fun row => key row = k) with
  | none => rfl
  | some row =>
    have hk : key row = k := by simpa using List.find?_some hfind
    simp [hk]

theorem find?_key_eq_some_iff [DecidableEq κ] {key : α → κ} {rows : List α}
    (h : rows.Pairwise (fun a b => key a ≠ key b)) {k : κ} {row : α}
    : rows.find? (fun r => key r == k) = some row ↔ row ∈ rows ∧ key row = k := by
  induction rows with
  | nil => simp
  | cons r rows ih =>
    rw [List.pairwise_cons] at h
    rw [List.find?_cons, List.mem_cons]
    by_cases hk : key r = k
    . have hother : ∀ row ∈ rows, key row ≠ k := fun row hrow => hk ▸ (h.1 row hrow).symm
      simp only [hk, beq_self_eq_true, Option.some.injEq]
      constructor
      . rintro rfl
        exact ⟨.inl rfl, hk⟩
      . rintro ⟨rfl | hrow, hkey⟩
        . rfl
        . exact absurd hkey (hother row hrow)
    . rw [beq_false_of_ne hk]
      dsimp only
      rw [ih h.2]
      constructor
      . rintro ⟨hrow, hkey⟩
        exact ⟨.inr hrow, hkey⟩
      . rintro ⟨rfl | hrow, hkey⟩
        . exact absurd hkey hk
        . exact ⟨hrow, hkey⟩

theorem find?_key_congr [DecidableEq κ] {key : α → κ} {rows rows' : List α}
    (h : rows.Pairwise (fun a b => key a ≠ key b)) (h' : rows'.Pairwise (fun a b => key a ≠ key b))
    (hmem : ∀ row, row ∈ rows ↔ row ∈ rows') (k : κ)
    : rows.find? (fun r => key r == k) = rows'.find? (fun r => key r == k) := by
  apply Option.ext
  intro row
  rw [find?_key_eq_some_iff h, find?_key_eq_some_iff h', hmem]

theorem get_foldl_put [DecidableEq κ] {σ : Type} {get : σ → κ → Option α} {put : σ → α → σ} {key : α → κ}
    (h : ∀ s a k, get (put s a) k = if key a = k then some a else get s k) (s : σ) (as : List α) (k : κ)
    : get (as.foldl put s) k = (as.reverse.find? (fun a => key a == k)).or (get s k) := by
  induction as generalizing s with
  | nil => rfl
  | cons a as ih =>
    rw [List.foldl_cons, ih, h, List.reverse_cons, List.find?_append, List.find?_singleton, Option.or_assoc]
    congr 1
    by_cases hk : key a = k
    . simp [hk]
    . simp [hk]

theorem nodup_map_concat {f : α → κ} {rows : List α} {row : α} (h : (rows.map f).Nodup)
    (hnew : ∀ old ∈ rows, f old ≠ f row) : ((rows ++ [row]).map f).Nodup := by
  rw [List.map_append, List.map_singleton, List.nodup_append]
  refine ⟨h, List.pairwise_singleton _ _, ?_⟩
  intro k hk k' hk' heq
  obtain ⟨old, hold, rfl⟩ := List.mem_map.mp hk
  rw [List.mem_singleton] at hk'
  exact hnew old hold (heq.trans hk')

section Upsert

variable [DecidableEq κ] {key : α → κ} {rows : List α} {row : α}

theorem nodup_upsert (h : (rows.map key).Nodup) : ((upsert key rows row).map key).Nodup := by
  unfold upsert
  split
  . have hmap : (updateWhere rows (fun old => key old = key row) (fun _ => row)).map key
        = rows.map key := by
      unfold updateWhere
      rw [List.map_map]
      apply List.map_congr_left
      intro old _
      by_cases hkey : key old = key row
      . simp [hkey]
      . simp [hkey]
    rw [hmap]
    exact h
  . next hnone =>
    apply nodup_map_concat h
    intro old hold hkey
    apply hnone
    exact List.any_eq_true.mpr ⟨old, hold, by simpa using hkey⟩

theorem filter_upsert_ne {k : κ} (h : k ≠ key row)
    : (upsert key rows row).filter (fun r => key r = k) = rows.filter (fun r => key r = k) := by
  unfold upsert
  split
  . clear * - h
    induction rows with
    | nil => rfl
    | cons old rows ih =>
      simp only [updateWhere, List.map_cons, List.filter_cons] at ih ⊢
      rw [ih]
      by_cases hold : key old = key row
      . simp [hold, h.symm]
      . simp [hold]
  . simp [List.filter_append, h.symm]

theorem filter_key_eq_singleton (h : (rows.map key).Nodup) {old : α} (hold : old ∈ rows)
    : rows.filter (fun r => key r = key old) = [old] := by
  induction rows with
  | nil => cases hold
  | cons r rows ih =>
    rw [List.map_cons, List.nodup_cons] at h
    rcases List.mem_cons.mp hold with rfl | hmem
    . have hnil : rows.filter (fun r => key r = key old) = [] := by
        rw [List.filter_eq_nil_iff]
        intro r' hr' hkey
        apply h.1
        rw [List.mem_map]
        exact ⟨r', hr', by simpa using hkey⟩
      simp [hnil]
    . have hne : key r ≠ key old := by
        intro hkey
        apply h.1
        rw [hkey]
        exact List.mem_map_of_mem hmem
      rw [List.filter_cons, if_neg (by simpa using hne)]
      exact ih h.2 hmem

theorem mem_upsert_self : row ∈ upsert key rows row := by
  unfold upsert
  split
  . next hany =>
    obtain ⟨old, hold, hkey⟩ := List.any_eq_true.mp hany
    rw [mem_updateWhere]
    exact .inl ⟨old, hold, hkey, rfl⟩
  . simp

theorem filter_upsert_self (row : α) (h : (rows.map key).Nodup)
    : (upsert key rows row).filter (fun r => key r = key row) = [row] :=
  filter_key_eq_singleton (nodup_upsert h) mem_upsert_self

theorem exists_key_upsert_iff {k : κ}
    : (∃ r ∈ upsert key rows row, key r = k) ↔ k = key row ∨ ∃ r ∈ rows, key r = k := by
  by_cases hk : k = key row
  . subst hk
    simp only [true_or, iff_true]
    exact ⟨row, mem_upsert_self, rfl⟩
  . have hfilter : (upsert key rows row).filter (fun r => key r = k) = rows.filter (fun r => key r = k) :=
      filter_upsert_ne hk
    have hmem : ∀ r, (r ∈ upsert key rows row ∧ key r = k) ↔ (r ∈ rows ∧ key r = k) := by
      intro r
      have h := congrArg (fun l => r ∈ l) hfilter
      simpa only [List.mem_filter, decide_eq_true_eq, eq_iff_iff] using h
    simp only [hmem, hk, false_or]

end Upsert

end Table
