import Mathlib
import PqCas.Lib.Table

/-!
This module contains tables whose rows have a generated id besides the columns that are inserted, and what a
run of `INSERT ... ON CONFLICT DO UPDATE` makes of them when it is repeated.
-/

namespace Keyed

/--
The default of an id column: the ids in the order they are drawn, none of them twice.
-/
structure Source (ι : Type) where
  draw : Nat → ι
  injective : Function.Injective draw

structure Row (ι α : Type) where
  id : ι
  columns : α

/--
A table with a unique key. No id that is still to be drawn is in it.
-/
structure Rows {ι α κ : Type} (source : Source ι) (key : α → κ) where
  rows : List (Row ι α)
  drawn : Nat
  keys : (rows.map (fun row => key row.columns)).Nodup
  ids : (rows.map Row.id).Nodup
  fresh : ∀ row ∈ rows, ∀ n, drawn ≤ n → source.draw n ≠ row.id

variable {ι α κ : Type} [DecidableEq κ] {source : Source ι} {key : α → κ}

def overwrite (key : α → κ) (a : α) (rows : List (Row ι α)) : List (Row ι α) :=
  Table.updateWhere rows (fun row => key row.columns = key a) (fun row => { row with columns := a })

theorem map_id_overwrite (a : α) (rows : List (Row ι α)) : (overwrite key a rows).map Row.id = rows.map Row.id :=
  Table.map_updateWhere Row.id (fun _ => rfl)

theorem map_key_overwrite (a : α) (rows : List (Row ι α))
    : (overwrite key a rows).map (fun row => key row.columns) = rows.map (fun row => key row.columns) := by
  unfold overwrite Table.updateWhere
  rw [List.map_map]
  apply List.map_congr_left
  intro row _
  by_cases h : key row.columns = key a
  . simp [h]
  . simp [h]

namespace Rows

def empty : Rows source key :=
  ⟨[], 0, .nil, .nil, fun _ hrow => absurd hrow List.not_mem_nil⟩

/--
The `DO UPDATE`. The id of the refused row is drawn all the same.
-/
def update (t : Rows source key) (a : α) : Rows source key :=
  {
    rows := overwrite key a t.rows
    drawn := t.drawn + 1
    keys := by rw [map_key_overwrite]; exact t.keys
    ids := by rw [map_id_overwrite]; exact t.ids
    fresh := by
      intro row hrow n hn
      rcases Table.mem_updateWhere.mp hrow with ⟨old, hold, -, rfl⟩ | ⟨hrow, -⟩
      . exact t.fresh old hold n (by omega)
      . exact t.fresh row hrow n (by omega)
  }

def insert (t : Rows source key) (a : α) (h : ∀ row ∈ t.rows, key row.columns ≠ key a) : Rows source key :=
  {
    rows := t.rows ++ [⟨source.draw t.drawn, a⟩]
    drawn := t.drawn + 1
    keys := Table.nodup_map_concat t.keys h
    ids := Table.nodup_map_concat t.ids (fun row hrow => (t.fresh row hrow t.drawn (Nat.le_refl _)).symm)
    fresh := by
      intro row hrow n hn
      rcases List.mem_append.mp hrow with hrow | hrow
      . exact t.fresh row hrow n (by omega)
      . rw [List.mem_singleton.mp hrow]
        intro hdraw
        have := source.injective hdraw
        omega
  }

def upsert (t : Rows source key) (a : α) : Rows source key :=
  if h : ∃ row ∈ t.rows, key row.columns = key a then
    t.update a
  else
    t.insert a (fun row hrow hkey => h ⟨row, hrow, hkey⟩)

theorem drawn_upsert (t : Rows source key) (a : α) : (t.upsert a).drawn = t.drawn + 1 := by
  unfold upsert
  split
  . rfl
  . rfl

theorem rows_upsert_of_mem {t : Rows source key} {a : α} (h : ∃ row ∈ t.rows, key row.columns = key a)
    : (t.upsert a).rows = overwrite key a t.rows := by
  unfold upsert
  rw [dif_pos h]
  rfl

theorem rows_upsert_of_not_mem {t : Rows source key} {a : α} (h : ¬ ∃ row ∈ t.rows, key row.columns = key a)
    : (t.upsert a).rows = t.rows ++ [⟨source.draw t.drawn, a⟩] := by
  unfold upsert
  rw [dif_neg h]
  rfl

def columns? (t : Rows source key) (k : κ) : Option α :=
  (t.rows.find? (fun row => key row.columns == k)).map Row.columns

theorem columns?_of_mem {t : Rows source key} {row : Row ι α} (h : row ∈ t.rows)
    : t.columns? (key row.columns) = some row.columns := by
  have hkeys : t.rows.Pairwise (fun a b => key a.columns ≠ key b.columns) := List.pairwise_map.mp t.keys
  have hfind : t.rows.find? (fun r => key r.columns == key row.columns) = some row :=
    (Table.find?_key_eq_some_iff hkeys).mpr ⟨h, rfl⟩
  unfold columns?
  rw [hfind]
  rfl

theorem columns?_eq_none_iff {t : Rows source key} {k : κ}
    : t.columns? k = none ↔ ¬ ∃ row ∈ t.rows, key row.columns = k := by
  simp [columns?]

theorem columns?_upsert (t : Rows source key) (a : α) (k : κ)
    : (t.upsert a).columns? k = if key a = k then some a else t.columns? k := by
  by_cases h : ∃ row ∈ t.rows, key row.columns = key a
  . have hrows := rows_upsert_of_mem h
    by_cases hk : key a = k
    . subst hk
      obtain ⟨old, hold, hkey⟩ := h
      have hmem : ⟨old.id, a⟩ ∈ (t.upsert a).rows := by
        rw [hrows]
        exact Table.mem_updateWhere.mpr (.inl ⟨old, hold, by simpa using hkey, rfl⟩)
      rw [if_pos rfl]
      exact columns?_of_mem hmem
    . rw [if_neg hk]
      cases hold : t.columns? k with
      | none =>
        rw [columns?_eq_none_iff] at hold ⊢
        rw [hrows]
        rintro ⟨row, hrow, hkey⟩
        rcases Table.mem_updateWhere.mp hrow with ⟨old, _, _, rfl⟩ | ⟨hrow, -⟩
        . exact hk hkey
        . exact hold ⟨row, hrow, hkey⟩
      | some b =>
        obtain ⟨row, hrow, rfl⟩ := Option.map_eq_some_iff.mp hold
        have hkey : key row.columns = k := by simpa using List.find?_some hrow
        have hmem : row ∈ (t.upsert a).rows := by
          rw [hrows]
          refine Table.mem_updateWhere.mpr (.inr ⟨List.mem_of_find?_eq_some hrow, ?_⟩)
          rw [hkey]
          simpa using Ne.symm hk
        rw [← hkey]
        exact columns?_of_mem hmem
  . have hrows := rows_upsert_of_not_mem h
    unfold columns?
    rw [hrows, List.find?_append, List.find?_singleton]
    by_cases hk : key a = k
    . subst hk
      have hnone : t.rows.find? (fun row => key row.columns == key a) = none := by
        rw [List.find?_eq_none]
        intro row hrow hkey
        exact h ⟨row, hrow, by simpa using hkey⟩
      simp [hnone]
    . simp [hk]

def places (t : Rows source key) : List (ι × κ) :=
  t.rows.map (fun row => (row.id, key row.columns))

omit [DecidableEq κ] in
theorem exists_of_mem_places {t : Rows source key} {place : ι × κ} (h : place ∈ t.places)
    : ∃ row ∈ t.rows, key row.columns = place.2 := by
  obtain ⟨row, hrow, rfl⟩ := List.mem_map.mp h
  exact ⟨row, hrow, rfl⟩

theorem rows_ext {t t' : Rows source key} (hplaces : t.places = t'.places)
    (hcolumns : ∀ k, t.columns? k = t'.columns? k) : t.rows = t'.rows := by
  have hlength : t.rows.length = t'.rows.length := by
    have h := congrArg List.length hplaces
    rwa [places, places, List.length_map, List.length_map] at h
  apply List.ext_getElem hlength
  intro n hn hn'
  have hplace : (t.rows[n].id, key t.rows[n].columns) = (t'.rows[n].id, key t'.rows[n].columns) := by
    have h := congrArg (fun l => l[n]?) hplaces
    simpa [places, hn, hn'] using h
  rw [Prod.mk.injEq] at hplace
  have hsame : some t.rows[n].columns = some t'.rows[n].columns := by
    rw [← columns?_of_mem (List.getElem_mem hn), ← columns?_of_mem (List.getElem_mem hn'), hplace.2]
    exact hcolumns _
  have hid := hplace.1
  cases hrow : t.rows[n]
  cases hrow' : t'.rows[n]
  rw [hrow, hrow'] at hid hsame
  cases hid
  cases hsame
  rfl

theorem places_upsert_of_mem {t : Rows source key} {a : α} (h : ∃ row ∈ t.rows, key row.columns = key a)
    : (t.upsert a).places = t.places := by
  unfold places
  rw [rows_upsert_of_mem h]
  unfold overwrite Table.updateWhere
  rw [List.map_map]
  apply List.map_congr_left
  intro row _
  by_cases hkey : key row.columns = key a
  . simp [hkey]
  . simp [hkey]

theorem prefix_places_upsert (t : Rows source key) (a : α) : t.places <+: (t.upsert a).places := by
  by_cases h : ∃ row ∈ t.rows, key row.columns = key a
  . rewrite [places_upsert_of_mem h]
    apply List.prefix_refl
  . unfold places
    rw [rows_upsert_of_not_mem h, List.map_append]
    apply List.prefix_append

theorem mem_upsert {t : Rows source key} {a : α} {row : Row ι α} (h : row ∈ (t.upsert a).rows)
    : row.columns = a ∨ row ∈ t.rows := by
  by_cases hkey : ∃ row ∈ t.rows, key row.columns = key a
  . rw [rows_upsert_of_mem hkey] at h
    rcases Table.mem_updateWhere.mp h with ⟨old, -, -, rfl⟩ | ⟨hrow, -⟩
    . exact .inl rfl
    . exact .inr hrow
  . rw [rows_upsert_of_not_mem hkey, List.mem_append, List.mem_singleton] at h
    rcases h with hrow | rfl
    . exact .inr hrow
    . exact .inl rfl

theorem places_foldl_upsert {t : Rows source key} {as : List α}
    (h : ∀ a ∈ as, ∃ row ∈ t.rows, key row.columns = key a) : (as.foldl upsert t).places = t.places := by
  induction as generalizing t with
  | nil => rfl
  | cons a as ih =>
    have hplaces := places_upsert_of_mem (h a List.mem_cons_self)
    rw [List.foldl_cons, ih, hplaces]
    intro b hb
    obtain ⟨row, hrow, hkey⟩ := h b (List.mem_cons_of_mem a hb)
    have hmem : (row.id, key row.columns) ∈ (t.upsert a).places := by
      rw [hplaces]
      exact List.mem_map_of_mem hrow
    obtain ⟨row', hrow', hkey'⟩ := exists_of_mem_places hmem
    exact ⟨row', hrow', hkey'.trans hkey⟩

theorem columns?_foldl_upsert (t : Rows source key) (as : List α) (k : κ)
    : (as.foldl upsert t).columns? k = (as.reverse.find? (fun a => key a == k)).or (t.columns? k) :=
  Table.get_foldl_put columns?_upsert t as k

theorem exists_row_foldl_upsert (t : Rows source key) {as : List α} {a : α} (h : a ∈ as)
    : ∃ row ∈ (as.foldl upsert t).rows, key row.columns = key a := by
  by_contra hnone
  rw [← columns?_eq_none_iff, columns?_foldl_upsert, Option.or_eq_none_iff, List.find?_eq_none] at hnone
  exact hnone.1 a (List.mem_reverse.mpr h) (by simp)

theorem rows_foldl_upsert_twice (t : Rows source key) (as : List α)
    : (as.foldl upsert (as.foldl upsert t)).rows = (as.foldl upsert t).rows := by
  apply rows_ext
  . apply places_foldl_upsert
    exact fun a ha => exists_row_foldl_upsert t ha
  . intro k
    rw [columns?_foldl_upsert, columns?_foldl_upsert]
    cases as.reverse.find? (fun a => key a == k) with
    | none => rfl
    | some a => rfl

theorem filter_foldl_upsert (t : Rows source key) {as : List α} {p : κ → Bool} (h : ∀ a ∈ as, p (key a) = false)
    : (as.foldl upsert t).rows.filter (fun row => p (key row.columns))
        =
      t.rows.filter (fun row => p (key row.columns)) := by
  induction as generalizing t with
  | nil => rfl
  | cons a as ih =>
    have ha := h a List.mem_cons_self
    rw [List.foldl_cons, ih _ (fun b hb => h b (List.mem_cons_of_mem a hb))]
    by_cases hkey : ∃ row ∈ t.rows, key row.columns = key a
    . rw [rows_upsert_of_mem hkey]
      unfold overwrite
      clear ih hkey
      induction t.rows with
      | nil => rfl
      | cons row rows ih =>
        simp only [Table.updateWhere, List.map_cons, List.filter_cons] at ih ⊢
        rw [ih]
        by_cases hrow : key row.columns = key a
        . simp [hrow, ha]
        . simp [hrow]
    . rw [rows_upsert_of_not_mem hkey, List.filter_append]
      simp [ha]

end Rows

section Same

def Alike (base : List ι) (row row' : Row ι α) : Prop :=
  row.columns = row'.columns ∧ (row.id = row'.id ∨ (row.id ∉ base ∧ row'.id ∉ base))

def Same (base : List ι) (rows rows' : List (Row ι α)) : Prop :=
  List.Forall₂ (Alike base) rows rows'

variable {base : List ι} {t t' : Rows source key}

theorem Same.refl (base : List ι) (rows : List (Row ι α)) : Same base rows rows :=
  List.forall₂_same.mpr (fun _ _ => ⟨rfl, .inl rfl⟩)

theorem Same.columns {rows rows' : List (Row ι α)} (h : Same base rows rows')
    : rows.map Row.columns = rows'.map Row.columns := by
  induction h with
  | nil => rfl
  | cons hrow _ ih => rw [List.map_cons, List.map_cons, hrow.1, ih]

omit [DecidableEq κ] in
theorem exists_key_iff (k : κ) (rows : List (Row ι α))
    : (∃ row ∈ rows, key row.columns = k) ↔ k ∈ (rows.map Row.columns).map key := by
  simp

theorem same_overwrite {rows rows' : List (Row ι α)} (h : Same base rows rows') (a : α)
    : Same base (overwrite key a rows) (overwrite key a rows') := by
  induction h with
  | nil => exact .nil
  | @cons row row' rows rows' hrow _ ih =>
    refine .cons ?_ ih
    obtain ⟨hcolumns, hid⟩ := hrow
    by_cases hkey : key row.columns = key a
    . have hkey' : key row'.columns = key a := hcolumns ▸ hkey
      simp only [hkey, hkey', decide_true, ↓reduceIte]
      exact ⟨rfl, hid⟩
    . have hkey' : ¬ key row'.columns = key a := hcolumns ▸ hkey
      simp only [hkey, hkey', decide_false, Bool.false_eq_true, ↓reduceIte]
      exact ⟨hcolumns, hid⟩

theorem same_upsert (h : Same base t.rows t'.rows) (hfresh : ∀ n, t.drawn ≤ n → source.draw n ∉ base)
    (hfresh' : ∀ n, t'.drawn ≤ n → source.draw n ∉ base) (a : α)
    : Same base (t.upsert a).rows (t'.upsert a).rows := by
  have hiff : (∃ row ∈ t.rows, key row.columns = key a) ↔ ∃ row ∈ t'.rows, key row.columns = key a := by
    rw [exists_key_iff, exists_key_iff, h.columns]
  by_cases hkey : ∃ row ∈ t.rows, key row.columns = key a
  . rw [Rows.rows_upsert_of_mem hkey, Rows.rows_upsert_of_mem (hiff.mp hkey)]
    exact same_overwrite h a
  . rw [Rows.rows_upsert_of_not_mem hkey, Rows.rows_upsert_of_not_mem (fun h' => hkey (hiff.mpr h'))]
    apply List.rel_append h
    exact .cons ⟨rfl, .inr ⟨hfresh _ (Nat.le_refl _), hfresh' _ (Nat.le_refl _)⟩⟩ .nil

theorem same_foldl_upsert (h : Same base t.rows t'.rows) (hfresh : ∀ n, t.drawn ≤ n → source.draw n ∉ base)
    (hfresh' : ∀ n, t'.drawn ≤ n → source.draw n ∉ base) (as : List α)
    : Same base (as.foldl Rows.upsert t).rows (as.foldl Rows.upsert t').rows := by
  induction as generalizing t t' with
  | nil => exact h
  | cons a as ih =>
    rw [List.foldl_cons, List.foldl_cons]
    apply ih (same_upsert h hfresh hfresh' a)
    . intro n hn
      rw [Rows.drawn_upsert] at hn
      exact hfresh n (by omega)
    . intro n hn
      rw [Rows.drawn_upsert] at hn
      exact hfresh' n (by omega)

theorem drawn_foldl_upsert (t : Rows source key) (as : List α)
    : (as.foldl Rows.upsert t).drawn = t.drawn + as.length := by
  induction as generalizing t with
  | nil => rfl
  | cons a as ih =>
    rw [List.foldl_cons, ih, Rows.drawn_upsert, List.length_cons]
    omega

/--
A run that starts over after the first entries `xs` ends as the run that was not interrupted, up to the ids
that are drawn for keys that are new.
-/
theorem same_resumed (t : Rows source key) (xs ys : List α)
    : Same (t.rows.map Row.id) ((xs ++ ys).foldl Rows.upsert (xs.foldl Rows.upsert t)).rows
        ((xs ++ ys).foldl Rows.upsert t).rows := by
  have hfresh : ∀ n, t.drawn ≤ n → source.draw n ∉ t.rows.map Row.id := by
    intro n hn hmem
    obtain ⟨row, hrow, hid⟩ := List.mem_map.mp hmem
    exact t.fresh row hrow n hn hid.symm
  rw [List.foldl_append, List.foldl_append]
  apply same_foldl_upsert
  . rw [Rows.rows_foldl_upsert_twice]
    exact .refl _ _
  . intro n hn
    rw [drawn_foldl_upsert, drawn_foldl_upsert] at hn
    exact hfresh n (by omega)
  . intro n hn
    rw [drawn_foldl_upsert] at hn
    exact hfresh n (by omega)

end Same

end Keyed
