import Mathlib.Data.List.Basic
import Mathlib.Data.List.Pairwise

/-!
This module contains a Redis stream with one consumer group: the commands `XADD`, `XGROUP CREATE`,
`XREADGROUP`, `XAUTOCLAIM` and `XACK`, and what they do to the entries that nobody acknowledged yet.
-/

namespace Redis

variable {π κ : Type}

/--
A consumer group: the id that was delivered last and the entries that were delivered and not
acknowledged, each with the consumer that holds it.
-/
structure Group (κ : Type) where
  lastDelivered : Nat
  pending : List (Nat × κ)

/--
A stream. Entry ids increase, none is above the last id, and neither is what a group has delivered.
-/
structure Stream (π κ : Type) where
  entries : List (Nat × π)
  lastId : Nat
  group : Option (Group κ)
  /-- The entries that an `XACK` took off the pending list. -/
  acked : List Nat
  sorted : entries.Pairwise (fun a b => a.1 < b.1)
  le_lastId : ∀ e ∈ entries, e.1 ≤ lastId
  lastDelivered_le : ∀ g, group = some g → g.lastDelivered ≤ lastId
  acked_of_none : group = none → acked = []

namespace Stream

def empty : Stream π κ :=
  {
    entries := []
    lastId := 0
    group := none
    acked := []
    sorted := .nil
    le_lastId := by simp
    lastDelivered_le := by simp
    acked_of_none := by simp
  }

/--
`XADD stream *`: the new id is above every id there was.
-/
def xadd (s : Stream π κ) (id : Nat) (payload : π) (h : s.lastId < id) : Stream π κ :=
  { s with
    entries := s.entries ++ [(id, payload)]
    lastId := id
    sorted := by
      rw [List.pairwise_append]
      refine ⟨s.sorted, List.pairwise_singleton _ _, ?_⟩
      intro e he e' he'
      cases List.mem_singleton.mp he'
      have := s.le_lastId e he
      dsimp only
      omega
    le_lastId := by
      intro e he
      rw [List.mem_append, List.mem_singleton] at he
      rcases he with he | rfl
      . have := s.le_lastId e he
        omega
      . exact Nat.le_refl _
    lastDelivered_le := by
      intro g hg
      have := s.lastDelivered_le g hg
      omega }

/--
`XGROUP CREATE stream group $ MKSTREAM`: the group starts behind the newest entry.
-/
def xgroupCreate (s : Stream π κ) : Except String (Stream π κ) :=
  match s.group with
  | some _ => .error "BUSYGROUP Consumer Group name already exists"
  | none =>
    .ok { s with
      group := some ⟨s.lastId, []⟩
      lastDelivered_le := by
        intro g hg
        cases hg
        exact Nat.le_refl _
      acked_of_none := by simp }

/--
The entries that `XREADGROUP ... COUNT count STREAMS stream >` returns.
-/
def unread (s : Stream π κ) (g : Group κ) (count : Nat) : List (Nat × π) :=
  (s.entries.filter (fun e => g.lastDelivered < e.1)).take count

theorem mem_entries_of_mem_unread {s : Stream π κ} {g : Group κ} {count : Nat} {e : Nat × π}
    (h : e ∈ s.unread g count) : e ∈ s.entries :=
  List.mem_of_mem_filter (List.mem_of_mem_take h)

def xreadgroup (s : Stream π κ) (g : Group κ) (hg : s.group = some g) (consumer : κ) (count : Nat)
    : Stream π κ :=
  { s with
    group := some {
      lastDelivered := ((s.unread g count).getLast?.map Prod.fst).getD g.lastDelivered
      pending := g.pending ++ (s.unread g count).map (fun e => (e.1, consumer))
    }
    lastDelivered_le := by
      intro g' hg'
      cases hg'
      dsimp only
      cases hlast : (s.unread g count).getLast? with
      | none => exact s.lastDelivered_le g hg
      | some e =>
        apply s.le_lastId e
        exact mem_entries_of_mem_unread (List.mem_of_getLast? hlast)
    acked_of_none := by simp }

/--
The ids that `XAUTOCLAIM ... COUNT count` takes over, given which entries have been idle for long
enough.
-/
def stale (g : Group κ) (idle : Nat → Bool) (count : Nat) : List Nat :=
  ((g.pending.map Prod.fst).filter idle).take count

theorem ids_claimed (pending : List (Nat × κ)) (ids : List Nat) (consumer : κ)
    : (pending.map (fun p => if p.1 ∈ ids then (p.1, consumer) else p)).map Prod.fst
        =
      pending.map Prod.fst := by
  rw [List.map_map]
  apply List.map_congr_left
  intro p _
  dsimp only [Function.comp]
  split <;> rfl

def xautoclaim (s : Stream π κ) (g : Group κ) (hg : s.group = some g) (consumer : κ)
    (idle : Nat → Bool) (count : Nat) : Stream π κ :=
  { s with
    group := some { g with
      pending := g.pending.map (fun p =>
        if p.1 ∈ stale g idle count then
          (p.1, consumer)
        else
          p) }
    lastDelivered_le := by
      intro g' hg'
      cases hg'
      exact s.lastDelivered_le g hg
    acked_of_none := by simp }

def xack (s : Stream π κ) (id : Nat) : Stream π κ :=
  match hg : s.group with
  | none => s
  | some g =>
    { s with
      group := some { g with pending := g.pending.filter (fun p => p.1 ≠ id) }
      acked :=
        if id ∈ g.pending.map Prod.fst then
          s.acked ++ [id]
        else
          s.acked
      lastDelivered_le := by
        intro g' hg'
        cases hg'
        exact s.lastDelivered_le g hg
      acked_of_none := by simp }

/--
No entry is lost to the group: one that nobody acknowledged will still be delivered or is pending.
-/
def NoSkip (s : Stream π κ) : Prop :=
  ∀ g, s.group = some g → ∀ e ∈ s.entries, e.1 ∉ s.acked →
    g.lastDelivered < e.1 ∨ e.1 ∈ g.pending.map Prod.fst

section NoSkip

variable {s : Stream π κ} {g : Group κ}

theorem noSkip_xadd (h : s.NoSkip) {id : Nat} {payload : π} (hid : s.lastId < id)
    : (s.xadd id payload hid).NoSkip := by
  intro g hg e he hacked
  dsimp only [xadd] at he
  rw [List.mem_append, List.mem_singleton] at he
  rcases he with he | rfl
  . exact h g hg e he hacked
  . have := s.lastDelivered_le g hg
    left
    dsimp only
    omega

theorem noSkip_xgroupCreate_iff {s' : Stream π κ} (h : s.xgroupCreate = .ok s')
    : s'.NoSkip ↔ s.entries = [] := by
  unfold xgroupCreate at h
  split at h
  . cases h
  . next hnone =>
    cases h
    constructor
    . intro h
      rw [List.eq_nil_iff_forall_not_mem]
      intro e he
      rcases h _ rfl e he (by simp [s.acked_of_none hnone]) with h | h
      . have := s.le_lastId e he
        dsimp only at h
        omega
      . cases h
    . intro hnil g _ e he
      dsimp only at he
      rw [hnil] at he
      cases he

theorem noSkip_xreadgroup (h : s.NoSkip) (hg : s.group = some g) (consumer : κ) (count : Nat)
    : (s.xreadgroup g hg consumer count).NoSkip := by
  intro g' hg' e he hacked
  cases hg'
  dsimp only
  rcases h g hg e he hacked with hnew | hpending
  . by_cases hread : e ∈ s.unread g count
    . right
      simp only [List.map_append, List.map_map, List.mem_append, List.mem_map]
      exact .inr ⟨e, hread, rfl⟩
    . -- What was not returned comes after everything that was.
      left
      cases hlast : (s.unread g count).getLast? with
      | none => exact hnew
      | some last =>
        have hmem : e ∈ s.entries.filter (fun e => g.lastDelivered < e.1) :=
          List.mem_filter.mpr ⟨he, by simpa using hnew⟩
        rw [← List.take_append_drop count (s.entries.filter _), List.mem_append] at hmem
        rcases hmem with hmem | hmem
        . exact absurd hmem hread
        . have hsorted := s.sorted.filter (fun e => g.lastDelivered < e.1)
          rw [← List.take_append_drop count (s.entries.filter _), List.pairwise_append] at hsorted
          exact hsorted.2.2 last (List.mem_of_getLast? hlast) e hmem
  . right
    rw [List.map_append, List.mem_append]
    exact .inl hpending

theorem noSkip_xautoclaim (h : s.NoSkip) (hg : s.group = some g) (consumer : κ) (idle : Nat → Bool)
    (count : Nat) : (s.xautoclaim g hg consumer idle count).NoSkip := by
  intro g' hg' e he hacked
  cases hg'
  dsimp only
  rw [ids_claimed]
  exact h g hg e he hacked

theorem noSkip_xack (h : s.NoSkip) (id : Nat) : (s.xack id).NoSkip := by
  unfold xack
  split
  . exact h
  . next g hg =>
    intro g' hg' e he hacked
    cases hg'
    dsimp only at he hacked ⊢
    have hne : e.1 = id → id ∉ g.pending.map Prod.fst := by
      rintro rfl hpending
      rw [if_pos hpending] at hacked
      simp at hacked
    have hold : e.1 ∉ s.acked := by
      intro hmem
      apply hacked
      split
      . exact List.mem_append_left _ hmem
      . exact hmem
    rcases h g hg e he hold with hnew | hpending
    . exact .inl hnew
    . right
      have hid : e.1 ≠ id := fun heq => hne heq (heq ▸ hpending)
      obtain ⟨p, hp, hfst⟩ := List.mem_map.mp hpending
      exact List.mem_map.mpr ⟨p, List.mem_filter.mpr ⟨hp, by simpa [hfst] using hid⟩, hfst⟩

end NoSkip

end Stream

end Redis
