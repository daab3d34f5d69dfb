import Mathlib.Data.List.Nodup
import PqCas.Lib.Stream

/-!
This module contains where the entries of a stream are once it has a group: behind the start of the
group, delivered, or still to come. It follows this through every command.
-/

namespace Redis.Stream

variable {π κ : Type} {s : Stream π κ} {g : Group κ} {skipped delivered : List (Nat × π)}

def waiting (s : Stream π κ) (g : Group κ) : List (Nat × π) :=
  s.entries.filter (fun e => g.lastDelivered < e.1)

/--
Every entry is in exactly one place: it was there before the group, it was delivered, or it waits. What
was delivered is pending until it is acknowledged.
-/
structure Ledger (s : Stream π κ) (g : Group κ) (skipped delivered : List (Nat × π)) : Prop where
  entries : s.entries = skipped ++ delivered ++ s.waiting g
  pending : g.pending.map Prod.fst = (delivered.map Prod.fst).filter (fun id => id ∉ s.acked)
  acked : ∀ id ∈ s.acked, id ∈ delivered.map Prod.fst

theorem nodup_ids (s : Stream π κ) : (s.entries.map Prod.fst).Nodup := by
  rw [List.Nodup, List.pairwise_map]
  exact s.sorted.imp (fun hlt => Nat.ne_of_lt hlt)

theorem unread_eq_take (s : Stream π κ) (g : Group κ) (count : Nat)
    : s.unread g count = (s.waiting g).take count := rfl

theorem filter_behind {xs ys : List (Nat × π)} {e : Nat × π}
    (h : (xs ++ e :: ys).Pairwise (fun a b => a.1 < b.1))
    : (xs ++ e :: ys).filter (fun a => e.1 < a.1) = ys := by
  rw [List.pairwise_append, List.pairwise_cons] at h
  obtain ⟨-, ⟨hys, -⟩, hxs⟩ := h
  have hbefore : xs.filter (fun a => e.1 < a.1) = [] := by
    rw [List.filter_eq_nil_iff]
    intro a ha
    have := hxs a ha e List.mem_cons_self
    simp only [decide_eq_true_eq]
    omega
  have hbehind : ys.filter (fun a => e.1 < a.1) = ys := by
    rw [List.filter_eq_self]
    intro a ha
    simpa using hys a ha
  rw [List.filter_append, hbefore, List.filter_cons_of_neg (by simp), hbehind, List.nil_append]

theorem mem_pending_of_mem_stale {idle : Nat → Bool} {count id : Nat} (h : id ∈ stale g idle count)
    : id ∈ g.pending.map Prod.fst :=
  List.mem_of_mem_filter (List.mem_of_mem_take h)

theorem acked_xgroupCreate {s' : Stream π κ} (h : s.xgroupCreate = .ok s') : s'.acked = s.acked := by
  unfold xgroupCreate at h
  split at h
  . cases h
  . cases h
    rfl

theorem entries_xgroupCreate {s' : Stream π κ} (h : s.xgroupCreate = .ok s') : s'.entries = s.entries := by
  unfold xgroupCreate at h
  split at h
  . cases h
  . cases h
    rfl

theorem entries_xack (s : Stream π κ) (id : Nat) : (s.xack id).entries = s.entries := by
  unfold xack
  split <;> rfl

theorem xack_of_none (hnone : s.group = none) (id : Nat) : s.xack id = s := by
  unfold xack
  split
  . rfl
  . next g hg =>
    rw [hnone] at hg
    cases hg

theorem group_xack (hg : s.group = some g) (id : Nat)
    : (s.xack id).group = some { g with pending := g.pending.filter (fun p => p.1 ≠ id) } := by
  unfold xack
  split
  . next hnone =>
    rw [hg] at hnone
    cases hnone
  . next g' hsome =>
    rw [hg] at hsome
    cases hsome
    rfl

theorem acked_xack (hg : s.group = some g) (id : Nat)
    : (s.xack id).acked = if id ∈ g.pending.map Prod.fst then s.acked ++ [id] else s.acked := by
  unfold xack
  split
  . next hnone =>
    rw [hg] at hnone
    cases hnone
  . next g' hsome =>
    rw [hg] at hsome
    cases hsome
    rfl

namespace Ledger

theorem of_xgroupCreate {s' : Stream π κ} (h : s.xgroupCreate = .ok s') (hg : s'.group = some g)
    : Ledger s' g s.entries [] := by
  unfold xgroupCreate at h
  split at h
  case h_1 => cases h
  case h_2 hnone =>
    cases h
    cases hg
    have hwaiting : s.entries.filter (fun e => s.lastId < e.1) = [] := by
      rw [List.filter_eq_nil_iff]
      intro e he
      have := s.le_lastId e he
      simp only [decide_eq_true_eq]
      omega
    constructor
    case entries =>
      unfold waiting
      dsimp only
      rw [hwaiting, List.append_nil, List.append_nil]
    case pending => rfl
    case acked =>
      dsimp only
      rw [s.acked_of_none hnone]
      simp

theorem xadd (h : Ledger s g skipped delivered) (hg : s.group = some g) {id : Nat} {payload : π}
    (hid : s.lastId < id) : Ledger (s.xadd id payload hid) g skipped delivered := by
  have hwaiting : (s.xadd id payload hid).waiting g = s.waiting g ++ [(id, payload)] := by
    have := s.lastDelivered_le g hg
    unfold waiting Stream.xadd
    dsimp only
    rw [List.filter_append, List.filter_cons_of_pos, List.filter_nil]
    simp only [decide_eq_true_eq]
    omega
  constructor
  case entries =>
    rw [hwaiting, ← List.append_assoc, ← h.entries]
    rfl
  case pending => exact h.pending
  case acked => exact h.acked

theorem sorted (h : Ledger s g skipped delivered)
    : (skipped ++ delivered ++ s.waiting g).Pairwise (fun a b => a.1 < b.1) :=
  h.entries ▸ s.sorted

theorem not_acked_of_waiting (h : Ledger s g skipped delivered) {e : Nat × π} (he : e ∈ s.waiting g)
    : e.1 ∉ s.acked := by
  intro hacked
  obtain ⟨d, hd, hid⟩ := List.mem_map.mp (h.acked e.1 hacked)
  have hsorted := h.sorted
  rw [List.pairwise_append] at hsorted
  have := hsorted.2.2 d (List.mem_append_right _ hd) e he
  omega

theorem mem_delivered (h : Ledger s g skipped delivered) {e : Nat × π} (he : e ∈ s.entries)
    (hpending : e.1 ∈ g.pending.map Prod.fst) : e ∈ delivered := by
  rw [h.pending] at hpending
  obtain ⟨d, hd, hid⟩ := List.mem_map.mp (List.mem_of_mem_filter hpending)
  have hmem : d ∈ s.entries := by
    rw [h.entries]
    simp [hd]
  have hsame : d = e := by
    exact List.inj_on_of_nodup_map s.nodup_ids hmem he hid
  exact hsame ▸ hd

theorem waiting_xreadgroup (h : Ledger s g skipped delivered) (count : Nat)
    : s.entries.filter (fun e => ((s.unread g count).getLast?.map Prod.fst).getD g.lastDelivered < e.1)
        =
      (s.waiting g).drop count := by
  cases hlast : (s.unread g count).getLast? with
  | none =>
    have hnil : (s.waiting g).take count = [] := List.getLast?_eq_none_iff.mp hlast
    have hdrop : s.waiting g = (s.waiting g).drop count := by
      conv =>
        lhs
        rw [← List.take_append_drop count (s.waiting g), hnil, List.nil_append]
    exact hdrop
  | some e =>
    obtain ⟨firsts, hfirsts⟩ := List.getLast?_eq_some_iff.mp hlast
    have hentries : s.entries = (skipped ++ delivered ++ firsts) ++ e :: (s.waiting g).drop count := by
      calc s.entries
        _ = skipped ++ delivered ++ ((s.waiting g).take count ++ (s.waiting g).drop count) := by
          rw [List.take_append_drop]
          exact h.entries
        _ = skipped ++ delivered ++ ((firsts ++ [e]) ++ (s.waiting g).drop count) := by
          rw [← unread_eq_take, hfirsts]
        _ = (skipped ++ delivered ++ firsts) ++ e :: (s.waiting g).drop count := by simp
    dsimp only [Option.map_some, Option.getD_some]
    rw [hentries]
    apply filter_behind
    exact hentries ▸ s.sorted

theorem xreadgroup (h : Ledger s g skipped delivered) (hg : s.group = some g) (consumer : κ)
    (count : Nat) {g' : Group κ} (hg' : (s.xreadgroup g hg consumer count).group = some g')
    : Ledger (s.xreadgroup g hg consumer count) g' skipped (delivered ++ s.unread g count) := by
  cases hg'
  constructor
  case entries =>
    have hwaiting := h.waiting_xreadgroup count
    unfold waiting at hwaiting ⊢
    dsimp only [Stream.xreadgroup]
    rw [hwaiting]
    calc s.entries
      _ = skipped ++ delivered ++ ((s.waiting g).take count ++ (s.waiting g).drop count) := by
        rw [List.take_append_drop]
        exact h.entries
      _ = skipped ++ (delivered ++ s.unread g count) ++ (s.waiting g).drop count := by
        rw [unread_eq_take]
        simp only [List.append_assoc]
  case pending =>
    have hnew : ((s.unread g count).map Prod.fst).filter (fun id => id ∉ s.acked)
        = (s.unread g count).map Prod.fst := by
      rw [List.filter_eq_self]
      intro id hid
      obtain ⟨e, he, rfl⟩ := List.mem_map.mp hid
      simpa using h.not_acked_of_waiting (List.mem_of_mem_take he)
    have hids : ((s.unread g count).map (fun e => (e.1, consumer))).map Prod.fst
        = (s.unread g count).map Prod.fst := by
      rw [List.map_map]
      rfl
    calc (g.pending ++ (s.unread g count).map (fun e => (e.1, consumer))).map Prod.fst
      _ = (delivered.map Prod.fst).filter (fun id => id ∉ s.acked) ++ (s.unread g count).map Prod.fst := by
        rw [List.map_append, h.pending, hids]
      _ = ((delivered ++ s.unread g count).map Prod.fst).filter (fun id => id ∉ s.acked) := by
        rw [List.map_append, List.filter_append, hnew]
  case acked =>
    intro id hid
    rw [List.map_append, List.mem_append]
    exact .inl (h.acked id hid)

theorem xautoclaim (h : Ledger s g skipped delivered) (hg : s.group = some g) (consumer : κ)
    (idle : Nat → Bool) (count : Nat) {g' : Group κ}
    (hg' : (s.xautoclaim g hg consumer idle count).group = some g')
    : Ledger (s.xautoclaim g hg consumer idle count) g' skipped delivered := by
  cases hg'
  constructor
  case entries => exact h.entries
  case pending => exact (ids_claimed g.pending _ consumer).trans h.pending
  case acked => exact h.acked

theorem xack (h : Ledger s g skipped delivered) (hg : s.group = some g) (id : Nat) {g' : Group κ}
    (hg' : (s.xack id).group = some g') : Ledger (s.xack id) g' skipped delivered := by
  rw [group_xack hg] at hg'
  cases hg'
  constructor
  case entries =>
    unfold waiting
    rw [entries_xack]
    exact h.entries
  case pending =>
    have hids : (g.pending.filter (fun p => p.1 ≠ id)).map Prod.fst
        = (g.pending.map Prod.fst).filter (fun i => i ≠ id) := by
      rw [List.filter_map]
      rfl
    rw [acked_xack hg, hids, h.pending, List.filter_filter]
    apply List.filter_congr
    intro i hi
    rw [Bool.eq_iff_iff]
    simp only [Bool.and_eq_true, decide_eq_true_eq]
    split
    . next hpending =>
      rw [List.mem_append, List.mem_singleton, not_or]
      exact And.comm
    . next hpending =>
      constructor
      . exact And.right
      . intro hacked
        refine ⟨?_, hacked⟩
        rintro rfl
        exact hpending (List.mem_filter.mpr ⟨hi, by simpa using hacked⟩)
  case acked =>
    intro i hi
    rw [acked_xack hg] at hi
    split at hi
    . next hpending =>
      rw [List.mem_append, List.mem_singleton] at hi
      rcases hi with hi | rfl
      . exact h.acked i hi
      . rw [h.pending] at hpending
        exact List.mem_of_mem_filter hpending
    . exact h.acked i hi

end Ledger

end Redis.Stream
