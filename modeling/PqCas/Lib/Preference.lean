import Mathlib.Data.List.Pairwise
import Mathlib.Data.List.Forall2
import Mathlib.Tactic.Common

/-!
This module contains the choice of a party that has a preference list, and what can be learned about
the list by asking again without what was chosen before. Two spellings stand for the same thing when
they have the same key.
-/

namespace Preference

variable {α κ : Type} [DecidableEq κ] (key : α → κ)

def offered (offer : List α) (a : α) : Bool :=
  offer.any (fun b => key b == key a)

def best (preferences offer : List α) : Option α :=
  preferences.find? (offered key offer)

def present (preferences offer : List α) : List α :=
  preferences.filter (offered key offer)

def without (offer : List α) (a : α) : List α :=
  offer.filter (fun b => !(key b == key a))

/--
`Recovers key preferences offer picks`: what comes back, in some spelling, when the choice is taken
out of the offer until there is none.
-/
inductive Recovers (preferences : List α) : List α → List α → Prop where
  | done {offer : List α} (h : best key preferences offer = none) : Recovers preferences offer []
  | pick {offer rest : List α} {chosen reported : α} (h : best key preferences offer = some chosen)
      (hkey : key reported = key chosen)
      (htail : Recovers preferences (without key offer reported) rest)
    : Recovers preferences offer (reported :: rest)

variable {key}

theorem offered_congr {a b : α} (h : key a = key b) (offer : List α)
    : offered key offer a = offered key offer b := by
  unfold offered
  rw [h]

theorem offered_without_self {a b : α} (h : key b = key a) (offer : List α)
    : offered key (without key offer a) b = false := by
  unfold offered without
  rw [List.any_filter, h]
  apply List.any_eq_false.mpr
  intro c _
  cases key c == key a <;> simp

theorem offered_without {a b : α} (h : key b ≠ key a) (offer : List α)
    : offered key (without key offer a) b = offered key offer b := by
  unfold offered without
  rw [List.any_filter]
  congr 1
  funext c
  by_cases hc : key c = key b
  . simp [hc, h]
  . simp [hc]

theorem without_congr {a b : α} (h : key a = key b) (offer : List α)
    : without key offer a = without key offer b := by
  unfold without
  rw [h]

theorem length_without_lt {offer : List α} {a : α} (h : offered key offer a = true)
    : (without key offer a).length < offer.length := by
  unfold offered at h
  obtain ⟨b, hb, hkey⟩ := List.any_eq_true.mp h
  unfold without
  apply List.length_filter_lt_length_iff_exists.mpr
  exact ⟨b, hb, by simp [hkey]⟩

theorem present_eq_nil {preferences offer : List α} (h : best key preferences offer = none)
    : present key preferences offer = [] := by
  unfold best at h
  unfold present
  rw [List.filter_eq_nil_iff]
  exact List.find?_eq_none.mp h

theorem present_eq_cons {preferences offer : List α} {chosen : α}
    (hdistinct : preferences.Pairwise (fun a b => key a ≠ key b))
    (h : best key preferences offer = some chosen)
    : present key preferences offer = chosen :: present key preferences (without key offer chosen) := by
  obtain ⟨hoffered, before, after, rfl, hbefore⟩ := List.find?_eq_some_iff_append.mp h
  obtain ⟨-, hafter, hacross⟩ := List.pairwise_append.mp hdistinct
  have hbefore_nil : ∀ offer' : List α, (∀ a ∈ before, offered key offer' a = false) →
      before.filter (offered key offer') = [] := by
    intro offer' hnone
    rw [List.filter_eq_nil_iff]
    intro a ha
    simp [hnone a ha]
  have hbefore_without : ∀ a ∈ before, offered key (without key offer chosen) a = false := by
    intro a ha
    rw [offered_without (hacross a ha chosen List.mem_cons_self)]
    simpa using hbefore a ha
  have hafter_without : after.filter (offered key (without key offer chosen))
      = after.filter (offered key offer) := by
    apply List.filter_congr
    intro b hb
    exact offered_without ((List.pairwise_cons.mp hafter).1 b hb).symm offer
  unfold present
  rw [List.filter_append, List.filter_append, List.filter_cons, List.filter_cons,
    hbefore_nil offer (fun a ha => by simpa using hbefore a ha), hbefore_nil _ hbefore_without,
    if_pos hoffered, if_neg (by simp [offered_without_self]), hafter_without, List.nil_append,
    List.nil_append]

theorem Recovers.forall₂ {preferences offer picks : List α}
    (hdistinct : preferences.Pairwise (fun a b => key a ≠ key b))
    (h : Recovers key preferences offer picks)
    : List.Forall₂ (fun a b => key a = key b) picks (present key preferences offer) := by
  induction h with
  | done h =>
    rw [present_eq_nil h]
    exact .nil
  | pick h hkey _ ih =>
    rw [present_eq_cons hdistinct h]
    rw [without_congr hkey] at ih
    exact .cons hkey ih

theorem Recovers.pairwise {preferences offer picks : List α}
    (hdistinct : preferences.Pairwise (fun a b => key a ≠ key b))
    (h : Recovers key preferences offer picks) : picks.Pairwise (fun a b => key a ≠ key b) := by
  have hmap : picks.map key = (present key preferences offer).map key := by
    rw [← List.forall₂_eq_eq_eq, List.forall₂_map_left_iff, List.forall₂_map_right_iff]
    exact h.forall₂ hdistinct
  have hpresent : (present key preferences offer).Pairwise (fun a b => key a ≠ key b) :=
    hdistinct.filter _
  rw [← List.pairwise_map] at hpresent ⊢
  rwa [hmap]

end Preference
